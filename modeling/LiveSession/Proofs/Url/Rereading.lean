import LiveSession.Proofs.Url.Origins

/-!
# Reading URLs again

The text of a canonical URL is a URL again, unless its host is a name that is not read again:
`unread_text`. Such a name is the form in which a domain name is sent that is too long to be read.
-/

namespace LiveSession.Url

variable {u : Url} {h h' : Host} {fault : Fault}

theorem readDomain_ascii {name : List Char} (ascii : Idna.toAscii? name = some name)
    (allowed : name.any isForbiddenInDomain = false) (nonempty : name ≠ [])
    (named : endsInNumber name = false) : readDomain name = .ok (.domain (String.ofList name)) := by
  have plain : '%' ∉ name := fun percent => (isInName_of_domain allowed _ percent).2 rfl
  have found : asciiDomain? name = some name := by
    rw [asciiDomain?, ascii, Option.filter_some, allowed]
    rfl
  unfold readDomain
  rw [Percent.decodeText?_of_not_mem plain, Option.bind_some, found]
  split
  · contradiction
  · rename_i empty
    exact absurd (Option.some.inj empty) nonempty
  · rename_i same
    cases same
    rw [if_neg (by simp [named])]

theorem Host.Canonical.unread (canonical : h.Canonical) (unread : readHost true h.text.toList = .error fault) :
    ∃ name, h = .domain name ∧ Idna.toAscii? name.toList = none := by
  cases canonical with
  | @domain cs name ascii allowed nonempty named =>
    rw [Host.text, String.toList_ofList,
      readHost_name fun c member => (isInName_of_domain allowed c member).1] at unread
    refine ⟨String.ofList name, rfl, ?_⟩
    rw [String.toList_ofList]
    by_contra read
    obtain ⟨again, found⟩ := Option.ne_none_iff_exists'.mp read
    cases Idna.toAscii?_of_toAscii? ascii found
    rw [readDomain_ascii found allowed nonempty named] at unread
    cases unread
  | @ipv4 address word =>
    rw [Host.text, readHost_name fun c member => isInName_of_mem_ipv4Text member,
      readDomain_ipv4Text word] at unread
    cases unread
  | @ipv6 pieces eight small =>
    rw [Host.toList_ipv6] at unread
    simp only [readHost, readBracketed, List.getLast?_concat, List.dropLast_concat,
      readIpv6?_ipv6Text eight small] at unread
    cases unread

theorem readHost_of_readFromHost {hadUser : Bool} {port : Option Nat} {cs : List Char}
    (web : IsWeb u.scheme) (canonical : h.Canonical) (small : ∀ p ∈ port, p < 65536)
    (unread : readFromHost u hadUser (hostPort h port ++ '/' :: cs) = .error fault) :
    readHost true h.text.toList = .error fault := by
  have length := canonical.hostLength_text (endsHost_port port cs)
  have some_ : h.text.toList.length ≠ 0 := by simpa using canonical.text_ne_nil
  unfold readFromHost at unread
  rw [hostPort, List.append_assoc, web.isSpecial.1] at unread
  simp only [length, List.take_left, List.drop_left] at unread
  rw [if_neg fun both => some_ both.1] at unread
  cases found : readHost true h.text.toList with
  | error fault' =>
    rw [found] at unread
    cases unread
    rfl
  | ok h' =>
    rw [found] at unread
    cases port with
    | none => cases unread
    | some p =>
      simp only [Option.elim_some, List.cons_append, readPort_digits (small p rfl)] at unread
      cases unread

theorem unread_text (canonical : u.Canonical) {base : Url} (unread : base.join u.text = .error fault) :
    ∃ name, u.host = some (.domain name) ∧ Idna.toAscii? name.toList = none := by
  obtain ⟨h, is, named⟩ := canonical.host
  obtain ⟨cs, same⟩ := join_text canonical is named base
  obtain ⟨v, hadUser, scheme, -, after⟩ := readAfterSlashes_eq canonical named cs
  rw [same, after] at unread
  have host := readHost_of_readFromHost (scheme ▸ canonical.web) named canonical.port unread
  obtain ⟨name, rfl, unnamed⟩ := named.unread host
  exact ⟨name, is, unnamed⟩

end LiveSession.Url
