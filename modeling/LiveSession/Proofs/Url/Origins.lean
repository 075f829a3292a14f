import LiveSession.Proofs.Url.Canonical

/-!
# Origins

Whoever reads the text of a canonical URL, relative to anything, gets a URL of the same origin, if
any: `sameOrigin_join_text`. Its user, host and port are all found again before the slash that its
path begins with.
-/

namespace LiveSession.Url

open Text

variable {u r : Url} {cs : List Char} {scheme : String} {h : Host}

/-! ### Host and port -/

/-- What stands between the two slashes of a URL and its path. -/
def hostPort (h : Host) (port : Option Nat) : List Char :=
  h.text.toList ++ port.elim [] fun p => ':' :: Nat.toDigits 10 p

theorem effectivePort?_withPort? (portless : u.port = none) (port : Option Nat) :
    (u.withPort? port).effectivePort? = port.or (defaultPort? u.scheme) := by
  unfold withPort? effectivePort?
  cases port with
  | none =>
    rw [Option.elim_none, portless]
    rfl
  | some p =>
    rw [Option.elim_some]
    unfold withPort
    by_cases standard : defaultPort? u.scheme = some p
    · simp [standard]
    · simp [standard]

theorem readPort_digits {p : Nat} (small : p < 65536) (cs : List Char) :
    readPort (Nat.toDigits 10 p ++ '/' :: cs) = .ok (some p, '/' :: cs) := by
  have digits : ∀ c ∈ Nat.toDigits 10 p, c.isDigit = true := fun c member =>
    Nat.isDigit_of_mem_toDigits (by decide) (by decide) member
  have taken : (Nat.toDigits 10 p ++ '/' :: cs).takeWhile Char.isDigit = Nat.toDigits 10 p := by
    rw [List.takeWhile_append_of_pos digits, List.takeWhile_cons_of_neg (by decide), List.append_nil]
  have value : (Nat.toDigits 10 p).foldl (fun n d => n * 10 + (d.toNat - '0'.toNat)) 0 = p := by
    have read : Nat.ofDigitChars 10 (Nat.toDigits 10 p) 0 = p :=
      Nat.ofDigitChars_toDigits (by decide) (by decide)
    rw [Nat.ofDigitChars_eq_foldl] at read
    simpa only [Nat.mul_comm 10] using read
  unfold readPort
  simp only [taken, value, List.drop_left, if_neg Nat.toDigits_ne_nil]
  rw [if_neg (by omega)]
  rfl

theorem endsHost_port (port : Option Nat) (cs : List Char) :
    EndsHost ((port.elim [] fun p => ':' :: Nat.toDigits 10 p) ++ '/' :: cs) := by
  cases port with
  | none =>
    intro c head
    cases head
    exact .inr (.inl (by decide))
  | some p =>
    intro c head
    cases head
    exact .inl rfl

theorem readFromHost_hostPort {hadUser : Bool} {port : Option Nat} (web : IsWeb u.scheme)
    (portless : u.port = none) (canonical : h.Canonical) (small : ∀ p ∈ port, p < 65536)
    (read : readFromHost u hadUser (hostPort h port ++ '/' :: cs) = .ok r) :
    r.scheme = u.scheme ∧ r.host = some h ∧
      r.effectivePort? = port.or (defaultPort? u.scheme) := by
  have length := canonical.hostLength_text (endsHost_port port cs)
  obtain ⟨h', host, after⟩ := readFromHost_cases read
  rw [hostPort, List.append_assoc, web.isSpecial.1, length, List.take_left] at host
  rw [hostPort, List.append_assoc, web.isSpecial.1, length, List.drop_left] at after
  cases canonical.readHost_text host
  let v : Url := { u with host := some h }
  have origin (port : Option Nat) (rest : List Char) :
      let r := readPathAfterHost (v.withPort? port) rest
      r.scheme = u.scheme ∧ r.host = some h ∧
        r.effectivePort? = port.or (defaultPort? u.scheme) := by
    have same := (readPathAfterHost_beside (v.withPort? port) rest).sameOrigin
    have ported := v.effectivePort?_withPort? portless port
    refine ⟨same.1.trans ?_, same.2.1.trans ?_, same.2.2.trans ported⟩ <;> cases port <;> rfl
  cases port with
  | none =>
    obtain ⟨_, _, _, colon, _, _⟩ | ⟨_, rfl⟩ := after
    · cases colon
    · exact origin none _
  | some p =>
    obtain ⟨after, port, rest, colon, ported, rfl⟩ | ⟨other, _⟩ := after
    · have digits : Nat.toDigits 10 p ++ '/' :: cs = after := (List.cons.inj colon).2
      rw [← digits, readPort_digits (small p rfl)] at ported
      cases ported
      exact origin (some p) _
    · exact absurd rfl (other _)

/-! ### The user -/

/-- What a URL names between its slashes: the user, if any, and the host. -/
def authority (u : Url) (h : Host) : List Char :=
  u.userText.toList ++ hostPort h u.port

theorem isWithinHost_of_keptInUser {c : Char} (kept : keptInUser c = true) :
    isWithinHost c = true := by
  simp only [keptInUser, keptInPath, keptInFragment, isGraphicAscii, Bool.and_eq_true,
    Bool.not_eq_true', decide_eq_true_eq, List.contains_eq_mem, decide_eq_false_iff_not,
    String.reduceToList, List.mem_cons, not_or] at kept
  rw [isWithinHost_iff]
  have space : c.toNat = 0x20 → c = ' ' := fun same => Char.toNat_inj.mp same
  grind

theorem mem_hostPort {c : Char} {port : Option Nat} (canonical : h.Canonical)
    (member : c ∈ hostPort h port) : isWithinHost c = true := by
  rcases List.mem_append.mp member with name | ported
  · exact canonical.mem_text name
  · cases port with
    | none => cases ported
    | some p =>
      rw [Option.elim_some] at ported
      rcases List.mem_cons.mp ported with rfl | digit
      · decide
      · obtain ⟨d, small, rfl⟩ := digit_of_mem_toDigits (by decide) digit
        exact (isInName_iff.mp (isInName_digitChar d (by omega))).1

/-- The user of a URL as it is written, without the `@`. -/
theorem userText_cases (canonical : u.Canonical) :
    u.userText.toList = [] ∨ ∃ user, user ≠ [] ∧ u.userText.toList = user ++ ['@'] ∧
      ∀ c ∈ user, isWithinHost c = true := by
  have username : ∀ c ∈ u.username.toList, isWithinHost c = true := fun c member =>
    isWithinHost_of_keptInUser (canonical.username c member)
  have password : ∀ c ∈ u.password.toList, isWithinHost c = true := fun c member =>
    isWithinHost_of_keptInUser (canonical.password c member)
  unfold userText
  split
  · exact .inl rfl
  · rename_i someone
    split
    · rename_i open_
      have named : u.username ≠ "" := fun none_ => someone ⟨none_, open_⟩
      exact .inr ⟨u.username.toList, by simpa using named, by simp, username⟩
    · refine .inr ⟨u.username.toList ++ ':' :: u.password.toList, by simp, by simp, ?_⟩
      intro c member
      rcases List.mem_append.mp member with name | rest
      · exact username c name
      · rcases List.mem_cons.mp rest with rfl | secret
        · decide
        · exact password c secret

/-- Characters between the two slashes of a URL and its path. -/
def isInAuthority (c : Char) : Bool :=
  isWithinHost c || c == '@'

theorem plain_of_isInAuthority {c : Char} (inside : isInAuthority c = true) :
    isEdge c = false ∧ isSlash true c = false ∧ endsPath c = false := by
  rcases Bool.or_eq_true_iff.mp inside with within | at_
  · exact ⟨not_isEdge within, not_isSlash within true, not_endsPath within⟩
  · rw [beq_iff_eq.mp at_]
    decide

theorem takeWhile_authority {front : List Char} (inside : ∀ c ∈ front, isInAuthority c = true)
    (cs : List Char) :
    (front ++ '/' :: cs).takeWhile (fun c => !(isSlash true c || endsPath c)) = front := by
  have kept : ∀ c ∈ front, (!(isSlash true c || endsPath c)) = true := by
    intro c member
    have ⟨_, slash, tail⟩ := plain_of_isInAuthority (inside c member)
    rw [slash, tail]
    rfl
  rw [List.takeWhile_append_of_pos kept, List.takeWhile_cons_of_neg (by decide), List.append_nil]

theorem cutUser_nobody {front : List Char} (within : ∀ c ∈ front, isWithinHost c = true)
    (cs : List Char) : cutUser true (front ++ '/' :: cs) = none := by
  have plain : '@' ∉ front.reverse := fun at_ =>
    absurd (within _ (List.mem_reverse.mp at_)) (by decide)
  have inside : ∀ c ∈ front, isInAuthority c = true := fun c member => by
    simp [isInAuthority, within c member]
  unfold cutUser
  simp only [takeWhile_authority inside, cut?_eq_none.mpr plain]

theorem cutUser_somebody {user front : List Char} (user_within : ∀ c ∈ user, isWithinHost c = true)
    (within : ∀ c ∈ front, isWithinHost c = true) (cs : List Char) :
    cutUser true (user ++ '@' :: (front ++ '/' :: cs)) = some (user, front ++ '/' :: cs) := by
  have plain : '@' ∉ front.reverse := fun at_ =>
    absurd (within _ (List.mem_reverse.mp at_)) (by decide)
  have inside : ∀ c ∈ user ++ '@' :: front, isInAuthority c = true := by
    intro c member
    rcases List.mem_append.mp member with name | rest
    · simp [isInAuthority, user_within c name]
    · rcases List.mem_cons.mp rest with rfl | other
      · decide
      · simp [isInAuthority, within c other]
  have whole : user ++ '@' :: (front ++ '/' :: cs) = (user ++ '@' :: front) ++ '/' :: cs := by simp
  have reversed : (user ++ '@' :: front).reverse = front.reverse ++ '@' :: user.reverse := by simp
  unfold cutUser
  rw [whole]
  simp only [takeWhile_authority inside, reversed, cut?_append plain, List.reverse_reverse,
    List.drop_left]

/-- What is read behind two slashes is the user, if any, and then the host. -/
theorem readAfterSlashes_eq (canonical : u.Canonical) (named : h.Canonical) (cs : List Char) :
    ∃ v hadUser, v.scheme = u.scheme ∧ v.port = none ∧
      readAfterSlashes (bare u.scheme) (u.authority h ++ '/' :: cs) =
        readFromHost v hadUser (hostPort h u.port ++ '/' :: cs) := by
  have within : ∀ c ∈ hostPort h u.port, isWithinHost c = true := fun c => mem_hostPort named
  unfold readAfterSlashes
  rw [show isSpecial (bare u.scheme).scheme = true from canonical.web.isSpecial.1]
  rcases userText_cases canonical with nobody | ⟨user, someone, written, user_within⟩
  · rw [authority, nobody, List.nil_append]
    simp only [cutUser_nobody within]
    exact ⟨bare u.scheme, false, rfl, rfl, rfl⟩
  · rw [authority, written, List.append_assoc, List.append_assoc, List.singleton_append]
    simp only [cutUser_somebody user_within within]
    obtain ⟨first, others, rfl⟩ := List.exists_cons_of_ne_nil someone
    refine ⟨_, _, ?_, ?_, rfl⟩
    · rfl
    · rfl

/-- A user and a host with its port are found again before a slash. -/
theorem readAfterSlashes_authority (canonical : u.Canonical) (is : u.host = some h)
    (read : readAfterSlashes (bare u.scheme) (u.authority h ++ '/' :: cs) = .ok r) :
    r.sameOrigin u := by
  obtain ⟨h', is', named⟩ := canonical.host
  cases is.symm.trans is'
  have effective : u.effectivePort? = u.port.or (defaultPort? u.scheme) := by
    unfold effectivePort?
    cases u.port <;> rfl
  obtain ⟨v, hadUser, scheme, portless, same⟩ := readAfterSlashes_eq canonical named cs
  rw [same] at read
  have web : IsWeb v.scheme := scheme ▸ canonical.web
  obtain ⟨scheme', host, port⟩ := readFromHost_hostPort web portless named canonical.port read
  refine ⟨scheme'.trans scheme, host.trans is.symm, ?_⟩
  rw [port, effective, scheme]

/-! ### What counts of a text -/

/-- The characters of a text that count when it is read as a URL. -/
def shown (s : String) : List Char :=
  significant (stripWhile isEdge s.toList)

theorem significant_of_shown (visible : ∀ c ∈ cs, isEdge c = false) : significant cs = cs :=
  List.filter_eq_self.mpr fun c member => by simp [not_isIgnored (visible c member)]

theorem dropEndWhile_append {p : Char → Bool} {front : List Char} (last : ∀ c ∈ front.getLast?, p c = false)
    (nonempty : front ≠ []) (cs : List Char) :
    dropEndWhile p (front ++ cs) = front ++ dropEndWhile p cs := by
  obtain ⟨before, c, some_⟩ := (List.eq_nil_or_concat front).resolve_left nonempty
  rw [List.concat_eq_append] at some_
  subst some_
  have kept : ¬ p c = true := by simpa using last
  unfold dropEndWhile
  rw [List.reverse_append, List.dropWhile_append]
  by_cases all : (cs.reverse.dropWhile p).isEmpty = true
  · rw [if_pos all, List.isEmpty_iff.mp all, List.reverse_append, List.reverse_singleton,
      List.singleton_append, List.dropWhile_cons_of_neg kept]
    simp
  · rw [if_neg all]
    simp

theorem shown_append {front : List Char} (visible : ∀ c ∈ front, isEdge c = false)
    (nonempty : front ≠ []) (cs : List Char) :
    significant (stripWhile isEdge (front ++ cs)) =
      front ++ significant (dropEndWhile isEdge cs) := by
  have start : (front ++ cs).dropWhile isEdge = front ++ cs := by
    cases front with
    | nil => exact absurd rfl nonempty
    | cons c front =>
      have shows : ¬ isEdge c = true := by simp [visible c]
      exact List.dropWhile_cons_of_neg shows
  have last : ∀ c ∈ front.getLast?, isEdge c = false := fun c found =>
    visible c (List.mem_of_getLast? found)
  rw [stripWhile, start, dropEndWhile_append last nonempty, significant, List.filter_append]
  exact congrArg (· ++ _) (significant_of_shown visible)

theorem shown_again (s : String) : significant (dropEndWhile isEdge (shown s)) = shown s := by
  have kept : dropEndWhile isEdge (shown s) = shown s := by
    unfold shown stripWhile
    generalize s.toList.dropWhile isEdge = cs
    rcases List.eq_nil_or_concat (dropEndWhile isEdge cs) with none_ | ⟨before, c, some_⟩
    · rw [none_]
      rfl
    · rw [List.concat_eq_append] at some_
      have last : isEdge c = false := by
        have head := List.head?_dropWhile_not isEdge cs.reverse
        have reversed : cs.reverse.dropWhile isEdge = c :: before.reverse := by
          rw [← List.reverse_reverse (cs.reverse.dropWhile isEdge)]
          exact (congrArg List.reverse some_).trans (by simp)
        rw [reversed] at head
        simpa using head
      have shows : significant (before ++ [c]) = significant before ++ [c] := by
        simp [significant, not_isIgnored last]
      rw [some_, shows]
      have ends : ∀ d ∈ (significant before ++ [c]).getLast?, isEdge d = false := by simpa using last
      have stays := dropEndWhile_append ends (by simp) []
      simpa [dropEndWhile] using stays
  rw [kept]
  simp only [shown, significant, List.filter_filter, Bool.and_self]

/-! ### URLs read again -/

theorem Canonical.toList_text (canonical : u.Canonical) (is : u.host = some h) :
    ∃ tail, u.text.toList = (u.scheme.toList ++ ':' :: '/' :: '/' :: u.authority h ++ ['/']) ++ tail := by
  obtain ⟨list, path, nonempty⟩ := canonical.rooted
  obtain ⟨first, others, rfl⟩ := List.exists_cons_of_ne_nil nonempty
  have ported : (u.port.elim "" fun p => ":" ++ toString p).toList =
      u.port.elim [] fun p => ':' :: Nat.toDigits 10 p := by
    cases u.port <;> simp
  refine ⟨first.toList ++ (String.join (others.map fun s => "/" ++ s)).toList ++
    (u.query.elim "" fun q => "?" ++ q).toList ++ (u.fragment.elim "" fun f => "#" ++ f).toList, ?_⟩
  simp only [text, authorityText, pathText, is, path, authority, hostPort, String.toList_append,
    List.map_cons, String.join_cons, ported]
  simp

theorem mem_authority {c : Char} (canonical : u.Canonical) (named : h.Canonical)
    (member : c ∈ u.authority h) : isInAuthority c = true := by
  rcases List.mem_append.mp member with user | host
  · rcases userText_cases canonical with nobody | ⟨name, _, text, within⟩
    · rw [nobody] at user
      cases user
    · rw [text, List.mem_append, List.mem_singleton] at user
      rcases user with among | rfl
      · simp [isInAuthority, within c among]
      · decide
  · simp [isInAuthority, mem_hostPort named host]

theorem authority_ne_nil (named : h.Canonical) : u.authority h ≠ [] := by
  simp [authority, hostPort, named.text_ne_nil]

theorem cutScheme?_append (web : IsWeb scheme) (cs : List Char) :
    cutScheme? (scheme.toList ++ ':' :: cs) = some (scheme, cs) := by
  rcases web with rfl | rfl <;> rfl

/-- A text with a special scheme and two slashes is read without a base. -/
theorem readWithScheme_authority (special : isSpecial scheme = true) (base : Option Url)
    (slashless : ∀ c ∈ cs.head?, isSlash true c = false) :
    readWithScheme base scheme ('/' :: '/' :: cs) = readAfterSlashes (bare scheme) cs := by
  have two : ('/' :: '/' :: cs).takeWhile (isSlash true) = ['/', '/'] := by
    have slash : isSlash true '/' = true := by decide
    have none_ : cs.takeWhile (isSlash true) = [] := by
      cases cs with
      | nil => rfl
      | cons c cs => exact List.takeWhile_cons_of_neg (by simp [slashless c rfl])
    simp [slash, none_]
  have apart : (base.filter fun b => decide (2 < 2) && b.scheme == scheme) = none := by
    cases base <;> rfl
  unfold readWithScheme
  rw [if_pos special, two]
  simp only [List.length_cons, List.length_nil, Nat.zero_add, Nat.reduceAdd, apart]
  rfl

/-- The text of a URL over HTTP is read behind its two slashes. -/
theorem join_text (canonical : u.Canonical) (is : u.host = some h) (named : h.Canonical) (base : Url) :
    ∃ cs, base.join u.text = readAfterSlashes (bare u.scheme) (u.authority h ++ '/' :: cs) := by
  obtain ⟨tail, written⟩ := canonical.toList_text is
  have plain : ∀ c ∈ u.authority h,
      isEdge c = false ∧ isSlash true c = false ∧ endsPath c = false := fun c member =>
    plain_of_isInAuthority (mem_authority canonical named member)
  have visible : ∀ c ∈ u.scheme.toList ++ ':' :: '/' :: '/' :: u.authority h ++ ['/'],
      isEdge c = false := by
    have schemes : ∀ c ∈ u.scheme.toList, isEdge c = false := fun c member =>
      canonical.web.visible c (List.mem_append_left _ member)
    have marks : isEdge ':' = false ∧ isEdge '/' = false := by decide
    simp only [List.mem_append, List.mem_cons, List.not_mem_nil, or_false]
    rintro c ((scheme | rfl | rfl | rfl | inside) | rfl)
    · exact schemes c scheme
    · exact marks.1
    · exact marks.2
    · exact marks.2
    · exact (plain c inside).1
    · exact marks.2
  have counts := shown_append visible (by simp) tail
  rw [← written] at counts
  have slashless : ∀ c ∈ (u.authority h ++ '/' :: significant (dropEndWhile isEdge tail)).head?,
      isSlash true c = false := by
    obtain ⟨first, others, start⟩ := List.exists_cons_of_ne_nil (u.authority_ne_nil named)
    intro c head
    rw [start] at head
    cases head
    exact (plain first (start ▸ List.mem_cons_self)).2.1
  have chars : significant (stripWhile isEdge u.text.toList) = u.scheme.toList ++ ':' :: '/' :: '/' ::
      (u.authority h ++ '/' :: significant (dropEndWhile isEdge tail)) := by
    rw [counts]
    simp
  have notFile : u.scheme ≠ "file" := by simpa using canonical.web.isSpecial.2
  refine ⟨significant (dropEndWhile isEdge tail), ?_⟩
  unfold join Url.read
  simp only [chars, cutScheme?_append canonical.web, if_neg notFile,
    readWithScheme_authority canonical.web.isSpecial.1 _ slashless]

/-- Whoever reads the text of a URL over HTTP gets one of the same origin, if any. -/
theorem sameOrigin_join_text (canonical : u.Canonical) {base : Url}
    (read : base.join u.text = .ok r) : r.sameOrigin u := by
  obtain ⟨h, is, named⟩ := canonical.host
  obtain ⟨cs, same⟩ := join_text canonical is named base
  exact readAfterSlashes_authority canonical is (same.symm.trans read)

end LiveSession.Url
