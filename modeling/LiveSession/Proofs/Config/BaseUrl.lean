import LiveSession.Config.Basic
import LiveSession.Proofs.Url.Authorities
import Mathlib.Data.List.TakeWhile

/-!
# The URL of a server

The host of a configuration is spliced into a URL. Where it has room for a host only, the result is
the root of that host at the port of the server, or a refusal; but a text that brings a user, a port
or a path of its own is not refused. `baseUrl_origin` says which hosts are kept to what they name,
and what the others lead to.
-/

namespace LiveSession.ServerConfig

open Text Url

variable {c : ServerConfig} {u : Url} {h : Host} {pieces : List Nat} {text : String}

/-! ### Hosts as they are configured -/

/-- The text is an IPv6 address, or what counts of it has room for a host only. -/
inductive IsHostOnly (text : String) : Prop
  | ipv6 {pieces : List Nat} (literal : readIpv6? text.toList = some pieces)
  | host (only : HostOnly (significant text.toList))

/-- The text spells a host and nothing else. -/
inductive Spells (text : String) : Host → Prop
  | ipv6 {pieces : List Nat} (literal : readIpv6? text.toList = some pieces) :
    Spells text (.ipv6 pieces)
  | host {h : Host} (other : readIpv6? text.toList = none)
    (only : HostOnly (significant text.toList))
    (read : readHost true (significant text.toList) = .ok h) : Spells text h

/-- The root of a host at the port of the server. -/
def origin (c : ServerConfig) (h : Host) : Url :=
  (root c.scheme h).withPort c.effectivePort

/-- An address between brackets has room for a host only, which is read from it. -/
theorem bracketed_hostOnly {inner : List Char} (inside : ∀ c ∈ inner, isInIpv6 c = true) :
    significant ('[' :: (inner ++ [']'])) = '[' :: (inner ++ [']']) ∧
      HostOnly ('[' :: (inner ++ [']'])) := by
  have within : ∀ c ∈ '[' :: (inner ++ [']']), isWithinHost c = true := by
    intro c member
    rw [List.mem_cons, List.mem_append, List.mem_singleton] at member
    obtain rfl | among | rfl := member
    · decide
    · exact (within_of_isInIpv6 (inside c among)).1
    · decide
  refine ⟨significant_of_shown fun c member => not_isEdge (within c member), ?_, ?_⟩
  · intro c member
    obtain ⟨_, slash, backslash, query, fragment, at_⟩ := isWithinHost_iff.mp (within c member)
    simp [slash, backslash, query, fragment, at_]
  · intro before after parts
    cases before with
    | nil => cases parts
    | cons d before =>
      obtain ⟨opening, behind⟩ := List.cons.inj parts
      refine ⟨[], before, congrArg (· :: before) opening.symm, fun closing => ?_⟩
      rcases List.append_eq_append_iff.mp behind with ⟨more, _, last⟩ | ⟨more, rfl, _⟩
      · -- the last character is a bracket, so there is no room for a colon
        cases more with
        | nil => cases last
        | cons d more => cases more <;> cases last
      · exact (within_of_isInIpv6 (inside _ (List.mem_append_left _ closing))).2.2 rfl

theorem readHost_bracketed {inner : List Char} (read : readIpv6? inner = some pieces) :
    readHost true ('[' :: (inner ++ [']'])) = .ok (.ipv6 pieces) := by
  unfold readHost readBracketed
  simp [read]

theorem toList_hostText (c : ServerConfig) :
    (∃ pieces, readIpv6? (trim c.host).toList = some pieces ∧
        c.hostText.toList = '[' :: ((ipv6Text pieces).toList ++ [']']) ∧
        readIpv6? (ipv6Text pieces).toList = some pieces) ∨
      readIpv6? (trim c.host).toList = none ∧ c.hostText = trim c.host := by
  unfold hostText
  dsimp only
  cases literal : readIpv6? (trim c.host).toList with
  | none => exact .inr ⟨rfl, rfl⟩
  | some pieces =>
    obtain ⟨eight, small⟩ := pieces_of_readIpv6? literal
    exact .inl ⟨pieces, rfl, Host.toList_ipv6 pieces, readIpv6?_ipv6Text eight small⟩

/-- The text that is spliced has room for a host only if the host has; it is read as the host that
is spelled. -/
theorem hostText_hostOnly (only : IsHostOnly (trim c.host)) :
    HostOnly (significant c.hostText.toList) ∧
      ∀ h, readHost true (significant c.hostText.toList) = .ok h ↔ Spells (trim c.host) h := by
  obtain ⟨pieces, literal, text, again⟩ | ⟨other, text⟩ := toList_hostText c
  · obtain ⟨visible, only⟩ := bracketed_hostOnly (isInIpv6_of_readIpv6? again)
    rw [text, visible, readHost_bracketed again]
    refine ⟨only, fun h => ⟨fun same => ?_, fun spelled => ?_⟩⟩
    · cases same
      exact .ipv6 literal
    · cases spelled with
      | ipv6 literal' => rw [Option.some.inj (literal.symm.trans literal')]
      | host other => cases other.symm.trans literal
  · rw [text]
    cases only with
    | ipv6 literal => cases other.symm.trans literal
    | host only =>
      refine ⟨only, fun h => ⟨fun read => .host other only read, fun spelled => ?_⟩⟩
      cases spelled with
      | ipv6 literal => cases other.symm.trans literal
      | host _ _ read => exact read

theorem isHostOnly_of_spells (spelled : Spells text h) : IsHostOnly text := by
  cases spelled with
  | ipv6 literal => exact .ipv6 literal
  | host _ only _ => exact .host only

/-! ### What is spliced -/

theorem mem_dropWhile {p : Char → Bool} {d : Char} {cs : List Char} (kept : p d = false)
    (member : d ∈ cs) : d ∈ cs.dropWhile p := by
  rw [← List.takeWhile_append_dropWhile (p := p) (l := cs)] at member
  refine (List.mem_append.mp member).resolve_left fun front => ?_
  have dropped := List.all_eq_true.mp List.all_takeWhile d front
  rw [kept] at dropped
  cases dropped

/-- A host that is not blank leaves something to splice. -/
theorem significant_hostText_ne_nil (filled : isBlankText c.host = false) :
    significant c.hostText.toList ≠ [] := by
  obtain ⟨pieces, _, text, again⟩ | ⟨_, text⟩ := toList_hostText c
  · rw [text, (bracketed_hostOnly (isInIpv6_of_readIpv6? again)).1]
    exact List.cons_ne_nil _ _
  · obtain ⟨d, member, shows⟩ : ∃ d ∈ c.host.toList, isBlank d = false := by
      simpa [isBlankText] using filled
    have kept : d ∈ strip c.host.toList := by
      unfold strip stripWhile dropEndWhile
      exact List.mem_reverse.mpr
        (mem_dropWhile shows (List.mem_reverse.mpr (mem_dropWhile shows member)))
    have counts : isIgnored d = false := by
      simp only [isIgnored, Bool.or_eq_false_iff, beq_eq_false_iff_ne]
      refine ⟨⟨?_, ?_⟩, ?_⟩ <;> rintro rfl <;> cases shows
    rw [text, trim, String.toList_ofList]
    exact List.ne_nil_of_mem (List.mem_filter.mpr ⟨kept, by rw [counts]; rfl⟩)

/-- The base URL is what is read behind the slashes, at the port of the server. -/
theorem baseUrl_eq_ok : c.baseUrl = .ok u ↔ isBlankText c.host = false ∧ IsWeb c.scheme ∧
    ∃ v, readAfterSlashes (bare c.scheme)
        ((significant c.hostText.toList ++ ['/']).dropWhile (isSlash true)) = .ok v ∧
      u = v.withPort c.effectivePort := by
  unfold baseUrl
  cases blank : isBlankText c.host with
  | true => simp
  | false =>
    by_cases web : IsWeb c.scheme
    · have supported : ¬ (c.scheme ≠ "http" ∧ c.scheme ≠ "https") := fun ⟨http, https⟩ =>
        web.elim http https
      rw [if_neg Bool.false_ne_true, if_neg supported, parse_spliced web]
      cases readAfterSlashes (bare c.scheme)
          ((significant c.hostText.toList ++ ['/']).dropWhile (isSlash true)) with
      | error fault => simp
      | ok v => simp [web, eq_comm]
    · have unsupported : c.scheme ≠ "http" ∧ c.scheme ≠ "https" := not_or.mp web
      rw [if_neg Bool.false_ne_true, if_pos unsupported]
      simp [web]

/-- Where there is room for a host only, the base URL is the root of the host that is spelled. -/
theorem baseUrl_hostOnly (only : IsHostOnly (trim c.host)) : c.baseUrl = .ok u ↔
    isBlankText c.host = false ∧ IsWeb c.scheme ∧ ∃ h, Spells (trim c.host) h ∧ u = c.origin h := by
  rw [baseUrl_eq_ok]
  refine and_congr_right fun filled => and_congr_right fun web => ?_
  obtain ⟨room, spelled⟩ := hostText_hostOnly only
  have nonempty := significant_hostText_ne_nil filled
  have slashless : (significant c.hostText.toList ++ ['/']).dropWhile (isSlash true) =
      significant c.hostText.toList ++ ['/'] := by
    obtain ⟨d, cs, parts⟩ := List.exists_cons_of_ne_nil nonempty
    have solid := (not_ends_of_plain (room.plain d (parts ▸ List.mem_cons_self))).1
    rw [parts, List.cons_append, List.dropWhile_cons_of_neg (by simp [solid])]
  rw [slashless, readAfterSlashes_hostOnly web room nonempty]
  constructor
  · rintro ⟨v, read, rfl⟩
    cases host : readHost true (significant c.hostText.toList) with
    | error fault =>
      rw [host] at read
      cases read
    | ok h =>
      rw [host] at read
      cases read
      exact ⟨h, (spelled h).mp host, rfl⟩
  · rintro ⟨h, spells, rfl⟩
    rw [(spelled h).mpr spells]
    exact ⟨_, rfl, rfl⟩

/-! ### Base URLs -/

theorem effectivePort?_withPort (u : Url) (port : Nat) :
    (u.withPort port).effectivePort? = some port := by
  unfold effectivePort? withPort
  dsimp only
  split
  · rename_i standard
    rw [standard]
    rfl
  · rfl

/-- What a base URL has of the text that is spliced: the host is the part behind the slashes at its
start and the last `@` before the path, up to the next mark, and what stands before the `@` is the
user. -/
structure Parts (c : ServerConfig) (u : Url) (slashes user name rest : List Char) : Prop where
  text : significant c.hostText.toList ++ ['/'] = slashes ++ (user ++ (name ++ rest))
  slashes : ∀ d ∈ slashes, isSlash true d = true
  ends : EndsHost rest
  host : ∃ h, readHost true name = .ok h ∧ u.host = some h
  user : user = [] ∧ u.username = "" ∧ u.password = "" ∨
    ∃ who, user = who ++ ['@'] ∧ (u.username, u.password) = readUser who

theorem exists_parts (ok : c.baseUrl = .ok u) : ∃ slashes user name rest,
    Parts c u slashes user name rest := by
  obtain ⟨_, web, v, read, rfl⟩ := baseUrl_eq_ok.mp ok
  obtain ⟨user, name, rest, parts, ends, host, who⟩ := readAfterSlashes_parts web read
  let text := significant c.hostText.toList ++ ['/']
  refine ⟨text.takeWhile (isSlash true), user, name, rest, ?_, fun d member => ?_, ends, host, who⟩
  · rw [← parts]
    exact List.takeWhile_append_dropWhile.symm
  · exact List.all_eq_true.mp List.all_takeWhile d member

theorem isBlankText_of_trim (filled : (trim c.host).toList ≠ []) : isBlankText c.host = false := by
  refine Bool.eq_false_iff.mpr fun blank => filled ?_
  have dropped : c.host.toList.dropWhile isBlank = [] :=
    List.dropWhile_eq_nil_iff.mpr (List.all_eq_true.mp blank)
  rw [trim, String.toList_ofList, strip, stripWhile, dropped]
  rfl

theorem readIpv6?_bracketed (inner : List Char) : readIpv6? ('[' :: inner) = none := by
  cases literal : readIpv6? ('[' :: inner) with
  | none => rfl
  | some _ => exact absurd (isInIpv6_of_readIpv6? literal '[' List.mem_cons_self) (by decide)

theorem spells_of_ipv6 {inner : List Char} (read : readIpv6? inner = some pieces)
    (written : text.toList = inner ∨ text.toList = '[' :: (inner ++ [']'])) :
    Spells text (.ipv6 pieces) := by
  rcases written with plain | brackets
  · exact .ipv6 (plain ▸ read)
  · obtain ⟨visible, only⟩ := bracketed_hostOnly (isInIpv6_of_readIpv6? read)
    refine .host ?_ ?_ ?_
    · rw [brackets, readIpv6?_bracketed]
    · rwa [brackets, visible]
    · rw [brackets, visible, readHost_bracketed read]

theorem baseUrl_of_ipv6 {inner : List Char} (read : readIpv6? inner = some pieces)
    (written : (trim c.host).toList = inner ∨ (trim c.host).toList = '[' :: (inner ++ [']']))
    (web : IsWeb c.scheme) : c.baseUrl = .ok (c.origin (.ipv6 pieces)) := by
  have nonempty : (trim c.host).toList ≠ [] := by
    have empty : readIpv6? [] = none := by decide
    rcases written with plain | brackets
    · rw [plain]
      rintro rfl
      cases empty.symm.trans read
    · rw [brackets]
      exact List.cons_ne_nil _ _
  have spelled := spells_of_ipv6 read written
  exact (baseUrl_hostOnly (isHostOnly_of_spells spelled)).mpr
    ⟨isBlankText_of_trim nonempty, web, .ipv6 pieces, spelled, rfl⟩

/-- A base URL has the scheme and the port of the configuration, and a host that is read from a part
of the configured text. It is the root of the host that the trimmed text spells, and any other text
is refused, exactly if the text has room for a host only or leads to an error; an IPv6 address may be
written with brackets or without them. -/
theorem baseUrl_origin (c : ServerConfig) :
    (∀ u, c.baseUrl = .ok u → IsWeb c.scheme ∧ u.scheme = c.scheme ∧
      u.effectivePort? = some c.effectivePort ∧ u.Rooted ∧ (∃ h, u.host = some h ∧ h.Canonical) ∧
        ∃ slashes user name rest, Parts c u slashes user name rest) ∧
    (IsHostOnly (trim c.host) → ∀ u, c.baseUrl = .ok u ↔
      isBlankText c.host = false ∧ IsWeb c.scheme ∧
        ∃ h, Spells (trim c.host) h ∧ u = c.origin h) ∧
    ((∀ u, c.baseUrl = .ok u → ∃ h, Spells (trim c.host) h ∧ u = c.origin h) ↔
      IsHostOnly (trim c.host) ∨ ∃ e, c.baseUrl = .error e) ∧
    ∀ inner pieces, readIpv6? inner = some pieces →
      (trim c.host).toList = inner ∨ (trim c.host).toList = '[' :: (inner ++ [']']) →
        IsWeb c.scheme → c.baseUrl = .ok (c.origin (.ipv6 pieces)) := by
  refine ⟨fun u ok => ?_, fun only u => baseUrl_hostOnly only, ⟨fun rooted => ?_, ?_⟩,
    fun inner pieces => baseUrl_of_ipv6⟩
  · obtain ⟨_, web, v, read, rfl⟩ := baseUrl_eq_ok.mp ok
    have canonical := canonical_of_readAfterSlashes web read
    exact ⟨web, scheme_of_readAfterSlashes read, effectivePort?_withPort v _, canonical.rooted,
      canonical.host, exists_parts ok⟩
  · cases result : c.baseUrl with
    | error e => exact .inr ⟨e, rfl⟩
    | ok u =>
      obtain ⟨h, spelled, _⟩ := rooted u result
      exact .inl (isHostOnly_of_spells spelled)
  · rintro (only | ⟨e, refused⟩) u ok
    · obtain ⟨_, _, rooted⟩ := (baseUrl_hostOnly only).mp ok
      exact rooted
    · cases refused.symm.trans ok

/-- A host with a path of its own is not refused, and the base URL keeps the path. -/
theorem baseUrl_keeps_path :
    let c : ServerConfig := { host := "example.test/api", port := some 3000 }
    (∃ u, c.baseUrl = .ok u ∧ u.path = .segments ["api", ""]) ∧
      ¬ ∀ u, c.baseUrl = .ok u → ∃ h, Spells (trim c.host) h ∧ u = c.origin h := by
  intro c
  have kept : c.baseUrl.toOption.map Url.path = some (.segments ["api", ""]) := by decide +kernel
  cases ok : c.baseUrl with
  | error fault =>
    rw [ok] at kept
    cases kept
  | ok u =>
    rw [ok] at kept
    refine ⟨⟨u, rfl, Option.some.inj kept⟩, fun rooted => ?_⟩
    obtain ⟨h, spelled, _⟩ := rooted u rfl
    have slash : '/' ∈ significant (trim c.host).toList := by decide +kernel
    cases isHostOnly_of_spells spelled with
    | ipv6 literal =>
      have other : readIpv6? (trim c.host).toList = none := by decide +kernel
      cases other.symm.trans literal
    | host only => exact only.plain '/' slash (by decide)

end LiveSession.ServerConfig
