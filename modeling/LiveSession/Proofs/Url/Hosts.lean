import LiveSession.Proofs.Idna.SentForm
import LiveSession.Proofs.Text.Percent
import LiveSession.Proofs.Url.Addresses
import LiveSession.Url.Parse

/-!
# Hosts read again

A host that was read has a text in which it ends where it should, and whoever reads that text gets
the same host, if any: `readHost_text`. A domain may be too long to be read again.
-/

namespace LiveSession.Url

open Text

variable {h h' : Host} {c : Char}

/-! ### Characters of hosts -/

/-- Characters that end no host, nor divide it from a user. -/
def isWithinHost (c : Char) : Bool :=
  0x20 < c.toNat && !"/\\?#@".toList.contains c

/-- Characters of hosts that are not in brackets. -/
def isInName (c : Char) : Bool :=
  isWithinHost c && !":[]".toList.contains c

theorem isWithinHost_iff : isWithinHost c = true ↔
    0x20 < c.toNat ∧ c ≠ '/' ∧ c ≠ '\\' ∧ c ≠ '?' ∧ c ≠ '#' ∧ c ≠ '@' := by
  simp [isWithinHost]

theorem isInName_iff :
    isInName c = true ↔ isWithinHost c = true ∧ c ≠ ':' ∧ c ≠ '[' ∧ c ≠ ']' := by
  simp [isInName]

theorem not_isSlash (within : isWithinHost c = true) (special : Bool) :
    isSlash special c = false := by
  obtain ⟨_, slash, backslash, _⟩ := isWithinHost_iff.mp within
  simp [isSlash, slash, backslash]

theorem not_endsPath (within : isWithinHost c = true) : endsPath c = false := by
  obtain ⟨_, _, _, query, fragment, _⟩ := isWithinHost_iff.mp within
  simp [endsPath, query, fragment]

theorem not_isEdge (within : isWithinHost c = true) : isEdge c = false := by
  have above := (isWithinHost_iff.mp within).1
  simp only [isEdge, decide_eq_false_iff_not]
  omega

theorem not_isIgnored (shown : isEdge c = false) : isIgnored c = false := by
  simp only [isIgnored, Bool.or_eq_false_iff, beq_eq_false_iff_ne]
  refine ⟨⟨?_, ?_⟩, ?_⟩ <;> rintro rfl <;> cases shown

/-! ### Where a host ends -/

/-- What follows a host and its port is nothing, or begins with something else. -/
def EndsHost (rest : List Char) : Prop :=
  ∀ c ∈ rest.head?, c = ':' ∨ isSlash true c = true ∨ endsPath c = true

theorem hostLength_of_endsHost {rest : List Char} (ends : EndsHost rest) :
    hostLength true false rest = 0 := by
  cases rest with
  | nil => rfl
  | cons c rest =>
    obtain rfl | slash | tail := ends c rfl
    · rfl
    · simp [hostLength, slash]
    · simp [hostLength, tail]

theorem hostLength_name {name : List Char} (plain : ∀ c ∈ name, isInName c = true) (rest : List Char) :
    hostLength true false (name ++ rest) = name.length + hostLength true false rest := by
  induction name with
  | nil => simp
  | cons c name ih =>
    have ⟨first, others⟩ := List.forall_mem_cons.mp plain
    obtain ⟨within, colon, opening, closing⟩ := isInName_iff.mp first
    simp [hostLength, not_isSlash within, not_endsPath within, colon, opening, closing, ih others]
    omega

theorem hostLength_bracketed {inner : List Char}
    (plain : ∀ c ∈ inner, isWithinHost c = true ∧ c ≠ '[' ∧ c ≠ ']') (rest : List Char) :
    hostLength true true (inner ++ ']' :: rest) = inner.length + 1 + hostLength true false rest := by
  induction inner with
  | nil =>
    have closing : isSlash true ']' = false ∧ endsPath ']' = false := by decide
    simp [hostLength, closing]
    omega
  | cons c inner ih =>
    have ⟨⟨within, opening, closing⟩, others⟩ := List.forall_mem_cons.mp plain
    simp [hostLength, not_isSlash within, not_endsPath within, opening, closing, ih others]
    omega

/-! ### Hosts that were read -/

namespace Host

/-- What a host is that was read in a URL with a special scheme. -/
inductive Canonical : Host → Prop
  | domain {cs name : List Char} (ascii : Idna.toAscii? cs = some name)
      (allowed : name.any isForbiddenInDomain = false) (nonempty : name ≠ [])
      (named : endsInNumber name = false) : Canonical (.domain (String.ofList name))
  | ipv4 {address : Nat} (word : address < 2 ^ 32) : Canonical (.ipv4 address)
  | ipv6 {pieces : List Nat} (eight : pieces.length = 8) (small : ∀ piece ∈ pieces, piece < 65536) :
      Canonical (.ipv6 pieces)

end Host

theorem canonical_of_readDomain {cs : List Char} {h : Host} (read : readDomain cs = .ok h) :
    h.Canonical := by
  unfold readDomain at read
  split at read
  · cases read
  · cases read
  · rename_i name nonempty found
    obtain ⟨decoded, _, found⟩ := Option.bind_eq_some_iff.mp found
    obtain ⟨ascii, allowed⟩ := Option.filter_eq_some_iff.mp found
    split at read
    · cases address : readIpv4 name with
      | error fault =>
        rw [address] at read
        cases read
      | ok n =>
        rw [address] at read
        cases read
        exact .ipv4 (lt_of_readIpv4 address)
    · rename_i named
      cases read
      exact .domain ascii (by simpa using allowed) nonempty (by simpa using named)

theorem canonical_of_readHost {cs : List Char} {h : Host} (read : readHost true cs = .ok h) :
    h.Canonical := by
  unfold readHost at read
  split at read
  · unfold readBracketed at read
    split at read
    · split at read
      · rename_i pieces found
        cases read
        have ⟨eight, small⟩ := pieces_of_readIpv6? found
        exact .ipv6 eight small
      · cases read
    · cases read
  · exact canonical_of_readDomain read

/-! ### Their texts -/

theorem isInName_of_allowed {c : Char} (allowed : isForbiddenInDomain c = false) :
    isInName c = true ∧ c ≠ '%' := by
  simp only [isForbiddenInDomain, Bool.or_eq_false_iff, decide_eq_false_iff_not,
    beq_eq_false_iff_ne, List.contains_eq_mem, String.reduceToList, List.mem_cons, not_or] at allowed
  rw [isInName_iff, isWithinHost_iff]
  grind

theorem isInName_digitChar : ∀ d < 16, isInName d.digitChar = true := by
  decide

theorem mem_ipv4Text {address : Nat} {c : Char} (member : c ∈ (ipv4Text address).toList) :
    c = '.' ∨ ∃ d < 10, c = d.digitChar := by
  obtain dot | ⟨s, written, within⟩ := mem_join '.' member
  · exact .inl dot
  · obtain ⟨shift, _, rfl⟩ := List.mem_map.mp written
    rw [toList_toString] at within
    exact .inr (digit_of_mem_toDigits (by decide) within)

theorem mem_ipv6Text {pieces : List Nat} {c : Char} (member : c ∈ (ipv6Text pieces).toList) :
    c = ':' ∨ ∃ d < 16, c = d.digitChar := by
  unfold ipv6Text at member
  split at member
  split at member
  · exact mem_piecesText member
  · simp only [String.toList_append, List.mem_append] at member
    obtain (before | colons) | after := member
    · exact mem_piecesText before
    · exact .inl (by simpa using colons)
    · exact mem_piecesText after

theorem isInName_of_mem_ipv4Text {address : Nat} (member : c ∈ (ipv4Text address).toList) :
    isInName c = true := by
  obtain rfl | ⟨d, small, rfl⟩ := mem_ipv4Text member
  · decide
  · exact isInName_digitChar d (by omega)

theorem isInName_of_domain {name : List Char} (allowed : name.any isForbiddenInDomain = false) :
    ∀ c ∈ name, isInName c = true ∧ c ≠ '%' := fun c member =>
  isInName_of_allowed (by simpa using List.any_eq_false.mp allowed c member)

theorem within_of_mem_ipv6Text (pieces : List Nat) :
    ∀ c ∈ (ipv6Text pieces).toList, isWithinHost c = true ∧ c ≠ '[' ∧ c ≠ ']' := by
  have digits : ∀ d < 16, isWithinHost d.digitChar = true ∧ d.digitChar ≠ '[' ∧ d.digitChar ≠ ']' := by
    decide
  intro c member
  obtain rfl | ⟨d, small, rfl⟩ := mem_ipv6Text member
  · decide
  · exact digits d small

theorem Host.toList_ipv6 (pieces : List Nat) :
    (Host.ipv6 pieces).text.toList = '[' :: ((ipv6Text pieces).toList ++ [']']) := by
  simp [Host.text]

theorem Host.Canonical.mem_text (canonical : h.Canonical) (member : c ∈ h.text.toList) : isWithinHost c = true := by
  cases canonical with
  | domain _ allowed _ _ =>
    rw [Host.text, String.toList_ofList] at member
    exact (isInName_iff.mp (isInName_of_domain allowed c member).1).1
  | ipv4 _ => exact (isInName_iff.mp (isInName_of_mem_ipv4Text member)).1
  | ipv6 _ _ =>
    rw [Host.toList_ipv6, List.mem_cons, List.mem_append, List.mem_singleton] at member
    obtain rfl | among | rfl := member
    · decide
    · exact (within_of_mem_ipv6Text _ c among).1
    · decide

theorem Host.Canonical.text_ne_nil (canonical : h.Canonical) : h.text.toList ≠ [] := by
  cases canonical with
  | domain _ _ nonempty _ => simpa [Host.text] using nonempty
  | @ipv4 address _ => exact ipv4Text_ne_nil address
  | ipv6 _ _ =>
    rw [Host.toList_ipv6]
    exact List.cons_ne_nil _ _

theorem Host.Canonical.hostLength_text (canonical : h.Canonical) {rest : List Char} (ends : EndsHost rest) :
    hostLength true false (h.text.toList ++ rest) = h.text.toList.length := by
  have nothing := hostLength_of_endsHost ends
  cases canonical with
  | domain _ allowed _ _ =>
    rw [Host.text, String.toList_ofList,
      hostLength_name (fun c member => (isInName_of_domain allowed c member).1), nothing]
    rfl
  | ipv4 _ =>
    exact (hostLength_name (fun c member => isInName_of_mem_ipv4Text member) rest).trans
      (by rw [nothing]; rfl)
  | @ipv6 pieces _ _ =>
    have opening : isSlash true '[' = false ∧ endsPath '[' = false := by decide
    have inner := hostLength_bracketed (within_of_mem_ipv6Text pieces) rest
    rw [Host.toList_ipv6, List.cons_append, List.append_assoc, List.singleton_append]
    simp [hostLength, opening, inner, nothing]

/-! ### Reading them again -/

theorem readHost_name {name : List Char} (plain : ∀ c ∈ name, isInName c = true) :
    readHost true name = readDomain name := by
  unfold readHost
  split
  · exact absurd (plain '[' List.mem_cons_self) (by decide)
  · rfl

theorem readDomain_again {cs name : List Char} (ascii : Idna.toAscii? cs = some name)
    (allowed : name.any isForbiddenInDomain = false) (named : endsInNumber name = false)
    (read : readDomain name = .ok h') : h' = .domain (String.ofList name) := by
  have plain : '%' ∉ name := fun percent => (isInName_of_domain allowed _ percent).2 rfl
  unfold readDomain at read
  rw [Percent.decodeText?_of_not_mem plain, Option.bind_some] at read
  cases found : asciiDomain? name with
  | none =>
    rw [found] at read
    cases read
  | some again =>
    have same := Idna.toAscii?_of_toAscii? ascii (Option.filter_eq_some_iff.mp found).1
    subst same
    rw [found] at read
    split at read
    · contradiction
    · cases read
    · rename_i same
      cases same
      rw [if_neg (by simp [named])] at read
      cases read
      rfl

/-- The text of an IPv4 address is a domain that is sent as it is. -/
theorem toAscii?_ipv4Text (address : Nat) :
    Idna.toAscii? (ipv4Text address).toList = some (ipv4Text address).toList := by
  have digits : ∀ d < 10, d.digitChar.toNat < 0x80 ∧ d.digitChar.toLower = d.digitChar ∧
      d.digitChar ≠ 'x' := by decide
  have chars : ∀ c ∈ (ipv4Text address).toList, c.toNat < 0x80 ∧ c.toLower = c := by
    intro c member
    obtain rfl | ⟨d, small, rfl⟩ := mem_ipv4Text member
    · decide
    · exact ⟨(digits d small).1, (digits d small).2.1⟩
  have lower : (ipv4Text address).toList.map Char.toLower = (ipv4Text address).toList :=
    (List.map_congr_left fun c member => (chars c member).2).trans (List.map_id _)
  have unmarked (byte : Nat) : Idna.Label.mark.isPrefixOf (toString byte).toList = false := by
    rw [toList_toString]
    cases written : Nat.toDigits 10 byte with
    | nil => rfl
    | cons c cs =>
      obtain ⟨d, small, rfl⟩ := digit_of_mem_toDigits (by decide) (written ▸ List.mem_cons_self)
      have other : ('x' == d.digitChar) = false := beq_false_of_ne (digits d small).2.2.symm
      show ('x' == d.digitChar && _) = false
      rw [other, Bool.false_and]
  have plain : Idna.isPlain (ipv4Text address).toList = true := by
    unfold Idna.isPlain Idna.Label.isAscii
    rw [lower, splitAll_ipv4Text, List.all_map, Bool.and_eq_true]
    refine ⟨List.all_eq_true.mpr fun c member => by simpa using (chars c member).1, ?_⟩
    exact List.all_eq_true.mpr fun byte _ => by simp only [Function.comp_apply, unmarked, Bool.not_false]
  rw [Idna.toAscii?, if_pos plain, lower]

theorem readDomain_ipv4Text {address : Nat} (word : address < 2 ^ 32) :
    readDomain (ipv4Text address).toList = .ok (.ipv4 address) := by
  have names : ∀ c ∈ (ipv4Text address).toList, isForbiddenInDomain c = false ∧ c ≠ '%' := by
    have digits : ∀ d < 10, isForbiddenInDomain d.digitChar = false ∧ d.digitChar ≠ '%' := by decide
    intro c member
    obtain rfl | ⟨d, small, rfl⟩ := mem_ipv4Text member
    · decide
    · exact digits d small
  have plain : '%' ∉ (ipv4Text address).toList := fun percent => (names _ percent).2 rfl
  have allowed : (ipv4Text address).toList.any isForbiddenInDomain = false :=
    List.any_eq_false.mpr fun c member => by simp [(names c member).1]
  have ascii : asciiDomain? (ipv4Text address).toList = some (ipv4Text address).toList := by
    rw [asciiDomain?, toAscii?_ipv4Text, Option.filter_some, allowed]
    rfl
  unfold readDomain
  rw [Percent.decodeText?_of_not_mem plain, Option.bind_some, ascii]
  split
  · contradiction
  · rename_i empty
    exact absurd (Option.some.inj empty) (ipv4Text_ne_nil address)
  · rename_i same
    cases same
    rw [if_pos (endsInNumber_ipv4Text address), readIpv4_ipv4Text word]
    rfl

/-- Whoever reads the text of a host gets that host, if any. -/
theorem Host.Canonical.readHost_text (canonical : h.Canonical) (read : readHost true h.text.toList = .ok h') :
    h' = h := by
  cases canonical with
  | domain ascii allowed nonempty named =>
    rw [Host.text, String.toList_ofList,
      readHost_name fun c member => (isInName_of_domain allowed c member).1] at read
    exact readDomain_again ascii allowed named read
  | @ipv4 address word =>
    rw [Host.text, readHost_name fun c member => isInName_of_mem_ipv4Text member,
      readDomain_ipv4Text word] at read
    cases read
    rfl
  | @ipv6 pieces eight small =>
    rw [Host.toList_ipv6] at read
    simp only [readHost, readBracketed, List.getLast?_concat, List.dropLast_concat,
      readIpv6?_ipv6Text eight small] at read
    cases read
    rfl

end LiveSession.Url
