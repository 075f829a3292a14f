import LiveSession.Proofs.Url.Origins

/-!
# Texts spliced into URLs

What becomes of a text that is written between the two slashes of a URL and another slash. If it has
room for a host only, it is read as a host, and the URL is the root of that host. Any other text is
cut: the host is the part of it that `readAfterSlashes_parts` tells.
-/

namespace LiveSession.Url

open Text

variable {r u : Url} {cs rest : List Char} {scheme : String} {h : Host} {pieces : List Nat}

/-! ### Characters of IPv6 addresses -/

def isInIpv6 (c : Char) : Bool :=
  c == ':' || c == '.' || (Percent.hexValue? c).isSome

theorem above_of_hexValue? {c : Char} {d : Nat} (read : Percent.hexValue? c = some d) :
    0x20 < c.toNat := by
  have above {b : Char} (high : 0x20 < b.toNat) (below : b ≤ c) : 0x20 < c.toNat :=
    Nat.lt_of_lt_of_le high below
  unfold Percent.hexValue? at read
  split at read
  · rename_i digit
    exact above (by decide) digit.1
  · split at read
    · rename_i letter
      exact above (by decide) letter.1
    · split at read
      · rename_i letter
        exact above (by decide) letter.1
      · cases read

theorem within_of_isInIpv6 {c : Char} (inside : isInIpv6 c = true) :
    isWithinHost c = true ∧ c ≠ '[' ∧ c ≠ ']' := by
  have apart : ∀ d ∈ "/\\?#@[]".toList, isInIpv6 d = false := by
    simp [isInIpv6, Percent.hexValue?]
  have other : c ∉ "/\\?#@[]".toList := fun member => by simp [apart c member] at inside
  have above : 0x20 < c.toNat := by
    simp only [isInIpv6, Bool.or_eq_true, beq_iff_eq, Option.isSome_iff_exists] at inside
    obtain (rfl | rfl) | ⟨d, read⟩ := inside
    · decide
    · decide
    · exact above_of_hexValue? read
  simp only [String.reduceToList, List.mem_cons, List.not_mem_nil, or_false, not_or] at other
  obtain ⟨slash, backslash, query, fragment, at_, opening, closing⟩ := other
  exact ⟨isWithinHost_iff.mpr ⟨above, slash, backslash, query, fragment, at_⟩, opening, closing⟩

theorem exists_of_mapM {α β : Type} {f : α → Option β} {xs : List α} {ys : List β}
    (read : xs.mapM f = some ys) : ∀ x ∈ xs, ∃ y, f x = some y := by
  have pairs := forall₂_of_mapM read
  clear read
  induction pairs with
  | nil => exact nofun
  | cons first _ ih => exact List.forall_mem_cons.mpr ⟨⟨_, first⟩, ih⟩

theorem mem_splitAll (sep : Char) {c : Char} (member : c ∈ cs) :
    c = sep ∨ ∃ piece ∈ splitAll sep cs, c ∈ piece := by
  induction cs with
  | nil => cases member
  | cons d cs ih =>
    refine or_iff_not_imp_left.mpr fun apart => ?_
    have behind (later : c ∈ cs) : ∃ piece ∈ splitAll sep cs, c ∈ piece :=
      (ih later).resolve_left apart
    unfold splitAll
    split
    · rename_i same
      rcases List.mem_cons.mp member with rfl | later
      · exact absurd same apart
      · obtain ⟨piece, among, found⟩ := behind later
        exact ⟨piece, List.mem_cons_of_mem _ among, found⟩
    · split
      · rename_i none_
        rcases List.mem_cons.mp member with rfl | later
        · exact ⟨[c], List.mem_singleton_self _, List.mem_singleton_self _⟩
        · obtain ⟨piece, among, -⟩ := behind later
          cases none_ ▸ among
      · rename_i first others pieces
        rcases List.mem_cons.mp member with rfl | later
        · exact ⟨c :: first, List.mem_cons_self, List.mem_cons_self⟩
        · obtain ⟨piece, among, found⟩ := behind later
          rcases List.mem_cons.mp (pieces ▸ among) with rfl | other
          · exact ⟨d :: piece, List.mem_cons_self, List.mem_cons_of_mem _ found⟩
          · exact ⟨piece, List.mem_cons_of_mem _ other, found⟩

theorem isInIpv6_of_ipv6Piece? {piece : Nat} (read : ipv6Piece? cs = some piece) :
    ∀ c ∈ cs, isInIpv6 c = true := by
  unfold ipv6Piece? at read
  split at read
  · cases read
  · obtain ⟨ds, digits, _⟩ := Option.map_eq_some_iff.mp read
    intro c member
    obtain ⟨d, found⟩ := exists_of_mapM digits c member
    simp [isInIpv6, found]

theorem isInIpv6_of_isDigit {c : Char} (digit : c.isDigit = true) : isInIpv6 c = true := by
  have range : '0' ≤ c ∧ c ≤ '9' := by
    rw [Char.isDigit, Bool.and_eq_true, decide_eq_true_iff, decide_eq_true_iff] at digit
    exact digit
  rw [isInIpv6, Percent.hexValue?, if_pos range]
  simp

theorem isInIpv6_of_embeddedIpv4? (read : embeddedIpv4? cs = some pieces) :
    ∀ c ∈ cs, isInIpv6 c = true := by
  unfold embeddedIpv4? at read
  split at read
  · rename_i bytes
    intro c member
    obtain rfl | ⟨part, among, found⟩ := mem_splitAll '.' member
    · rfl
    · obtain ⟨byte, value⟩ := exists_of_mapM bytes part among
      unfold decimalByte? at value
      split at value
      · cases value
      · rename_i fits
        simp only [not_or, Classical.not_not] at fits
        exact isInIpv6_of_isDigit (List.all_eq_true.mp fits.2.2.1 c found)
  · cases read

theorem isInIpv6_of_ipv6Pieces? {parts : List (List Char)} (read : ipv6Pieces? parts = some pieces) :
    ∀ part ∈ parts, ∀ c ∈ part, isInIpv6 c = true := by
  induction parts generalizing pieces with
  | nil => exact nofun
  | cons part rest ih =>
    cases rest with
    | nil =>
      rw [List.forall_mem_singleton]
      unfold ipv6Pieces? at read
      split at read
      · exact isInIpv6_of_embeddedIpv4? read
      · obtain ⟨piece, found, _⟩ := Option.map_eq_some_iff.mp read
        exact isInIpv6_of_ipv6Piece? found
    | cons next rest =>
      simp only [ipv6Pieces?] at read
      obtain ⟨piece, found, read⟩ := Option.bind_eq_some_iff.mp read
      obtain ⟨others, later, _⟩ := Option.bind_eq_some_iff.mp read
      exact List.forall_mem_cons.mpr ⟨isInIpv6_of_ipv6Piece? found, ih later⟩

theorem isInIpv6_of_ipv6Side? {isLast : Bool} (read : ipv6Side? isLast cs = some pieces) :
    ∀ c ∈ cs, isInIpv6 c = true := by
  unfold ipv6Side? at read
  split at read
  · rename_i none_
    rw [none_]
    exact nofun
  · split at read
    · cases read
    · intro c member
      obtain rfl | ⟨part, among, found⟩ := mem_splitAll ':' member
      · rfl
      · exact isInIpv6_of_ipv6Pieces? read part among c found

theorem eq_of_cutDoubleColon? {before after : List Char}
    (cut : cutDoubleColon? cs = some (before, after)) : cs = before ++ ':' :: ':' :: after := by
  fun_induction cutDoubleColon? cs generalizing before with
  | case1 rest =>
    cases cut
    rfl
  | case2 c rest _ ih =>
    obtain ⟨⟨front, back⟩, found, same⟩ := Option.map_eq_some_iff.mp cut
    cases same
    rw [ih found]
    rfl
  | case3 => cases cut

theorem isInIpv6_of_readIpv6? (read : readIpv6? cs = some pieces) : ∀ c ∈ cs, isInIpv6 c = true := by
  unfold readIpv6? at read
  split at read
  · obtain ⟨_, side, _⟩ := Option.bind_eq_some_iff.mp read
    exact isInIpv6_of_ipv6Side? side
  · rename_i before after cut
    obtain ⟨_, front, read⟩ := Option.bind_eq_some_iff.mp read
    obtain ⟨_, back, _⟩ := Option.bind_eq_some_iff.mp read
    intro c member
    rw [eq_of_cutDoubleColon? cut] at member
    rcases List.mem_append.mp member with ahead | behind
    · exact isInIpv6_of_ipv6Side? front c ahead
    · rcases List.mem_cons.mp behind with rfl | behind
      · rfl
      · rcases List.mem_cons.mp behind with rfl | behind
        · rfl
        · exact isInIpv6_of_ipv6Side? back c behind

/-! ### Texts that are a host and nothing else -/

/-- A text with room for a host only: it has no slash, question mark, number sign or `@`, and colons
only behind a bracket that is still open. -/
structure HostOnly (cs : List Char) : Prop where
  plain : ∀ c ∈ cs, c ∉ "/\\?#@".toList
  colons : ∀ before after, cs = before ++ ':' :: after →
    ∃ front inner, before = front ++ '[' :: inner ∧ ']' ∉ inner

/-- A bracket is open behind a text. -/
def OpenAfter (opened : Bool) (before : List Char) : Prop :=
  (opened = true ∧ ']' ∉ before) ∨ ∃ front inner, before = front ++ '[' :: inner ∧ ']' ∉ inner

theorem openAfter_of_cons {opened : Bool} {c : Char} {before : List Char}
    (openAfter : OpenAfter opened (c :: before)) :
    OpenAfter (if c == '[' then true else if c == ']' then false else opened) before := by
  rcases openAfter with ⟨opened, closing⟩ | ⟨front, inner, parts, closing⟩
  · rw [List.mem_cons, not_or] at closing
    refine .inl ⟨?_, closing.2⟩
    have other : (c == ']') = false := beq_false_of_ne (Ne.symm closing.1)
    rw [other, opened]
    split <;> rfl
  · cases front with
    | nil =>
      cases parts
      exact .inl ⟨rfl, closing⟩
    | cons d front =>
      cases parts
      exact .inr ⟨front, inner, rfl, closing⟩

theorem not_ends_of_plain {c : Char} (plain : c ∉ "/\\?#@".toList) :
    isSlash true c = false ∧ endsPath c = false ∧ c ≠ '@' := by
  simp only [String.reduceToList, List.mem_cons, List.not_mem_nil, or_false, not_or] at plain
  obtain ⟨slash, backslash, query, fragment, at_⟩ := plain
  exact ⟨by simp [isSlash, slash, backslash], by simp [endsPath, query, fragment], at_⟩

theorem hostLength_of_openAfter {opened : Bool} (plain : ∀ c ∈ cs, c ∉ "/\\?#@".toList)
    (colons : ∀ before after, cs = before ++ ':' :: after → OpenAfter opened before)
    (rest : List Char) : hostLength true opened (cs ++ '/' :: rest) = cs.length := by
  induction cs generalizing opened with
  | nil =>
    rw [List.nil_append, hostLength, if_pos]
    · rfl
    · simp [isSlash]
  | cons c cs ih =>
    obtain ⟨first, others⟩ := List.forall_mem_cons.mp plain
    obtain ⟨slash, tail, _⟩ := not_ends_of_plain first
    have goesOn : ¬ ((c == ':' && !opened) || isSlash true c || endsPath c) = true := by
      rw [slash, tail, Bool.or_false, Bool.or_false, Bool.and_eq_true, beq_iff_eq]
      rintro ⟨rfl, closed⟩
      rcases colons [] cs rfl with ⟨opened, _⟩ | ⟨front, _, parts, _⟩
      · rw [opened] at closed
        cases closed
      · cases front <;> cases parts
    rw [List.cons_append, hostLength, if_neg goesOn, ih others, List.length_cons]
    exact fun before after parts =>
      openAfter_of_cons (colons (c :: before) after (congrArg (c :: ·) parts))

theorem HostOnly.hostLength (only : HostOnly cs) (rest : List Char) :
    hostLength true false (cs ++ '/' :: rest) = cs.length :=
  hostLength_of_openAfter only.plain
    (fun before after parts => .inr (only.colons before after parts)) rest

def root (scheme : String) (h : Host) : Url :=
  { scheme, host := some h, path := .segments [""] }

theorem readPathAfterHost_slash (web : IsWeb scheme) (h : Host) :
    readPathAfterHost { bare scheme with host := some h } ['/'] = root scheme h := by
  rcases web with rfl | rfl <;> rfl

/-- A text with room for a host only is read as a host. -/
theorem readAfterSlashes_hostOnly (web : IsWeb scheme) (only : HostOnly cs) (nonempty : cs ≠ []) :
    readAfterSlashes (bare scheme) (cs ++ ['/']) = (readHost true cs).map (root scheme) := by
  have nobody : cutUser true (cs ++ ['/']) = none := by
    have absent : '@' ∉ cs ++ ['/'] := fun member => by
      rcases List.mem_append.mp member with inside | last
      · exact (not_ends_of_plain (only.plain _ inside)).2.2 rfl
      · cases List.mem_singleton.mp last
    unfold cutUser
    have absent' :
        '@' ∉ ((cs ++ ['/']).takeWhile fun c => !(isSlash true c || endsPath c)).reverse :=
      fun member => absent ((List.takeWhile_sublist _).subset (List.mem_reverse.mp member))
    simp only [cut?_eq_none.mpr absent']
  have special : isSpecial (bare scheme).scheme = true := web.isSpecial.1
  unfold readAfterSlashes
  simp only [special, nobody]
  unfold readFromHost
  simp only [special, only.hostLength, List.take_left, List.drop_left]
  rw [if_neg fun ⟨zero, _⟩ => nonempty (List.length_eq_zero_iff.mp zero)]
  cases readHost true cs with
  | error fault => rfl
  | ok h => exact congrArg Except.ok (readPathAfterHost_slash web h)

/-- The text of a root is read behind all slashes at its start. -/
theorem parse_spliced (web : IsWeb scheme) (text : String) :
    parse (scheme ++ "://" ++ text ++ "/") =
      readAfterSlashes (bare scheme) ((significant text.toList ++ ['/']).dropWhile (isSlash true)) := by
  have chars : (scheme ++ "://" ++ text ++ "/").toList =
      (scheme.toList ++ [':', '/', '/']) ++ (text.toList ++ ['/']) := by
    simp
  have visible : ∀ c ∈ scheme.toList ++ [':', '/', '/'], isEdge c = false := by
    rcases web with rfl | rfl <;> simp [isEdge]
  have last : dropEndWhile isEdge (text.toList ++ ['/']) = text.toList ++ ['/'] := by
    have shows : ∀ c ∈ (text.toList ++ ['/']).getLast?, isEdge c = false := by
      simp [isEdge]
    simpa [dropEndWhile] using dropEndWhile_append shows (by simp) []
  have shown : significant (stripWhile isEdge (scheme ++ "://" ++ text ++ "/").toList) =
      scheme.toList ++ ':' :: '/' :: '/' :: (significant text.toList ++ ['/']) := by
    rw [chars, shown_append visible (by simp), last, significant, List.filter_append,
      List.append_assoc]
    rfl
  have notFile : scheme ≠ "file" := by simpa using web.isSpecial.2
  unfold parse Url.read
  simp only [shown, cutScheme?_append web, if_neg notFile]
  have dropped (cs : List Char) : cs.drop (cs.takeWhile (isSlash true)).length =
      cs.dropWhile (isSlash true) := by
    have whole := List.takeWhile_append_dropWhile (p := isSlash true) (l := cs)
    exact (congrArg (List.drop _) whole.symm).trans (List.drop_left ..)
  unfold readWithScheme
  rw [if_pos web.isSpecial.1]
  simp only [Option.filter_none, dropped]
  rfl

/-! ### Texts that are cut -/

theorem eq_of_cutUser {special : Bool} {user after : List Char}
    (cut : cutUser special cs = some (user, after)) : cs = user ++ '@' :: after := by
  unfold cutUser at cut
  dsimp only at cut
  generalize is : cs.takeWhile (fun c => !(isSlash special c || endsPath c)) = authority at cut
  have whole : cs = authority ++ cs.drop authority.length := by
    have parts := List.takeWhile_append_dropWhile
      (p := fun c => !(isSlash special c || endsPath c)) (l := cs)
    rw [is] at parts
    exact parts.symm.trans (congrArg _ ((List.drop_left ..).symm.trans (congrArg _ parts)))
  generalize cs.drop authority.length = tail at whole cut
  split at cut
  · cases cut
  · rename_i behind front found
    cases cut
    have turned := congrArg List.reverse (eq_of_cut? found)
    rw [List.reverse_reverse] at turned
    simp [whole, turned]

theorem endsHost_drop (opened : Bool) (cs : List Char) :
    EndsHost (cs.drop (hostLength true opened cs)) := by
  induction cs generalizing opened with
  | nil => exact nofun
  | cons c cs ih =>
    unfold hostLength
    split
    · rename_i ends
      intro d head
      cases head
      simp only [Bool.or_eq_true, Bool.and_eq_true, beq_iff_eq] at ends
      rcases ends with (⟨colon, _⟩ | slash) | tail
      · exact .inl colon
      · exact .inr (.inl slash)
      · exact .inr (.inr tail)
    · exact ih _

/-- The host that is read behind the slashes of a URL is that of the text behind the last `@` before
the path, up to the next mark. What stands before the `@` is the user. -/
theorem readAfterSlashes_parts (web : IsWeb scheme)
    (read : readAfterSlashes (bare scheme) cs = .ok r) :
    ∃ user name rest, cs = user ++ (name ++ rest) ∧ EndsHost rest ∧
      (∃ h, readHost true name = .ok h ∧ r.host = some h) ∧
      (user = [] ∧ r.username = "" ∧ r.password = "" ∨
        ∃ who, user = who ++ ['@'] ∧ (r.username, r.password) = readUser who) := by
  have special : isSpecial scheme = true := web.isSpecial.1
  have from_host {v : Url} {hadUser : Bool} {after : List Char} (same : v.scheme = scheme)
      (read : readFromHost v hadUser after = .ok r) :
      ∃ name rest, after = name ++ rest ∧ EndsHost rest ∧
        (∃ h, readHost true name = .ok h ∧ r.host = some h) ∧
        (r.username, r.password) = (v.username, v.password) := by
    obtain ⟨h, host, tail⟩ := readFromHost_cases read
    rw [same, special] at host tail
    refine ⟨_, _, (List.take_append_drop _ after).symm, endsHost_drop false after, ⟨h, host, ?_⟩, ?_⟩
    · obtain ⟨_, port, rest, _, _, rfl⟩ | ⟨_, rfl⟩ := tail
      · rw [(readPathAfterHost_beside _ _).host]
        cases port <;> rfl
      · rw [(readPathAfterHost_beside _ _).host]
    · obtain ⟨_, port, rest, _, _, rfl⟩ | ⟨_, rfl⟩ := tail
      · rw [(readPathAfterHost_beside _ _).username, (readPathAfterHost_beside _ _).password]
        cases port <;> rfl
      · rw [(readPathAfterHost_beside _ _).username, (readPathAfterHost_beside _ _).password]
  unfold readAfterSlashes at read
  dsimp only at read
  split at read
  · obtain ⟨name, rest, parts, ends, host, user⟩ := from_host rfl read
    obtain ⟨username, password⟩ := Prod.mk.inj user
    exact ⟨[], name, rest, parts, ends, host, .inl ⟨rfl, username, password⟩⟩
  · rename_i after cut
    have parts := eq_of_cutUser cut
    have read : readFromHost (bare scheme) false after = .ok r := by
      split at read
      · exact read
      · split at read
        · cases read
        · exact read
    obtain ⟨name, rest, rfl, ends, host, user⟩ := from_host rfl read
    exact ⟨['@'], name, rest, parts, ends, host, .inr ⟨[], rfl, user⟩⟩
  · rename_i who after _ cut
    have parts := eq_of_cutUser cut
    obtain ⟨name, rest, rfl, ends, host, user⟩ := from_host rfl read
    exact ⟨who ++ ['@'], name, rest, by rw [parts, List.append_assoc]; rfl, ends, host,
      .inr ⟨who, rfl, user⟩⟩

end LiveSession.Url
