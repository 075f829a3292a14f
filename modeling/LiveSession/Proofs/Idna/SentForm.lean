import LiveSession.Idna.Domain
import LiveSession.Proofs.Text.Pieces
import LiveSession.Proofs.Url.Addresses

/-!
# Sent forms that are read again

A domain name in its sent form is in ASCII and without capitals. Folding and composing leave such a
text alone, and a label in its sent form is sent as it is. So whoever reads a sent form gets the same
name again, or none: the text of a label may be too long to be read back.
-/

namespace LiveSession.Idna

open Text

variable {c d : Char} {cs ds : List Char}

/-- A character that does not change when capitals become small letters. -/
def IsSmall (c : Char) : Prop :=
  c.toLower = c

/-- A character of a sent form. -/
structure IsSent (c : Char) : Prop where
  ascii : c.toNat < 0x80
  small : IsSmall c

/-! ### Capitals -/

theorem isSmall_of_toNat (other : ¬ (0x41 ≤ c.toNat ∧ c.toNat ≤ 0x5A)) : IsSmall c :=
  dif_neg other

theorem isSmall_ofNat {n : Nat} (other : ¬ (0x41 ≤ n ∧ n ≤ 0x5A)) : IsSmall (Char.ofNat n) := by
  by_cases valid : n.isValidChar
  · rw [Char.ofNat, dif_pos valid]
    exact isSmall_of_toNat other
  · rw [Char.ofNat, dif_neg valid]
    exact isSmall_of_toNat (by decide)

theorem isSent_toLower (ascii : c.toNat < 0x80) : IsSent c.toLower := by
  have all : ∀ n < 0x80, (Char.ofNat n).toLower.toNat < 0x80 ∧
      (Char.ofNat n).toLower.toLower = (Char.ofNat n).toLower := by decide
  have this := all c.toNat ascii
  rw [Char.ofNat_toNat] at this
  exact ⟨this.1, this.2⟩

theorem isSmall_toLower (c : Char) : IsSmall c.toLower := by
  by_cases ascii : c.toNat < 0x80
  · exact (isSent_toLower ascii).small
  · have small : IsSmall c := isSmall_of_toNat (by omega)
    exact (congrArg Char.toLower small).trans rfl

/-! ### Tables -/

/-- The rows that some lines write pass a test. -/
inductive Passes (test : Row → Bool) : List String → Prop
  | nil : Passes test []
  | cons {line : List Char} {lines : List String}
      (rows : ((splitAll ' ' line).map Row.read).all test = true) (rest : Passes test lines) :
      Passes test (String.ofList line :: lines)

theorem Passes.test {test : Row → Bool} {lines : List String} (passes : Passes test lines) {row : Row}
    (member : row ∈ Rows.read lines) : test row = true := by
  unfold Rows.read at member
  induction passes with
  | nil => simp at member
  | @cons line lines rows rest ih =>
    rw [List.mem_toArray, List.flatMap_cons, String.toList_ofList, List.mem_append] at member
    rcases member with here | later
    · exact List.all_eq_true.mp rows row here
    · exact ih (List.mem_toArray.mpr later)

theorem mem_of_bisect {rows : Rows} {n lo hi : Nat} {row : Row}
    (found : rows.bisect n lo hi = some row) : row ∈ rows ∧ row.holds n = true := by
  fun_induction Rows.bisect rows n lo hi with
  | case1 => cases found
  | case2 _ _ _ _ _ _ _ ih => exact ih found
  | case3 _ _ _ _ _ _ _ _ ih => exact ih found
  | case4 _ _ _ _ row' there _ _ holds =>
    cases found
    exact ⟨Array.mem_of_getElem? there, holds⟩
  | case5 => cases found
  | case6 => cases found

theorem mem_of_find? {rows : Rows} {n : Nat} {row : Row} (found : rows.find? n = some row) :
    row ∈ rows ∧ row.first ≤ n := by
  obtain ⟨member, holds⟩ := mem_of_bisect found
  simp only [Row.holds, Bool.and_eq_true, decide_eq_true_eq] at holds
  exact ⟨member, holds.1.1⟩

/-- The row is about characters beyond ASCII. -/
def isBeyondAscii (row : Row) : Bool :=
  Nat.ble 0x80 row.first

/-- The row puts a character beyond ASCII together from one that is no capital and one beyond ASCII. -/
def isComposite (row : Row) : Bool :=
  match row.values with
  | [a, b] => Nat.ble 0x80 row.first && (Nat.blt a 0x41 || Nat.blt 0x5A a) && Nat.ble 0x80 b
  | _ => false

set_option maxRecDepth 4000 in
theorem combiningClasses_beyond {row : Row} (member : row ∈ combiningClasses) :
    isBeyondAscii row = true := by
  refine Passes.test ?_ member
  dsimp only
  repeat' first | exact .nil | refine .cons (by decide +kernel) ?_

set_option maxRecDepth 4000 in
theorem composites_composite {row : Row} (member : row ∈ composites) : isComposite row = true := by
  refine Passes.test ?_ member
  dsimp only
  repeat' first | exact .nil | refine .cons (by decide +kernel) ?_

/-! ### Folding -/

theorem isSmall_fold? (folded : fold? c = some cs) : ∀ d ∈ cs, IsSmall d := by
  unfold fold? at folded
  split at folded
  · cases folded
    exact List.forall_mem_singleton.mpr (isSmall_toLower c)
  · rename_i beyond
    split at folded
    · cases folded
      intro d member
      obtain ⟨n, -, rfl⟩ := List.mem_map.mp member
      exact isSmall_toLower _
    · split at folded
      · cases folded
        exact List.forall_mem_singleton.mpr (isSmall_of_toNat (by omega))
      · cases folded

theorem fold?_sent (sent : IsSent c) : fold? c = some [c] := by
  rw [fold?, if_pos sent.ascii]
  exact congrArg (fun d => some [d]) sent.small

theorem isSmall_foldText? (folded : foldText? cs = some ds) : ∀ d ∈ ds, IsSmall d := by
  obtain ⟨pieces, read, rfl⟩ := Option.map_eq_some_iff.mp folded
  intro d member
  obtain ⟨piece, among, member⟩ := List.mem_flatten.mp member
  exact Url.forall_of_mapM (fun _ _ => isSmall_fold?) read piece among d member

theorem foldText?_sent (sent : ∀ c ∈ cs, IsSent c) : foldText? cs = some cs := by
  have read : cs.mapM fold? = some (cs.map fun c => [c]) := by
    induction cs with
    | nil => rfl
    | cons c cs ih =>
      obtain ⟨first, rest⟩ := List.forall_mem_cons.mp sent
      rw [List.mapM_cons, fold?_sent first, ih rest]
      rfl
  rw [foldText?, read, Option.map_some, ← List.flatMap_def, List.flatMap_singleton']

/-! ### Composing -/

theorem parts?_eq_some {a b : Char} (apart : parts? c = some (a, b)) :
    0x80 ≤ c.toNat ∧ IsSmall a ∧ IsSmall b := by
  obtain ⟨row, found, apart⟩ := Option.bind_eq_some_iff.mp apart
  obtain ⟨member, first⟩ := mem_of_find? found
  have composite := composites_composite member
  unfold isComposite at composite
  split at apart
  · rename_i values
    cases apart
    rw [values] at composite
    simp only [Bool.and_eq_true, Bool.or_eq_true, Nat.ble_eq, Nat.blt_eq] at composite
    exact ⟨by omega, isSmall_ofNat (by omega), isSmall_ofNat (by omega)⟩
  · cases apart

theorem composite?_eq_some {a b : Char} (together : composite? a b = some c) :
    0x80 ≤ b.toNat ∧ IsSmall c := by
  unfold composite? at together
  cases joined : joinSyllable? a b with
  | some d =>
    rw [joined] at together
    cases together
    unfold joinSyllable? at joined
    split at joined
    · rw [← Option.some.inj joined]
      exact ⟨by omega, isSmall_ofNat (by omega)⟩
    · split at joined
      · rw [← Option.some.inj joined]
        exact ⟨by omega, isSmall_ofNat (by omega)⟩
      · cases joined
  | none =>
    rw [joined] at together
    obtain ⟨row, found, rfl⟩ := Option.map_eq_some_iff.mp together
    have values : row.values = [a.toNat, b.toNat] := by simpa using List.find?_some found
    have composite := composites_composite (Array.mem_toList_iff.mp (List.mem_of_find?_eq_some found))
    simp only [isComposite, values, Bool.and_eq_true, Nat.ble_eq] at composite
    exact ⟨composite.2, isSmall_ofNat (by omega)⟩

theorem isSmall_takeApart (depth : Nat) (small : IsSmall c) : ∀ d ∈ takeApart depth c, IsSmall d := by
  induction depth generalizing c with
  | zero => exact List.forall_mem_singleton.mpr small
  | succ depth ih =>
    unfold takeApart
    cases apart : parts? c with
    | some parts =>
      obtain ⟨-, first, second⟩ := parts?_eq_some apart
      exact List.forall_mem_append.mpr ⟨ih first, List.forall_mem_singleton.mpr second⟩
    | none => exact List.forall_mem_singleton.mpr small

theorem isSmall_splitSyllable (apart : splitSyllable? c = some cs) : ∀ d ∈ cs, IsSmall d := by
  unfold splitSyllable? at apart
  split at apart
  · rw [← Option.some.inj apart]
    have leading (n : Nat) : IsSmall (Char.ofNat (0x1100 + n)) := isSmall_ofNat (by omega)
    have vowel (n : Nat) : IsSmall (Char.ofNat (0x1161 + n)) := isSmall_ofNat (by omega)
    have trailing (n : Nat) : IsSmall (Char.ofNat (0x11A7 + n)) := isSmall_ofNat (by omega)
    split
    · exact List.forall_mem_cons.mpr ⟨leading _, List.forall_mem_singleton.mpr (vowel _)⟩
    · exact List.forall_mem_cons.mpr ⟨leading _, List.forall_mem_cons.mpr
        ⟨vowel _, List.forall_mem_singleton.mpr (trailing _)⟩⟩
  · cases apart

theorem isSmall_decompose (small : IsSmall c) : ∀ d ∈ decompose c, IsSmall d := by
  unfold decompose
  cases syllable : splitSyllable? c with
  | none =>
    rw [Option.getD_none]
    exact isSmall_takeApart 3 small
  | some parts =>
    rw [Option.getD_some]
    exact isSmall_splitSyllable syllable

theorem decompose_ascii (ascii : c.toNat < 0x80) : decompose c = [c] := by
  have syllable : splitSyllable? c = none := if_neg (by omega)
  have whole : parts? c = none := by
    rw [Option.eq_none_iff_forall_ne_some]
    intro (a, b) apart
    have := (parts?_eq_some apart).1
    omega
  unfold decompose takeApart
  rw [syllable, whole]
  rfl

theorem combiningClass_ascii (ascii : c.toNat < 0x80) : combiningClass c = 0 := by
  unfold combiningClass
  cases found : combiningClasses.find? c.toNat with
  | none => rfl
  | some row =>
    obtain ⟨member, first⟩ := mem_of_find? found
    have beyond := Nat.le_of_ble_eq_true (combiningClasses_beyond member)
    omega

theorem mem_of_mem_insertMark (member : d ∈ insertMark c cs) : d = c ∨ d ∈ cs := by
  induction cs with
  | nil => exact .inl (List.mem_singleton.mp member)
  | cons e cs ih =>
    unfold insertMark at member
    split at member
    · rcases List.mem_cons.mp member with rfl | later
      · exact .inr List.mem_cons_self
      · exact (ih later).imp_right (List.mem_cons_of_mem _)
    · exact List.mem_cons.mp member

theorem mem_of_mem_orderMarks (member : d ∈ orderMarks cs) : d ∈ cs := by
  induction cs with
  | nil => exact member
  | cons c cs ih =>
    rcases mem_of_mem_insertMark member with rfl | later
    · exact List.mem_cons_self
    · exact List.mem_cons_of_mem _ (ih later)

theorem orderMarks_ascii (ascii : ∀ c ∈ cs, c.toNat < 0x80) : orderMarks cs = cs := by
  induction cs with
  | nil => rfl
  | cons c cs ih =>
    obtain ⟨-, rest⟩ := List.forall_mem_cons.mp ascii
    show insertMark c (orderMarks cs) = c :: cs
    rw [ih rest]
    cases cs with
    | nil => rfl
    | cons d cs =>
      rw [insertMark, if_neg]
      rw [combiningClass_ascii (rest d List.mem_cons_self)]
      exact fun both => Nat.lt_irrefl 0 both.1

theorem isSmall_add {s : Composer} (all : ∀ d ∈ s.toList, IsSmall d) (small : IsSmall c) :
    ∀ d ∈ (s.add c).toList, IsSmall d := by
  simp only [Composer.toList, List.mem_reverse, List.mem_append, Option.mem_toList] at all ⊢
  unfold Composer.add
  dsimp only
  split
  · rename_i joined together
    have new : IsSmall joined := by
      split at together
      · cases together
      · obtain ⟨letter, -, together⟩ := Option.bind_eq_some_iff.mp together
        exact (composite?_eq_some together).2
    rintro d ((mark | letter) | finished)
    · exact all d (.inl (.inl mark))
    · cases letter
      exact new
    · exact all d (.inr finished)
  · split
    · rintro d ((mark | letter) | finished)
      · cases mark
      · cases letter
        exact small
      · simp only [List.mem_append, Option.mem_toList] at finished
        exact all d finished
    · rintro d ((mark | letter) | finished)
      · rcases List.mem_cons.mp mark with rfl | mark
        · exact small
        · exact all d (.inl (.inl mark))
      · exact all d (.inl (.inr letter))
      · exact all d (.inr finished)

theorem isSmall_compose (all : ∀ c ∈ cs, IsSmall c) : ∀ d ∈ compose cs, IsSmall d := by
  have folded {ds : List Char} (small : ∀ d ∈ ds, IsSmall d) {s : Composer}
      (all : ∀ d ∈ s.toList, IsSmall d) : ∀ d ∈ (ds.foldl Composer.add s).toList, IsSmall d := by
    induction ds generalizing s with
    | nil => exact all
    | cons d ds ih =>
      obtain ⟨first, rest⟩ := List.forall_mem_cons.mp small
      exact ih rest (isSmall_add all first)
  refine folded (fun d member => ?_) nofun
  obtain ⟨c, among, part⟩ := List.mem_flatMap.mp (mem_of_mem_orderMarks member)
  exact isSmall_decompose (all c among) d part

theorem compose_ascii (ascii : ∀ c ∈ cs, c.toNat < 0x80) : compose cs = cs := by
  have parts : cs.flatMap decompose = cs := by
    rw [List.flatMap_congr fun c member => decompose_ascii (ascii c member), List.flatMap_singleton']
  have folded {ds : List Char} (ascii : ∀ d ∈ ds, d.toNat < 0x80) (s : Composer) :
      (ds.foldl Composer.add s).toList = s.toList ++ ds := by
    induction ds generalizing s with
    | nil => exact (List.append_nil _).symm
    | cons d ds ih =>
      obtain ⟨first, rest⟩ := List.forall_mem_cons.mp ascii
      have apart : (s.letter.bind fun letter => composite? letter d) = none := by
        rw [Option.bind_eq_none_iff]
        intro letter _
        rw [Option.eq_none_iff_forall_ne_some]
        intro joined together
        have := (composite?_eq_some together).1
        omega
      have added : (s.add d).toList = s.toList ++ [d] := by
        simp only [Composer.add, combiningClass_ascii first, apart, ite_self, if_true, Composer.toList]
        simp
      rw [List.foldl_cons, ih rest, added, List.append_assoc, List.singleton_append]
  rw [compose, parts, orderMarks_ascii ascii, folded ascii]
  rfl

/-! ### Punycode -/

theorem isSent_digit {d : Nat} (value : d < 36) : IsSent (Punycode.digit d) := by
  have all : ∀ d < 36, (Punycode.digit d).toNat < 0x80 ∧
      (Punycode.digit d).toLower = Punycode.digit d := by decide
  exact ⟨(all d value).1, (all d value).2⟩

theorem isSent_hyphen : IsSent '-' :=
  ⟨by decide, show Char.toLower '-' = '-' by decide⟩

theorem isSent_dot : IsSent '.' :=
  ⟨by decide, show Char.toLower '.' = '.' by decide⟩

theorem isSent_digits (bias k q : Nat) : ∀ c ∈ Punycode.digits bias k q, IsSent c := by
  have ⟨lower, upper⟩ := Punycode.threshold_bounds bias k
  fun_induction Punycode.digits bias k q with
  | case1 k q t last => exact List.forall_mem_singleton.mpr (isSent_digit (by omega))
  | case2 k q t more ih =>
    have below : (q - t) % (36 - t) < 36 - t := Nat.mod_lt _ (by omega)
    have ⟨lower, upper⟩ := Punycode.threshold_bounds bias (k + 36)
    exact List.forall_mem_cons.mpr ⟨isSent_digit (by omega), ih lower upper⟩

theorem isSent_pass {basics n : Nat} {w : Punycode.Writer} (sent : ∀ c ∈ w.written, IsSent c) (d : Char) :
    ∀ c ∈ (w.pass basics n d).written, IsSent c := by
  unfold Punycode.Writer.pass
  split
  · exact sent
  · split
    · intro c member
      rcases List.mem_append.mp member with digit | before
      · exact isSent_digits _ _ _ c (List.mem_reverse.mp digit)
      · exact sent c before
    · exact sent

theorem isSent_run {text : List Char} {basics : Nat} {points : List Nat} {n : Nat}
    {w : Punycode.Writer} (sent : ∀ c ∈ w.written, IsSent c) :
    ∀ c ∈ (Punycode.Writer.run text basics points n w).written, IsSent c := by
  induction points generalizing n w with
  | nil => exact sent
  | cons m points ih =>
    have passed {rest : List Char} {w : Punycode.Writer} (sent : ∀ c ∈ w.written, IsSent c) :
        ∀ c ∈ (rest.foldl (Punycode.Writer.pass basics m) w).written, IsSent c := by
      induction rest generalizing w with
      | nil => exact sent
      | cons d rest ih => exact ih (isSent_pass sent d)
    unfold Punycode.Writer.run
    exact ih (passed sent)

theorem isSent_encode (small : ∀ c ∈ cs, IsSmall c) : ∀ c ∈ Punycode.encode cs, IsSent c := by
  intro c member
  rcases List.mem_append.mp member with front | numbers
  · rcases List.mem_append.mp front with basic | hyphen
    · obtain ⟨among, ascii⟩ := List.mem_filter.mp basic
      exact ⟨of_decide_eq_true ascii, small c among⟩
    · split at hyphen
      · cases hyphen
      · rw [List.mem_singleton.mp hyphen]
        exact isSent_hyphen
  · have start : ∀ c ∈ ([] : List Char), IsSent c := fun _ none_ => absurd none_ List.not_mem_nil
    exact isSent_run start c (List.mem_reverse.mp numbers)

/-! ### Labels -/

theorem Label.isAscii_iff : Label.isAscii cs = true ↔ ∀ c ∈ cs, c.toNat < 0x80 := by
  simp only [Label.isAscii, List.all_eq_true, decide_eq_true_eq]

theorem mark_sent : ∀ c ∈ Label.mark, IsSent c := by
  have all : Label.mark.all (fun c => c.toNat < 0x80 && c.toLower == c) = true := by decide +kernel
  intro c member
  have sent := List.all_eq_true.mp all c member
  rw [Bool.and_eq_true, decide_eq_true_eq, beq_iff_eq] at sent
  exact ⟨sent.1, sent.2⟩

theorem Label.eq_of_ofSent? {l : Label} (found : Label.ofSent? cs = some l) :
    Label.isAscii cs = true ∧ l.ascii = Label.mark ++ cs := by
  unfold Label.ofSent? at found
  split at found
  · rename_i fits
    split at found
    · cases found
    · split at found
      · cases found
        exact ⟨(Bool.and_eq_true_iff.mp fits).1, rfl⟩
      · cases found
  · cases found

theorem Label.isSent_read? {l : Label} (small : ∀ c ∈ cs, IsSmall c) (found : Label.read? cs = some l) :
    ∀ c ∈ l.ascii, IsSent c := by
  unfold Label.read? at found
  split at found
  · obtain ⟨ascii, same⟩ := Label.eq_of_ofSent? found
    rw [same]
    refine List.forall_mem_append.mpr ⟨mark_sent, fun c member => ?_⟩
    exact ⟨Label.isAscii_iff.mp ascii c member, small c (List.mem_of_mem_drop member)⟩
  · unfold Label.ofText? at found
    split at found
    · cases found
      dsimp only
      split
      · rename_i ascii
        exact fun c member => ⟨Label.isAscii_iff.mp ascii c member, small c member⟩
      · exact List.forall_mem_append.mpr ⟨mark_sent, isSent_encode small⟩
    · cases found

/-- A label in its sent form is sent as it is. -/
theorem Label.read?_sent {l : Label} (sent : ∀ c ∈ cs, IsSent c) (found : Label.read? cs = some l) :
    l.ascii = cs := by
  unfold Label.read? at found
  split at found
  · rename_i marked
    rw [(Label.eq_of_ofSent? found).2]
    exact (List.prefix_iff_eq_append.mp (List.isPrefixOf_iff_prefix.mp marked))
  · unfold Label.ofText? at found
    split at found
    · cases found
      exact if_pos (Label.isAscii_iff.mpr fun c member => (sent c member).ascii)
    · cases found

/-! ### Domain names -/

/-- Pieces with dots between them. -/
def joinDots (pieces : List (List Char)) : List Char :=
  (pieces.intersperse ['.']).flatten

theorem joinDots_cons {piece : List Char} {pieces : List (List Char)} (some_ : pieces ≠ []) :
    joinDots (piece :: pieces) = piece ++ '.' :: joinDots pieces := by
  obtain ⟨next, rest, rfl⟩ := List.exists_cons_of_ne_nil some_
  rfl

theorem joinDots_splitAll (cs : List Char) : joinDots (splitAll '.' cs) = cs := by
  induction cs with
  | nil => rfl
  | cons c cs ih =>
    unfold splitAll
    split
    · rename_i same
      rw [joinDots_cons (splitAll_ne_nil '.' cs), ih, same]
      rfl
    · split
      · rename_i none_
        exact absurd none_ (splitAll_ne_nil '.' cs)
      · rename_i piece rest pieces
        rw [pieces] at ih
        rw [← ih]
        cases rest <;> rfl

theorem mem_joinDots {pieces : List (List Char)} (member : c ∈ joinDots pieces) :
    c = '.' ∨ ∃ piece ∈ pieces, c ∈ piece := by
  induction pieces with
  | nil => cases member
  | cons piece pieces ih =>
    by_cases none_ : pieces = []
    · subst none_
      rw [show joinDots [piece] = piece from List.append_nil _] at member
      exact .inr ⟨piece, List.mem_cons_self, member⟩
    · rw [joinDots_cons none_] at member
      rcases List.mem_append.mp member with here | later
      · exact .inr ⟨piece, List.mem_cons_self, here⟩
      · rcases List.mem_cons.mp later with dot | later
        · exact .inl dot
        · refine (ih later).imp_right ?_
          rintro ⟨other, among, member⟩
          exact ⟨other, List.mem_cons_of_mem _ among, member⟩

theorem labels?_eq_some {labels : List Label} (read : labels? cs = some labels) :
    ∃ folded, foldText? cs = some folded ∧
      (splitAll '.' (compose folded)).mapM Label.read? = some labels := by
  unfold labels? at read
  split at read
  · cases read
  · rename_i folded fold
    split at read
    · cases read
    · rename_i labels' pieces
      dsimp only at read
      split at read
      · cases read
      · cases read
        exact ⟨folded, fold, pieces⟩

theorem isSent_labels? {labels : List Label} (read : labels? cs = some labels) :
    ∀ l ∈ labels, ∀ c ∈ l.ascii, IsSent c := by
  obtain ⟨folded, fold, pieces⟩ := labels?_eq_some read
  have small : ∀ piece ∈ splitAll '.' (compose folded), ∀ c ∈ piece, IsSmall c :=
    fun piece among c member =>
      isSmall_compose (isSmall_foldText? fold) c (mem_of_mem_splitAll among member)
  have pairs := Url.forall₂_of_mapM pieces
  generalize splitAll '.' (compose folded) = all at small pairs
  clear read pieces
  induction pairs with
  | nil => exact fun _ none_ => absurd none_ List.not_mem_nil
  | cons found _ ih =>
    obtain ⟨first, rest⟩ := List.forall_mem_cons.mp small
    exact List.forall_mem_cons.mpr ⟨Label.isSent_read? first found, ih rest⟩

/-- The labels of a sent form are sent as they are. -/
theorem labels?_sent {labels : List Label} (sent : ∀ c ∈ cs, IsSent c) (read : labels? cs = some labels) :
    joinDots (labels.map Label.ascii) = cs := by
  obtain ⟨folded, fold, pieces⟩ := labels?_eq_some read
  cases (foldText?_sent sent).symm.trans fold
  rw [compose_ascii fun c member => (sent c member).ascii] at pieces
  have sent : ∀ piece ∈ splitAll '.' cs, ∀ c ∈ piece, IsSent c :=
    fun piece among c member => sent c (mem_of_mem_splitAll among member)
  have pairs := Url.forall₂_of_mapM pieces
  have same : labels.map Label.ascii = splitAll '.' cs := by
    generalize splitAll '.' cs = all at sent pairs
    clear read pieces
    induction pairs with
    | nil => rfl
    | cons found _ ih =>
      obtain ⟨first, rest⟩ := List.forall_mem_cons.mp sent
      rw [List.map_cons, Label.read?_sent first found, ih rest]
  rw [same, joinDots_splitAll]

/-- The sent form of a domain name is made of characters of sent forms. -/
theorem isSent_toAscii? {name : List Char} (found : toAscii? cs = some name) : ∀ c ∈ name, IsSent c := by
  unfold toAscii? at found
  split at found
  · rename_i plain
    cases found
    intro c member
    obtain ⟨d, among, rfl⟩ := List.mem_map.mp member
    exact isSent_toLower (Label.isAscii_iff.mp (Bool.and_eq_true_iff.mp plain).1 d among)
  · obtain ⟨labels, read, rfl⟩ := Option.map_eq_some_iff.mp found
    intro c member
    rcases mem_joinDots member with rfl | ⟨ascii, among, member⟩
    · exact isSent_dot
    · obtain ⟨label, within_, rfl⟩ := List.mem_map.mp among
      exact isSent_labels? read label within_ c member

theorem toAscii?_of_toAscii? {name again : List Char} (found : toAscii? cs = some name)
    (found' : toAscii? name = some again) : again = name := by
  have sent := isSent_toAscii? found
  unfold toAscii? at found'
  split at found'
  · cases found'
    rw [List.map_congr_left fun c member => (sent c member).small]
    exact List.map_id' name
  · obtain ⟨labels, read, rfl⟩ := Option.map_eq_some_iff.mp found'
    exact labels?_sent sent read

end LiveSession.Idna
