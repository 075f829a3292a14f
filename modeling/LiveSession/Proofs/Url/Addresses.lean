import LiveSession.Proofs.Text.Pieces
import LiveSession.Url.Basic
import LiveSession.Url.Ipv4
import LiveSession.Url.Ipv6
import Mathlib.Data.List.Forall2
import Mathlib.Tactic.IntervalCases

/-!
# Addresses read again

The text of an address is read as that address: `readIpv4_ipv4Text` and `readIpv6?_ipv6Text`. Every
address that is read has four bytes, or eight pieces of two bytes, which is all that this needs.
-/

namespace LiveSession.Url

open Text

theorem mapM_map_eq_some {α β : Type} {f : β → Option α} {g : α → β} {xs : List α}
    (read : ∀ x ∈ xs, f (g x) = some x) : (xs.map g).mapM f = some xs := by
  induction xs with
  | nil => rfl
  | cons x xs ih =>
    have ⟨first, rest⟩ := List.forall_mem_cons.mp read
    rw [List.map_cons, List.mapM_cons, first, ih rest]
    rfl

theorem forall₂_of_mapM {α β : Type} {f : α → Option β} {xs : List α} {ys : List β}
    (read : xs.mapM f = some ys) : List.Forall₂ (fun x y => f x = some y) xs ys := by
  induction xs generalizing ys with
  | nil =>
    cases read
    exact .nil
  | cons x xs ih =>
    rw [List.mapM_cons] at read
    obtain ⟨y, first, read⟩ := Option.bind_eq_some_iff.mp read
    obtain ⟨zs, rest, same⟩ := Option.bind_eq_some_iff.mp read
    cases same
    exact .cons first (ih rest)

theorem forall_of_mapM {α β : Type} {f : α → Option β} {P : β → Prop}
    (each : ∀ x y, f x = some y → P y) {xs : List α} {ys : List β} (read : xs.mapM f = some ys) :
    ∀ y ∈ ys, P y := by
  have pairs := forall₂_of_mapM read
  clear read
  induction pairs with
  | nil => exact nofun
  | cons first _ ih => exact List.forall_mem_cons.mpr ⟨each _ _ first, ih⟩

theorem foldl_base_lt {base : Nat} {ds : List Nat} (small : ∀ d ∈ ds, d < base) (n : Nat) :
    ds.foldl (fun n d => n * base + d) n < (n + 1) * base ^ ds.length := by
  induction ds generalizing n with
  | nil => simp
  | cons d ds ih =>
    have ⟨first, rest⟩ := List.forall_mem_cons.mp small
    have step : n * base + d + 1 ≤ (n + 1) * base := by
      rw [Nat.add_mul, Nat.one_mul]
      omega
    calc ds.foldl (fun n d => n * base + d) (n * base + d)
        < (n * base + d + 1) * base ^ ds.length := ih rest _
      _ ≤ (n + 1) * base * base ^ ds.length := Nat.mul_le_mul_right _ step
      _ = (n + 1) * base ^ (d :: ds).length := by
          rw [List.length_cons, Nat.pow_succ', Nat.mul_assoc]

theorem exists_toDigits {base : Nat} (above : 1 < base) (n : Nat) :
    ∃ ds : List Nat, Nat.toDigits base n = ds.map Nat.digitChar ∧ (∀ d ∈ ds, d < base) ∧
      ds.foldl (fun n d => n * base + d) 0 = n := by
  induction n using Nat.strongRecOn with
  | ind n ih =>
    rw [Nat.toDigits_eq_if above]
    by_cases small : n < base
    · rw [if_pos small]
      exact ⟨[n], rfl, by simpa using small, by simp⟩
    · rw [if_neg small]
      obtain ⟨ds, written, digits, value⟩ := ih (n / base) (Nat.div_lt_self (by omega) above)
      refine ⟨ds ++ [n % base], by simp [written], ?_, ?_⟩
      · intro d member
        rcases List.mem_append.mp member with among | last
        · exact digits d among
        · rw [List.mem_singleton.mp last]
          exact Nat.mod_lt _ (by omega)
      · rw [List.foldl_append, value]
        exact Nat.div_add_mod' n base

theorem digit_of_mem_toDigits {base n : Nat} {c : Char} (above : 1 < base)
    (member : c ∈ Nat.toDigits base n) : ∃ d < base, c = d.digitChar := by
  obtain ⟨ds, written, digits, _⟩ := exists_toDigits above n
  rw [written] at member
  obtain ⟨d, among, rfl⟩ := List.mem_map.mp member
  exact ⟨d, digits d among, rfl⟩

/-! ### IPv4 -/

theorem ipv4Part?_toString : ∀ n < 256, ipv4Part? (toString n).toList = some n := by
  decide +kernel

theorem toList_toString (n : Nat) : (toString n).toList = Nat.toDigits 10 n := by
  simp [Nat.toString_eq_repr, Nat.toList_repr]

theorem isDigit_of_mem_toString {n : Nat} {c : Char} (member : c ∈ (toString n).toList) :
    c.isDigit = true :=
  Nat.isDigit_of_mem_toDigits (by decide) (by decide) (toList_toString n ▸ member)

theorem dotless_toString (n : Nat) : '.' ∉ (toString n).toList := fun dot =>
  absurd (isDigit_of_mem_toString dot) (by decide)

def ipv4Bytes (address : Nat) : List Nat :=
  [24, 16, 8, 0].map fun shift => address >>> shift % 256

theorem ipv4Bytes_lt (address : Nat) : ∀ byte ∈ ipv4Bytes address, byte < 256 := by
  intro byte member
  obtain ⟨shift, _, rfl⟩ := List.mem_map.mp member
  omega

theorem splitAll_ipv4Text (address : Nat) :
    splitAll '.' (ipv4Text address).toList =
      (ipv4Bytes address).map fun byte => (toString byte).toList := by
  have dotless : ∀ s ∈ [24, 16, 8, 0].map fun shift => toString (address >>> shift % 256),
      '.' ∉ s.toList := by
    intro s member
    obtain ⟨shift, _, rfl⟩ := List.mem_map.mp member
    exact dotless_toString _
  exact splitAll_join (by simp) dotless

theorem ipv4Text_ne_nil (address : Nat) : (ipv4Text address).toList ≠ [] := by
  intro empty
  have parts := splitAll_ipv4Text address
  rw [empty] at parts
  simpa [splitAll, ipv4Bytes] using congrArg List.length parts

theorem hostParts_ipv4Text (address : Nat) :
    hostParts (ipv4Text address).toList =
      (ipv4Bytes address).map fun byte => (toString byte).toList := by
  have ends : ((ipv4Bytes address).map fun byte => (toString byte).toList).getLast? ≠ some [] := by
    simp [ipv4Bytes]
  unfold hostParts
  simp only [splitAll_ipv4Text, if_neg ends]

theorem endsInNumber_ipv4Text (address : Nat) : endsInNumber (ipv4Text address).toList = true := by
  have last : ((ipv4Bytes address).map fun byte => (toString byte).toList).getLast? =
      some (toString (address >>> 0 % 256)).toList := rfl
  unfold endsInNumber
  rw [hostParts_ipv4Text, last]
  have digits : (toString (address >>> 0 % 256)).toList.all Char.isDigit = true :=
    List.all_eq_true.mpr fun c member => isDigit_of_mem_toString member
  cases part : (toString (address >>> 0 % 256)).toList with
  | nil => exact absurd (toList_toString _ ▸ part) Nat.toDigits_ne_nil
  | cons c cs =>
    rw [part] at digits
    simp only [digits, Bool.true_or]

theorem ipv4OfParts?_ipv4Bytes {address : Nat} (word : address < 2 ^ 32) :
    ipv4OfParts? (ipv4Bytes address) = some address := by
  have bytes := ipv4Bytes_lt address
  simp only [ipv4Bytes, List.map_cons, List.map_nil, Nat.shiftRight_eq_div_pow] at bytes ⊢
  simp only [ipv4OfParts?, List.reverse_cons, List.reverse_nil, List.nil_append, List.cons_append,
    List.foldl_cons, List.foldl_nil, List.length_cons, List.length_nil, Nat.shiftLeft_eq]
  rw [if_pos]
  · congr 1
    omega
  · refine ⟨by omega, ?_, by omega⟩
    simp only [List.all_cons, List.all_nil, Bool.and_true, Bool.and_eq_true, decide_eq_true_eq]
    omega

theorem readIpv4_ipv4Text {address : Nat} (word : address < 2 ^ 32) :
    readIpv4 (ipv4Text address).toList = .ok address := by
  have parts : ((ipv4Bytes address).map fun byte => (toString byte).toList).mapM ipv4Part? =
      some (ipv4Bytes address) :=
    mapM_map_eq_some fun byte member => ipv4Part?_toString byte (ipv4Bytes_lt address byte member)
  unfold readIpv4
  rw [hostParts_ipv4Text, parts]
  simp only [ipv4OfParts?_ipv4Bytes word]

theorem lt_of_ipv4OfParts? {parts : List Nat} {address : Nat}
    (read : ipv4OfParts? parts = some address) : address < 2 ^ 32 := by
  unfold ipv4OfParts? at read
  split at read
  · cases read
  · rename_i last before _
    split at read
    · rename_i fits
      obtain ⟨few, bytes, last_lt⟩ := fits
      cases read
      have bytes : ∀ byte ∈ before.reverse, byte < 256 := by simpa using bytes
      have front := foldl_base_lt bytes 0
      rw [List.length_reverse, Nat.zero_add, Nat.one_mul] at front
      rw [Nat.shiftLeft_eq, Nat.one_mul] at last_lt
      rw [Nat.shiftLeft_eq]
      generalize before.reverse.foldl (fun n p => n * 256 + p) 0 = n at front ⊢
      generalize before.length = k at few front last_lt ⊢
      interval_cases k <;> omega
    · cases read

theorem lt_of_readIpv4 {cs : List Char} {address : Nat} (read : readIpv4 cs = .ok address) :
    address < 2 ^ 32 := by
  unfold readIpv4 at read
  split at read
  · cases read
  · split at read
    · rename_i found
      cases read
      exact lt_of_ipv4OfParts? found
    · cases read

/-! ### IPv6 -/

theorem hexValue?_digitChar : ∀ d < 16, Percent.hexValue? d.digitChar = some d := by
  decide

theorem digitChar_ne_colon : ∀ d < 16, d.digitChar ≠ ':' ∧ d.digitChar ≠ '.' := by
  decide

def hexPieces (pieces : List Nat) : List (List Char) :=
  pieces.map (Nat.toDigits 16)

theorem not_mem_toDigits (piece : Nat) : ':' ∉ Nat.toDigits 16 piece ∧ '.' ∉ Nat.toDigits 16 piece := by
  constructor <;> intro member <;>
    obtain ⟨d, digit, same⟩ := digit_of_mem_toDigits (by decide) member
  · exact (digitChar_ne_colon d digit).1 same.symm
  · exact (digitChar_ne_colon d digit).2 same.symm

theorem ipv6Piece?_toDigits {piece : Nat} (small : piece < 65536) :
    ipv6Piece? (Nat.toDigits 16 piece) = some piece := by
  have short : (Nat.toDigits 16 piece).length ≤ 4 :=
    (Nat.length_toDigits_le_iff (by decide) (by decide)).mpr (by simpa using small)
  obtain ⟨ds, written, digits, value⟩ := exists_toDigits (show 1 < 16 by decide) piece
  have read : (Nat.toDigits 16 piece).mapM Percent.hexValue? = some ds := by
    rw [written]
    exact mapM_map_eq_some fun d member => hexValue?_digitChar d (digits d member)
  unfold ipv6Piece?
  rw [if_neg, read, Option.map_some, value]
  rw [not_or]
  exact ⟨Nat.toDigits_ne_nil, by omega⟩

theorem ipv6Pieces?_hexPieces {pieces : List Nat} (small : ∀ piece ∈ pieces, piece < 65536) :
    ipv6Pieces? (hexPieces pieces) = some pieces := by
  induction pieces with
  | nil => rfl
  | cons piece rest ih =>
    have ⟨first, others⟩ := List.forall_mem_cons.mp small
    cases rest with
    | nil =>
      have dotless := (not_mem_toDigits piece).2
      simp [hexPieces, ipv6Pieces?, dotless, ipv6Piece?_toDigits first]
    | cons next rest =>
      have later := ih others
      simp only [hexPieces, List.map_cons] at later ⊢
      simp only [ipv6Pieces?, ipv6Piece?_toDigits first, later, bind, Option.bind, pure]

theorem splitAll_piecesText {pieces : List Nat} (some_ : pieces ≠ []) :
    splitAll ':' (piecesText pieces).toList = hexPieces pieces := by
  unfold piecesText hexPieces
  rw [show ":" = String.singleton ':' from rfl, splitAll_join (by simpa using some_)]
  · simp
  · intro s member
    obtain ⟨piece, _, rfl⟩ := List.mem_map.mp member
    rw [String.toList_ofList]
    exact (not_mem_toDigits piece).1

theorem mem_piecesText {c : Char} {pieces : List Nat} (member : c ∈ (piecesText pieces).toList) :
    c = ':' ∨ ∃ d < 16, c = d.digitChar := by
  obtain rfl | ⟨s, written, within⟩ := mem_join ':' member
  · exact .inl rfl
  · obtain ⟨piece, _, rfl⟩ := List.mem_map.mp written
    rw [String.toList_ofList] at within
    exact .inr (digit_of_mem_toDigits (by decide) within)

theorem piecesText_eq_nil {pieces : List Nat} : (piecesText pieces).toList = [] ↔ pieces = [] := by
  constructor
  · intro empty
    by_contra some_
    have pieces_eq := splitAll_piecesText some_
    rw [empty] at pieces_eq
    cases pieces with
    | nil => exact some_ rfl
    | cons piece rest =>
      exact Nat.toDigits_ne_nil (List.cons.inj pieces_eq).1.symm
  · rintro rfl
    rfl

theorem ipv6Side?_piecesText {pieces : List Nat} (small : ∀ piece ∈ pieces, piece < 65536)
    (isLast : Bool) : ipv6Side? isLast (piecesText pieces).toList = some pieces := by
  unfold ipv6Side?
  by_cases none_ : pieces = []
  · rw [if_pos (piecesText_eq_nil.mpr none_), none_]
  · have dotless : (piecesText pieces).toList.contains '.' = false := by
      simp only [List.contains_eq_mem, decide_eq_false_iff_not]
      intro dot
      obtain same | ⟨d, small, same⟩ := mem_piecesText dot
      · cases same
      · exact (digitChar_ne_colon d small).2 same.symm
    rw [if_neg (mt piecesText_eq_nil.mp none_), dotless, Bool.and_false, if_neg Bool.false_ne_true,
      splitAll_piecesText none_, ipv6Pieces?_hexPieces small]

/-! The first `::` in an address -/

theorem cutDoubleColon?_append {front cs : List Char} (plain : ':' ∉ front) :
    cutDoubleColon? (front ++ cs) = (cutDoubleColon? cs).map fun p => (front ++ p.1, p.2) := by
  induction front with
  | nil => simp
  | cons c front ih =>
    rw [List.mem_cons, not_or] at plain
    rw [List.cons_append, cutDoubleColon?.eq_def]
    split
    · rename_i same
      exact absurd (List.cons.inj same).1.symm plain.1
    · rename_i same
      cases same
      rw [ih plain.2, Option.map_map]
      rfl
    · contradiction

/-- Pieces in hexadecimal hold no `::`, nor do they end in a colon. -/
theorem cutDoubleColon?_piecesText (pieces : List Nat) (cs : List Char) :
    cutDoubleColon? ((piecesText pieces).toList ++ cs) =
      (cutDoubleColon? cs).map fun p => ((piecesText pieces).toList ++ p.1, p.2) := by
  induction pieces with
  | nil => simp [piecesText, join]
  | cons piece rest ih =>
    have plain := (not_mem_toDigits piece).1
    cases rest with
    | nil =>
      have text : (piecesText [piece]).toList = Nat.toDigits 16 piece := by simp [piecesText, join]
      rw [text, cutDoubleColon?_append plain]
    | cons next rest =>
      have text : (piecesText (piece :: next :: rest)).toList =
          Nat.toDigits 16 piece ++ ':' :: (piecesText (next :: rest)).toList := by
        have joined := toList_join_cons ':' (String.ofList (Nat.toDigits 16 piece))
          (String.ofList (Nat.toDigits 16 next)) (rest.map fun p => String.ofList (Nat.toDigits 16 p))
        rw [String.toList_ofList] at joined
        exact joined
      have single : cutDoubleColon? (':' :: ((piecesText (next :: rest)).toList ++ cs)) =
          (cutDoubleColon? ((piecesText (next :: rest)).toList ++ cs)).map
            fun p => (':' :: p.1, p.2) := by
        cases written : (piecesText (next :: rest)).toList with
        | nil => exact absurd (piecesText_eq_nil.mp written) (List.cons_ne_nil _ _)
        | cons c later =>
          rw [List.cons_append, cutDoubleColon?.eq_def]
          split
          · rename_i same
            cases same
            have split := splitAll_piecesText (List.cons_ne_nil next rest)
            rw [written] at split
            have first := (List.cons.inj split).1
            exact absurd first.symm Nat.toDigits_ne_nil
          · rename_i same
            cases same
            rfl
          · contradiction
      rw [text, List.append_assoc, cutDoubleColon?_append plain, List.cons_append, single, ih,
        Option.map_map, Option.map_map]
      simp [Function.comp_def]

/-- A run of zeros in `pieces`, by its place and its length. -/
def ZerosAt (pieces : List Nat) (run : Nat × Nat) : Prop :=
  ∃ before after, pieces = before ++ List.replicate run.2 0 ++ after ∧ before.length = run.1

theorem zerosAt_zeroRun (before pieces : List Nat) :
    ZerosAt (before ++ pieces) (before.length, zeroRun pieces) := by
  have zeros : pieces.takeWhile (· == 0) = List.replicate (zeroRun pieces) 0 := by
    refine List.eq_replicate_iff.mpr ⟨rfl, fun p member => ?_⟩
    simpa using List.all_eq_true.mp List.all_takeWhile p member
  refine ⟨before, pieces.dropWhile (· == 0), ?_, rfl⟩
  show before ++ pieces = before ++ List.replicate (zeroRun pieces) 0 ++ pieces.dropWhile (· == 0)
  rw [← zeros, List.append_assoc, List.takeWhile_append_dropWhile]

/-- The longest run is a run. The induction is on the pieces to be looked at. -/
theorem zerosAt_longestZeros {before pieces : List Nat} {best : Nat × Nat}
    (found : ZerosAt (before ++ pieces) best) :
    ZerosAt (before ++ pieces) (longestZeros before.length best pieces) := by
  induction pieces generalizing before best with
  | nil => exact found
  | cons p rest ih =>
    have moved : before ++ p :: rest = (before ++ [p]) ++ rest := by simp
    have place : before.length + 1 = (before ++ [p]).length := by simp
    unfold longestZeros
    dsimp only
    split
    · have run := zerosAt_zeroRun before (p :: rest)
      rw [moved] at run ⊢
      rw [place]
      exact ih run
    · rw [moved] at found ⊢
      rw [place]
      exact ih found

theorem readIpv6?_ipv6Text {pieces : List Nat} (eight : pieces.length = 8)
    (small : ∀ piece ∈ pieces, piece < 65536) :
    readIpv6? (ipv6Text pieces).toList = some pieces := by
  have zeros : ZerosAt ([] ++ pieces) (longestZeros ([] : List Nat).length (0, 0) pieces) :=
    zerosAt_longestZeros ⟨[], pieces, rfl, rfl⟩
  rw [List.nil_append, List.length_nil] at zeros
  unfold ipv6Text
  generalize longestZeros 0 (0, 0) pieces = longest at zeros ⊢
  obtain ⟨start, run⟩ := longest
  obtain ⟨before, after, rfl, rfl⟩ := zeros
  dsimp only at eight small ⊢
  by_cases none_ : run = 0
  · rw [if_pos none_]
    have whole := cutDoubleColon?_piecesText (before ++ List.replicate run 0 ++ after) []
    rw [List.append_nil] at whole
    unfold readIpv6?
    rw [whole]
    simp only [cutDoubleColon?, Option.map_none, ipv6Side?_piecesText small, bind, Option.bind,
      if_pos eight, pure]
  · have front : (before ++ List.replicate run 0 ++ after).take before.length = before := by
      rw [List.append_assoc, List.take_left]
    have back : (before ++ List.replicate run 0 ++ after).drop (before.length + run) = after := by
      have length : (before ++ List.replicate run 0).length = before.length + run := by simp
      rw [← length, List.drop_left]
    have cut := cutDoubleColon?_piecesText before (':' :: ':' :: (piecesText after).toList)
    have smallFront : ∀ piece ∈ before, piece < 65536 := fun piece member =>
      small piece (List.mem_append_left _ (List.mem_append_left _ member))
    have smallBack : ∀ piece ∈ after, piece < 65536 := fun piece member =>
      small piece (List.mem_append_right _ member)
    have text : (piecesText before ++ "::" ++ piecesText after).toList =
        (piecesText before).toList ++ ':' :: ':' :: (piecesText after).toList := by simp
    simp only [List.length_append, List.length_replicate] at eight
    rw [if_neg none_, front, back, text]
    unfold readIpv6?
    rw [cut]
    simp only [cutDoubleColon?, Option.map_some, List.append_nil, ipv6Side?_piecesText smallFront,
      ipv6Side?_piecesText smallBack, bind, Option.bind, pure]
    rw [if_pos (by omega), show 8 - before.length - after.length = run by omega]

/-! What an address that was read looks like -/

theorem lt_of_hexValue? {c : Char} {d : Nat} (read : Percent.hexValue? c = some d) : d < 16 := by
  unfold Percent.hexValue? at read
  split at read
  · rename_i digit
    cases read
    have : c.toNat ≤ '9'.toNat := digit.2
    simp at this ⊢
    omega
  · split at read
    · rename_i letter
      cases read
      have : c.toNat ≤ 'f'.toNat := letter.2
      simp at this ⊢
      omega
    · split at read
      · rename_i letter
        cases read
        have : c.toNat ≤ 'F'.toNat := letter.2
        simp at this ⊢
        omega
      · cases read

theorem lt_of_ipv6Piece? {cs : List Char} {piece : Nat} (read : ipv6Piece? cs = some piece) :
    piece < 65536 := by
  unfold ipv6Piece? at read
  split at read
  · cases read
  · rename_i fits
    rw [not_or] at fits
    obtain ⟨ds, digits, rfl⟩ := Option.map_eq_some_iff.mp read
    have small := forall_of_mapM (P := (· < 16)) (fun _ _ => lt_of_hexValue?) digits
    have length := (forall₂_of_mapM digits).length_eq
    calc ds.foldl (fun n d => n * 16 + d) 0
        < (0 + 1) * 16 ^ ds.length := foldl_base_lt small 0
      _ ≤ 1 * 16 ^ 4 := by
          rw [Nat.zero_add]
          exact Nat.mul_le_mul_left _ (Nat.pow_le_pow_right (by decide) (by omega))

theorem lt_of_embeddedIpv4? {cs : List Char} {pieces : List Nat}
    (read : embeddedIpv4? cs = some pieces) : ∀ piece ∈ pieces, piece < 65536 := by
  have byte : ∀ cs n, decimalByte? cs = some n → n < 256 := by
    intro cs n found
    unfold decimalByte? at found
    split at found
    · cases found
    · dsimp only at found
      split at found
      · cases found
        assumption
      · cases found
  unfold embeddedIpv4? at read
  split at read
  · rename_i bytes
    cases read
    have small := forall_of_mapM byte bytes
    simp only [List.mem_cons, List.not_mem_nil, or_false, forall_eq_or_imp, forall_eq] at small ⊢
    omega
  · cases read

theorem lt_of_ipv6Pieces? {parts : List (List Char)} {pieces : List Nat}
    (read : ipv6Pieces? parts = some pieces) : ∀ piece ∈ pieces, piece < 65536 := by
  induction parts generalizing pieces with
  | nil =>
    cases read
    simp
  | cons part rest ih =>
    cases rest with
    | nil =>
      unfold ipv6Pieces? at read
      split at read
      · exact lt_of_embeddedIpv4? read
      · obtain ⟨piece, found, rfl⟩ := Option.map_eq_some_iff.mp read
        simpa using lt_of_ipv6Piece? found
    | cons next rest =>
      simp only [ipv6Pieces?] at read
      obtain ⟨piece, found, read⟩ := Option.bind_eq_some_iff.mp read
      obtain ⟨others, later, same⟩ := Option.bind_eq_some_iff.mp read
      cases same
      exact List.forall_mem_cons.mpr ⟨lt_of_ipv6Piece? found, ih later⟩

theorem lt_of_ipv6Side? {isLast : Bool} {cs : List Char} {pieces : List Nat}
    (read : ipv6Side? isLast cs = some pieces) : ∀ piece ∈ pieces, piece < 65536 := by
  unfold ipv6Side? at read
  split at read
  · cases read
    simp
  · split at read
    · cases read
    · exact lt_of_ipv6Pieces? read

theorem pieces_of_readIpv6? {cs : List Char} {pieces : List Nat} (read : readIpv6? cs = some pieces) :
    pieces.length = 8 ∧ ∀ piece ∈ pieces, piece < 65536 := by
  unfold readIpv6? at read
  split at read
  · obtain ⟨pieces', side, read⟩ := Option.bind_eq_some_iff.mp read
    split at read
    · rename_i eight
      cases read
      exact ⟨eight, lt_of_ipv6Side? side⟩
    · cases read
  · obtain ⟨front, before, read⟩ := Option.bind_eq_some_iff.mp read
    obtain ⟨back, after, read⟩ := Option.bind_eq_some_iff.mp read
    split at read
    · cases read
      refine ⟨by simp; omega, ?_⟩
      intro piece member
      simp only [List.mem_append, List.mem_replicate] at member
      obtain (among | ⟨_, rfl⟩) | among := member
      · exact lt_of_ipv6Side? before piece among
      · decide
      · exact lt_of_ipv6Side? after piece among
    · cases read

end LiveSession.Url
