import LiveSession.Cookie.Jar
import LiveSession.Proofs.Entries
import LiveSession.Proofs.Text.Pieces
import Mathlib.Data.List.Induction
import Mathlib.Data.List.TakeWhile

/-!
# How long a cookie lives

A response header describes one cookie in its first piece, and the other pieces are attributes. Two
of them tell whether the cookie is kept: the last `Max-Age` if it is a number that counts, else the
last `Expires` if it is a date. `store_lifetime` says so of every header and of any jar, and where a
number of any size would have decided the same.
-/

namespace LiveSession

namespace SetCookie

open Text

/-! ### What a header says -/

/-- The name and the value that a header describes, trimmed: those of its first piece. There are
none without an equals sign in that piece, or with a blank name. -/
def described? (header : String) : Option (String × String) :=
  match cut? '=' (header.toList.takeWhile (· != ';')) with
  | none => none
  | some (name, value) =>
    if name.all isBlank then none
    else some (String.ofList (strip name), String.ofList (stripWhile (· == '"') (strip value)))

/-- The name of an attribute, in lower case, and its value; a piece without `=` is none. -/
def attribute? (piece : List Char) : Option (String × String) :=
  (cut? '=' piece).map fun p => (String.ofList ((strip p.1).map Char.toLower), String.ofList (strip p.2))

def attributes (header : String) : List (String × String) :=
  (splitAll ';' header.toList).tail.filterMap attribute?

def lastValue? (name : String) (attributes : List (String × String)) : Option String :=
  ((attributes.filter fun a => a.1 = name).getLast?).map Prod.snd

/-- The attributes of a header that tell how long its cookie lives. -/
def timing (header : String) : List (String × String) :=
  (attributes header).filter fun a => a.1 = "max-age" ∨ a.1 = "expires"

def isPast (header : String) (now : Int) : Bool :=
  ((lastValue? "expires" (attributes header)).bind fun text => CookieDate.read? text.toList).any
    (· ≤ now)

/-- A text spells a whole number: decimal digits, with a sign or without. -/
inductive Spells : List Char → Int → Prop
  | plain {ds : List Char} (some : ds ≠ []) (digits : ∀ d ∈ ds, d.isDigit = true) :
      Spells ds (Nat.ofDigitChars 10 ds 0)
  | plus {ds : List Char} (some : ds ≠ []) (digits : ∀ d ∈ ds, d.isDigit = true) :
      Spells ('+' :: ds) (Nat.ofDigitChars 10 ds 0)
  | minus {ds : List Char} (some : ds ≠ []) (digits : ∀ d ∈ ds, d.isDigit = true) :
      Spells ('-' :: ds) (-Nat.ofDigitChars 10 ds 0)

/-- The number is one that counts: it lies between `-2 ^ 63` and `2 ^ 63`. -/
def Counts (n : Int) : Prop := -0x8000000000000000 ≤ n ∧ n < 0x8000000000000000

instance (n : Int) : Decidable (Counts n) := inferInstanceAs (Decidable (_ ∧ _))

/-- The last `Max-Age` of a header is the number `n`. -/
def Ages (header : String) (n : Int) : Prop :=
  ∃ text, lastValue? "max-age" (attributes header) = some text ∧ Spells text.toList n

/-! ### Numbers -/

variable {cs ds : List Char} {n : Int} {header name value : String} {now : Int}

theorem digits?_eq_some {m : Nat} :
    wholeNumber?.digits? ds = some m ↔
      (ds ≠ [] ∧ ∀ d ∈ ds, d.isDigit = true) ∧ m = Nat.ofDigitChars 10 ds 0 := by
  have value : ds.foldl (fun n d => n * 10 + (d.toNat - '0'.toNat)) 0 = Nat.ofDigitChars 10 ds 0 := by
    rw [Nat.ofDigitChars_eq_foldl]
    simp only [Nat.mul_comm 10]
  have refused : (ds = [] ∨ ¬ ds.all Char.isDigit = true) ↔
      ¬ (ds ≠ [] ∧ ∀ d ∈ ds, d.isDigit = true) := by
    rw [List.all_eq_true, not_and_or, not_not]
  unfold wholeNumber?.digits?
  rw [value]
  by_cases spelled : ds ≠ [] ∧ ∀ d ∈ ds, d.isDigit = true
  · rw [if_neg fun none => refused.mp none spelled]
    exact ⟨fun same => ⟨spelled, (Option.some.inj same).symm⟩, fun both => congrArg some both.2.symm⟩
  · rw [if_pos (refused.mpr spelled)]
    exact ⟨nofun, fun both => absurd both.1 spelled⟩

theorem wholeNumber?_eq_some : wholeNumber? cs = some n ↔ Spells cs n := by
  constructor
  · intro read
    unfold wholeNumber? at read
    split at read <;>
      simp only [bind, pure, Option.map_eq_some_iff, Option.bind_eq_some_iff, Option.some.injEq] at read <;>
      obtain ⟨_, ⟨m, read, rfl⟩, rfl⟩ := read <;>
      obtain ⟨⟨some, digits⟩, rfl⟩ := digits?_eq_some.mp read
    · exact .minus some digits
    · exact .plus some digits
    · exact .plain some digits
  · intro spells
    cases spells with
    | minus some digits => simp [wholeNumber?, digits?_eq_some.mpr ⟨⟨some, digits⟩, rfl⟩]
    | plus some digits => simp [wholeNumber?, digits?_eq_some.mpr ⟨⟨some, digits⟩, rfl⟩]
    | plain some digits =>
      -- The first of the digits is no sign.
      have unsigned {c : Char} (sign : c.isDigit = false) (rest : List Char) : cs ≠ c :: rest := by
        rintro rfl
        exact absurd (digits c List.mem_cons_self) (by simp [sign])
      unfold wholeNumber?
      split
      · exact absurd rfl (unsigned (by decide) _)
      · exact absurd rfl (unsigned (by decide) _)
      · simp [digits?_eq_some.mpr ⟨⟨some, digits⟩, rfl⟩]

theorem maxAge?_eq_some : maxAge? cs = some n ↔ Spells cs n ∧ Counts n := by
  unfold maxAge?
  rw [Option.filter_eq_some_iff, wholeNumber?_eq_some, decide_eq_true_eq]
  rfl

/-! ### Reading a header -/

theorem ages_iff : (lastValue? "max-age" (attributes header)).bind (wholeNumber? ·.toList) = some n ↔
    Ages header n := by
  simp only [Option.bind_eq_some_iff, wholeNumber?_eq_some, Ages]

instance (header : String) (n : Int) : Decidable (Ages header n) := decidable_of_iff _ ages_iff

theorem Ages.unique {m : Int} (one : Ages header m) (another : Ages header n) : m = n :=
  Option.some.inj ((ages_iff.mpr one).symm.trans (ages_iff.mpr another))

theorem lastValue?_concat (name : String) (as : List (String × String)) (a : String × String) :
    lastValue? name (as ++ [a]) = if a.1 = name then some a.2 else lastValue? name as := by
  unfold lastValue?
  rw [List.filter_append]
  by_cases named : a.1 = name <;> simp [named]

/-- The last attributes of the two names are what a cookie remembers. -/
theorem foldl_withAttribute (pieces : List (List Char)) (c : SetCookie) :
    pieces.foldl withAttribute c =
      { c with
        maxAge := (lastValue? "max-age" (pieces.filterMap attribute?)).elim c.maxAge fun text =>
          maxAge? text.toList
        expires := (lastValue? "expires" (pieces.filterMap attribute?)).elim c.expires fun text =>
          CookieDate.read? text.toList } := by
  induction pieces using List.reverseRecOn with
  | nil => rfl
  | append_singleton pieces piece ih =>
    rw [List.foldl_append, List.foldl_cons, List.foldl_nil, ih, List.filterMap_append]
    unfold withAttribute
    cases cut : cut? '=' piece with
    | none =>
      have skipped : attribute? piece = none := by rw [attribute?, cut, Option.map_none]
      rw [List.filterMap_cons_none skipped, List.filterMap_nil, List.append_nil]
    | some p =>
      have read : attribute? piece =
          some (String.ofList ((strip p.1).map Char.toLower), String.ofList (strip p.2)) := by
        rw [attribute?, cut, Option.map_some]
      have named (name : String) : (String.ofList ((strip p.1).map Char.toLower) = name) =
          ((strip p.1).map Char.toLower = name.toList) :=
        propext ⟨fun same => by rw [← same, String.toList_ofList], fun same => by
          rw [same, String.ofList_toList]⟩
      rw [List.filterMap_cons_some read, List.filterMap_nil, lastValue?_concat, lastValue?_concat]
      simp only [named]
      by_cases age : (strip p.1).map Char.toLower = "max-age".toList
      · have other : (strip p.1).map Char.toLower ≠ "expires".toList := by
          rw [age]
          decide
        rw [if_pos age, if_pos age, if_neg other, Option.elim_some, String.toList_ofList]
      · rw [if_neg age, if_neg age]
        by_cases date : (strip p.1).map Char.toLower = "expires".toList
        · rw [if_pos date, if_pos date, Option.elim_some, String.toList_ofList]
        · rw [if_neg date, if_neg date]

theorem strip_eq_nil : strip cs = [] ↔ cs.all isBlank = true := by
  unfold strip stripWhile dropEndWhile
  rw [List.reverse_eq_nil_iff, List.dropWhile_eq_nil_iff, List.all_eq_true]
  constructor
  · intro rest
    -- What is left at the start would begin with a character that is not blank.
    refine List.dropWhile_eq_nil_iff.mp ?_
    have head := List.head?_dropWhile_not isBlank cs
    cases left : cs.dropWhile isBlank with
    | nil => rfl
    | cons c after =>
      rw [left] at head rest
      simp [rest c (by simp)] at head
  · intro blank c member
    exact blank c ((List.dropWhile_sublist _).subset (List.mem_reverse.mp member))

theorem splitAll_eq_cons (sep : Char) (cs : List Char) :
    splitAll sep cs = cs.takeWhile (· != sep) :: (splitAll sep cs).tail := by
  induction cs with
  | nil => rfl
  | cons c cs ih =>
    unfold splitAll
    by_cases same : c = sep
    · rw [if_pos same, List.takeWhile_cons_of_neg (by simp [same])]
      rfl
    · rw [if_neg same, List.takeWhile_cons_of_pos (by simp [same]), ih]
      rfl

/-- What is read from a header: the cookie that it describes, with its last attributes. -/
theorem read?_eq (header : String) :
    read? header = (described? header).map fun cookie =>
      { name := cookie.1
        value := cookie.2
        maxAge := (lastValue? "max-age" (attributes header)).bind fun text => maxAge? text.toList
        expires := (lastValue? "expires" (attributes header)).bind fun text =>
          CookieDate.read? text.toList } := by
  unfold read? described? attributes
  rw [splitAll_eq_cons]
  dsimp only [List.tail_cons]
  cases cut? '=' (header.toList.takeWhile (· != ';')) with
  | none => rfl
  | some p =>
    by_cases blank : p.1.all isBlank = true
    · simp only [strip_eq_nil.mpr blank, blank, if_true, Option.map_none]
    · simp only [if_neg (mt strip_eq_nil.mp blank), blank, Bool.false_eq_true, if_false,
        Option.map_some, foldl_withAttribute]
      cases lastValue? "max-age" ((splitAll ';' header.toList).tail.filterMap attribute?) <;>
        cases lastValue? "expires" ((splitAll ';' header.toList).tail.filterMap attribute?) <;> rfl

theorem lastValue?_timing {key : String} (timed : key = "max-age" ∨ key = "expires") :
    lastValue? key (timing header) = lastValue? key (attributes header) := by
  unfold lastValue? timing
  rw [List.filter_filter]
  congr 3
  funext a
  by_cases named : a.1 = key <;> simp [named, timed]

theorem Ages.maxAge (ages : Ages header n) (counts : Counts n) :
    ((lastValue? "max-age" (attributes header)).bind fun text => maxAge? text.toList) = some n := by
  obtain ⟨text, last, spells⟩ := ages
  rw [last, Option.bind_some, maxAge?_eq_some.mpr ⟨spells, counts⟩]

theorem maxAge_eq_none (uncounted : ∀ n, Ages header n → ¬ Counts n) :
    ((lastValue? "max-age" (attributes header)).bind fun text => maxAge? text.toList) = none := by
  rw [Option.bind_eq_none_iff]
  intro text last
  rw [Option.eq_none_iff_forall_ne_some]
  intro n read
  obtain ⟨spells, counts⟩ := maxAge?_eq_some.mp read
  exact uncounted n ⟨text, last, spells⟩ counts

end SetCookie

/-! ### What a response does to the jar -/

namespace CookieJar

open SetCookie

variable {jar : CookieJar} {header name value : String} {now : Int}

theorem store_eq (jar : CookieJar) (now : Int) (described : described? header = some (name, value)) :
    jar.store now header =
      match (lastValue? "max-age" (attributes header)).bind fun text => maxAge? text.toList with
      | some age => if age ≤ 0 then jar.remove name else jar.set name value
      | none => if isPast header now then jar.remove name else jar.set name value := by
  unfold store
  rw [read?_eq, described, Option.map_some]
  dsimp only
  unfold isOver isPast
  cases (lastValue? "max-age" (attributes header)).bind fun text => maxAge? text.toList with
  | some age => simp only [decide_eq_true_eq]
  | none =>
    cases (lastValue? "expires" (attributes header)).bind fun text =>
      CookieDate.read? text.toList <;> rfl

theorem remove_ne_set (jar : CookieJar) (name value : String) :
    jar.remove name ≠ jar.set name value := by
  intro same
  have there := Entries.find?_set_self name value jar.entries
  have gone := Entries.find?_erase_self name jar.entries
  rw [show jar.entries.set name value = jar.entries.erase name from
    (congrArg CookieJar.entries same).symm, gone] at there
  cases there

/-- The last `Max-Age` of a header decides if it is a number that counts: the cookie is removed if
the number is not positive, and set if it is. Else the last `Expires` decides, and a number that
does not count is followed just if that date says the same. No other attribute has any effect. -/
theorem store_lifetime (jar : CookieJar) (now : Int)
    (described : described? header = some (name, value)) :
    (∀ n, Ages header n → Counts n →
      jar.store now header = if n ≤ 0 then jar.remove name else jar.set name value) ∧
    ((∀ n, Ages header n → ¬ Counts n) →
      jar.store now header = if isPast header now then jar.remove name else jar.set name value) ∧
    (∀ n, Ages header n → ¬ Counts n →
      ((jar.store now header = if n ≤ 0 then jar.remove name else jar.set name value) ↔
        (isPast header now ↔ n ≤ 0))) ∧
    ∀ other, described? other = some (name, value) → timing other = timing header →
      jar.store now other = jar.store now header := by
  have dated (uncounted : ∀ n, Ages header n → ¬ Counts n) :
      jar.store now header = if isPast header now then jar.remove name else jar.set name value := by
    rw [store_eq jar now described, maxAge_eq_none uncounted]
  refine ⟨fun n ages counts => ?_, dated, fun n ages vast => ?_, fun other same alike => ?_⟩
  · rw [store_eq jar now described, ages.maxAge counts]
  · have uncounted : ∀ m, Ages header m → ¬ Counts m := fun m again => ages.unique again ▸ vast
    rw [dated uncounted]
    by_cases past : isPast header now = true <;> by_cases ended : n ≤ 0 <;>
      simp [past, ended, jar.remove_ne_set name value, (jar.remove_ne_set name value).symm]
  · rw [store_eq jar now described, store_eq jar now same, isPast, isPast,
      ← lastValue?_timing (.inl rfl), ← lastValue?_timing (.inl rfl),
      ← lastValue?_timing (.inr rfl), ← lastValue?_timing (.inr rfl), alike]

theorem store_lifetime_logout :
    described? " sid = abc ; MAX-AGE = -5 ; Expires=Fri, 01 Jan 2100 00:00:00 GMT" =
        some ("sid", "abc") ∧
      (CookieJar.mk [("sid", "old")]).store 0
          " sid = abc ; MAX-AGE = -5 ; Expires=Fri, 01 Jan 2100 00:00:00 GMT" =
        (CookieJar.mk [("sid", "old")]).remove "sid" := by
  have described : described? " sid = abc ; MAX-AGE = -5 ; Expires=Fri, 01 Jan 2100 00:00:00 GMT" =
      some ("sid", "abc") := rfl
  exact ⟨described, (store_lifetime _ 0 described).1 (-5) (by decide) (by decide)⟩

/-- A number far below zero does not remove a cookie that is there. -/
theorem kept_of_vast :
    described? "sid=abc; Max-Age=-9223372036854775809" = some ("sid", "abc") ∧
      Ages "sid=abc; Max-Age=-9223372036854775809" (-9223372036854775809) ∧
      ((CookieJar.mk [("sid", "old")]).store 0 "sid=abc; Max-Age=-9223372036854775809").get? "sid" =
        some "abc" := by
  decide

end CookieJar

end LiveSession
