import LiveSession.Proofs.Assets.Candidates
import LiveSession.Proofs.Text.Pieces

/-!
# Which references a body has

The attributes of a body are found from the left, without overlap, and never within a word. Their
values are references if they are local and have an allowed extension; each is listed once, where it
occurs first. `references_extracted` says so, and that a list of extensions does no more than choose
among the references: what a longer list finds holds those of a shorter one, in the same order.
-/

namespace LiveSession.Assets

open Text

variable {cs value rest : List Char} {inWord : Bool} {values : List (List Char)}

/-! ### Attributes -/

/-- The parts of an attribute: its name, the blanks around its equals sign, its quotes and what they
enclose. -/
structure Attribute where
  name : List Char
  before : List Char
  after : List Char
  quote : Char
  value : List Char

namespace Attribute

def text (a : Attribute) : List Char :=
  a.name ++ (a.before ++ '=' :: (a.after ++ a.quote :: (a.value ++ [a.quote])))

/-- The parts are those of an attribute that refers to another resource. -/
structure Refers (a : Attribute) : Prop where
  name : a.name.map letter = "href".toList ∨ a.name.map letter = "src".toList
  before : ∀ c ∈ a.before, isBlank c = true
  after : ∀ c ∈ a.after, isBlank c = true
  quote : a.quote = '"' ∨ a.quote = '\''
  value : a.quote ∉ a.value

end Attribute

/-- The values of the attributes in a text, looked for from the left. The next one is looked for
behind the quotes of the last; `inWord` tells whether a word goes on at the start. -/
inductive Finds : Bool → List Char → List (List Char) → Prop
  | finished {inWord : Bool} : Finds inWord [] []
  | here {a : Attribute} {rest : List Char} {values : List (List Char)} (refers : a.Refers)
    (next : Finds false rest values) : Finds false (a.text ++ rest) (a.value :: values)
  | skip {inWord : Bool} {c : Char} {cs : List Char} {values : List (List Char)}
    (nothing : inWord = false →
      ∀ (a : Attribute) (rest : List Char), a.Refers → c :: cs ≠ a.text ++ rest)
    (next : Finds (isWord c) cs values) : Finds inWord (c :: cs) values

theorem afterName?_eq_some {name : List Char} :
    afterName? name cs = some rest ↔ ∃ part, cs = part ++ rest ∧ part.map letter = name := by
  constructor
  · intro found
    fun_induction afterName? name cs with
    | case1 cs =>
      cases found
      exact ⟨[], rfl, rfl⟩
    | case2 => cases found
    | case3 ns c cs ih =>
      obtain ⟨part, rfl, spelled⟩ := ih found
      exact ⟨c :: part, rfl, by rw [List.map_cons, spelled]⟩
    | case4 => cases found
  · rintro ⟨part, rfl, rfl⟩
    induction part with
    | nil => rfl
    | cons c part ih =>
      rw [List.map_cons, List.cons_append, afterName?, if_pos rfl]
      exact ih

theorem afterAttribute?_eq_some :
    afterAttribute? cs = some rest ↔ ∃ part, cs = part ++ rest ∧
      (part.map letter = "href".toList ∨ part.map letter = "src".toList) := by
  unfold afterAttribute?
  constructor
  · intro found
    split at found
    · rename_i href
      cases found
      obtain ⟨part, same, spelled⟩ := afterName?_eq_some.mp href
      exact ⟨part, same, .inl spelled⟩
    · obtain ⟨part, same, spelled⟩ := afterName?_eq_some.mp found
      exact ⟨part, same, .inr spelled⟩
  · rintro ⟨part, same, spelled | spelled⟩
    · rw [afterName?_eq_some.mpr ⟨part, same, spelled⟩]
    · have other : afterName? "href".toList cs = none := by
        obtain ⟨c, part, rfl⟩ : ∃ c part', part = c :: part' := by
          cases part with
          | nil => cases spelled
          | cons c part => exact ⟨c, part, rfl⟩
        have first : letter c = 's' := (List.cons.inj spelled).1
        subst same
        show (if letter c = 'h' then _ else none) = none
        rw [first, if_neg (by decide)]
      rw [other]
      exact afterName?_eq_some.mpr ⟨part, same, spelled⟩

theorem quotedValue?_eq_some :
    quotedValue? cs = some (value, rest) ↔ ∃ quote : Char, (quote = '"' ∨ quote = '\'') ∧
      quote ∉ value ∧ cs = quote :: (value ++ quote :: rest) := by
  constructor
  · intro found
    unfold quotedValue? at found
    split at found
    · rename_i c cs
      split at found
      · rename_i quote
        exact ⟨c, quote, not_mem_of_cut? found, congrArg _ (eq_of_cut? found)⟩
      · cases found
    · cases found
  · rintro ⟨quote, is, absent, rfl⟩
    rw [quotedValue?, if_pos is]
    exact cut?_append absent

theorem dropWhile_isBlank_eq_cons {c : Char} (solid : isBlank c = false) :
    cs.dropWhile isBlank = c :: rest ↔
      ∃ blanks, (∀ b ∈ blanks, isBlank b = true) ∧ cs = blanks ++ c :: rest := by
  constructor
  · intro dropped
    have whole := List.takeWhile_append_dropWhile (p := isBlank) (l := cs)
    refine ⟨cs.takeWhile isBlank, fun b member => ?_, ?_⟩
    · exact List.all_eq_true.mp List.all_takeWhile b member
    · rw [← dropped, whole]
  · rintro ⟨blanks, blank, rfl⟩
    rw [List.dropWhile_append_of_pos blank, List.dropWhile_cons_of_neg (by simp [solid])]

theorem assignedValue?_eq_some :
    assignedValue? cs = some (value, rest) ↔ ∃ (before after : List Char) (quote : Char),
      (∀ c ∈ before, isBlank c = true) ∧ (∀ c ∈ after, isBlank c = true) ∧
        (quote = '"' ∨ quote = '\'') ∧ quote ∉ value ∧
          cs = before ++ '=' :: (after ++ quote :: (value ++ quote :: rest)) := by
  have solid {quote : Char} (is : quote = '"' ∨ quote = '\'') : isBlank quote = false := by
    rcases is with rfl | rfl <;> decide
  constructor
  · intro found
    unfold assignedValue? at found
    split at found
    · rename_i tail sign
      obtain ⟨quote, is, absent, opened⟩ := quotedValue?_eq_some.mp found
      obtain ⟨before, blankBefore, rfl⟩ := (dropWhile_isBlank_eq_cons (by decide)).mp sign
      obtain ⟨after, blankAfter, rfl⟩ := (dropWhile_isBlank_eq_cons (solid is)).mp opened
      exact ⟨before, after, quote, blankBefore, blankAfter, is, absent, rfl⟩
    · cases found
  · rintro ⟨before, after, quote, blankBefore, blankAfter, is, absent, rfl⟩
    let opened := quote :: (value ++ quote :: rest)
    have sign : (before ++ '=' :: (after ++ opened)).dropWhile isBlank = '=' :: (after ++ opened) :=
      (dropWhile_isBlank_eq_cons (by decide)).mpr ⟨before, blankBefore, rfl⟩
    have opens : (after ++ opened).dropWhile isBlank = opened :=
      (dropWhile_isBlank_eq_cons (solid is)).mpr ⟨after, blankAfter, rfl⟩
    unfold assignedValue?
    rw [sign]
    show quotedValue? ((after ++ opened).dropWhile isBlank) = some (value, rest)
    rw [opens]
    exact quotedValue?_eq_some.mpr ⟨quote, is, absent, rfl⟩

theorem attributeValue?_eq_some :
    attributeValue? cs = some (value, rest) ↔
      ∃ a : Attribute, a.Refers ∧ a.value = value ∧ cs = a.text ++ rest := by
  constructor
  · intro found
    obtain ⟨after, named, assigned⟩ := Option.bind_eq_some_iff.mp found
    obtain ⟨name, rfl, spelled⟩ := afterAttribute?_eq_some.mp named
    obtain ⟨before, after, quote, blankBefore, blankAfter, is, absent, rfl⟩ :=
      assignedValue?_eq_some.mp assigned
    exact ⟨⟨name, before, after, quote, value⟩, ⟨spelled, blankBefore, blankAfter, is, absent⟩, rfl,
      by simp [Attribute.text]⟩
  · rintro ⟨a, refers, rfl, rfl⟩
    let assignment := a.before ++ '=' :: (a.after ++ a.quote :: (a.value ++ a.quote :: rest))
    have named : afterAttribute? (a.text ++ rest) = some assignment :=
      afterAttribute?_eq_some.mpr ⟨a.name, by simp [Attribute.text, assignment], refers.name⟩
    exact Option.bind_eq_some_iff.mpr ⟨assignment, named, assignedValue?_eq_some.mpr
      ⟨a.before, a.after, a.quote, refers.before, refers.after, refers.quote, refers.value, rfl⟩⟩

theorem attributeValue?_eq_none :
    attributeValue? cs = none ↔
      ∀ (a : Attribute) (rest : List Char), a.Refers → cs ≠ a.text ++ rest := by
  constructor
  · intro none_ a rest refers same
    exact nomatch none_.symm.trans (attributeValue?_eq_some.mpr ⟨a, refers, rfl, same⟩)
  · intro nothing
    cases found : attributeValue? cs with
    | none => rfl
    | some pair =>
      obtain ⟨a, refers, _, same⟩ := attributeValue?_eq_some.mp (Prod.eta pair ▸ found)
      exact absurd same (nothing a _ refers)

theorem valuesFrom_of_some (found : attributeValue? cs = some (value, rest)) :
    valuesFrom false cs = value :: valuesFrom false rest := by
  cases cs with
  | nil => cases found
  | cons c cs =>
    rw [valuesFrom]
    split
    · rename_i same
      rw [if_neg Bool.false_ne_true, found] at same
      cases same
      rfl
    · rename_i none_
      rw [if_neg Bool.false_ne_true, found] at none_
      cases none_

theorem valuesFrom_of_none {c : Char} (nothing : inWord = false → attributeValue? (c :: cs) = none) :
    valuesFrom inWord (c :: cs) = valuesFrom (isWord c) cs := by
  rw [valuesFrom]
  split
  · rename_i found
    cases inWord with
    | true => cases found
    | false => cases (nothing rfl).symm.trans found
  · rfl

/-- Looking from the left finds the values that `valuesFrom` gives, and no others. -/
theorem finds_iff : Finds inWord cs values ↔ values = valuesFrom inWord cs := by
  constructor
  · intro finds
    induction finds with
    | finished => rw [valuesFrom]
    | here refers _ ih =>
      rw [valuesFrom_of_some (attributeValue?_eq_some.mpr ⟨_, refers, rfl, rfl⟩), ← ih]
    | skip nothing _ ih =>
      rw [valuesFrom_of_none fun outside => attributeValue?_eq_none.mpr (nothing outside), ← ih]
  · rintro rfl
    fun_induction valuesFrom inWord cs with
    | case1 => exact .finished
    | case2 inWord c rest value after found ih =>
      cases inWord with
      | true => cases found
      | false =>
        obtain ⟨a, refers, rfl, same⟩ := attributeValue?_eq_some.mp found
        rw [same]
        exact .here refers ih
    | case3 inWord c rest none_ ih =>
      refine .skip (fun outside => ?_) ih
      subst outside
      exact attributeValue?_eq_none.mp none_

/-! ### Extensions -/

/-- The parts of a reference to a file: the folder with its slash, the name of the file up to its
last dot, the extension, and a query or fragment. -/
structure FileName where
  folder : List Char
  stem : List Char
  extension : List Char
  tail : List Char

namespace FileName

def file (f : FileName) : List Char :=
  f.stem ++ '.' :: f.extension

def text (f : FileName) : List Char :=
  f.folder ++ f.file ++ f.tail

/-- Each part ends where the text says that it does. -/
structure Proper (f : FileName) : Prop where
  folder : f.folder = [] ∨ ∃ above, f.folder = above ++ ['/']
  file : '/' ∉ f.file
  extension : '.' ∉ f.extension
  path : ∀ c ∈ f.folder ++ f.file, c ≠ '?' ∧ c ≠ '#'
  tail : f.tail = [] ∨ ∃ c rest, (c = '?' ∨ c = '#') ∧ f.tail = c :: rest

end FileName

variable {sep : Char} {before last path tail : List Char}

theorem afterLast_of_not_mem (absent : sep ∉ cs) : afterLast sep cs = cs := by
  have behind : ∀ c ∈ cs.reverse, (c != sep) = true := fun c member =>
    bne_iff_ne.mpr fun same => absent (same ▸ List.mem_reverse.mp member)
  rw [afterLast, ← List.append_nil cs.reverse, List.takeWhile_append_of_pos behind,
    List.takeWhile_nil, List.append_nil, List.reverse_reverse]

theorem afterLast_append (absent : sep ∉ last) : afterLast sep (before ++ sep :: last) = last := by
  have behind : ∀ c ∈ last.reverse, (c != sep) = true := fun c member =>
    bne_iff_ne.mpr fun same => absent (same ▸ List.mem_reverse.mp member)
  rw [afterLast, List.reverse_append, List.reverse_cons, List.append_assoc,
    List.takeWhile_append_of_pos behind, List.singleton_append,
    List.takeWhile_cons_of_neg (by simp), List.append_nil, List.reverse_reverse]

theorem exists_afterLast (member : sep ∈ cs) :
    ∃ before last, sep ∉ last ∧ cs = before ++ sep :: last ∧ afterLast sep cs = last := by
  obtain ⟨behind, ahead, turned, absent⟩ := List.eq_append_cons_of_mem (List.mem_reverse.mpr member)
  have here : cs = ahead.reverse ++ sep :: behind.reverse := by
    rw [← List.reverse_reverse cs, turned, List.reverse_append, List.reverse_cons, List.append_assoc,
      List.singleton_append]
  have absent' : sep ∉ behind.reverse := fun inside => absent (List.mem_reverse.mp inside)
  exact ⟨ahead.reverse, behind.reverse, absent', here, here ▸ afterLast_append absent'⟩

theorem pathPart_append (plain : ∀ c ∈ path, c ≠ '?' ∧ c ≠ '#')
    (ends : tail = [] ∨ ∃ c rest, (c = '?' ∨ c = '#') ∧ tail = c :: rest) :
    pathPart (path ++ tail) = path := by
  let stays : Char → Bool := fun c => c != '?' && c != '#'
  have within : ∀ c ∈ path, stays c = true := by
    simpa [stays] using plain
  show (path ++ tail).takeWhile stays = path
  rw [List.takeWhile_append_of_pos within]
  rcases ends with rfl | ⟨c, rest, mark, rfl⟩
  · rw [List.takeWhile_nil, List.append_nil]
  · have stops : ¬ stays c = true := by
      rcases mark with rfl | rfl <;> decide
    rw [List.takeWhile_cons_of_neg stops, List.append_nil]

theorem exists_pathPart (cs : List Char) :
    ∃ path tail, cs = path ++ tail ∧ pathPart cs = path ∧ (∀ c ∈ path, c ≠ '?' ∧ c ≠ '#') ∧
      (tail = [] ∨ ∃ c rest, (c = '?' ∨ c = '#') ∧ tail = c :: rest) := by
  let stays : Char → Bool := fun c => c != '?' && c != '#'
  refine ⟨cs.takeWhile stays, cs.dropWhile stays, List.takeWhile_append_dropWhile.symm, rfl, ?_, ?_⟩
  · intro c member
    have passed := List.all_eq_true.mp List.all_takeWhile c member
    simpa [stays] using passed
  · cases dropped : cs.dropWhile stays with
    | nil => exact .inl rfl
    | cons c rest =>
      have stops := List.head_dropWhile_not stays (dropped ▸ List.cons_ne_nil c rest)
      simp only [dropped, List.head_cons] at stops
      refine .inr ⟨c, rest, ?_, rfl⟩
      by_contra neither
      rw [not_or] at neither
      simp [stays, neither] at stops

theorem extension?_eq_some {reference extension : String} :
    extension? reference = some extension ↔
      ∃ f : FileName, f.Proper ∧ reference.toList = f.text ∧ extension.toList = f.extension := by
  unfold extension?
  constructor
  · intro found
    obtain ⟨path, tail, cut, is, plain, ends⟩ := exists_pathPart reference.toList
    rw [is] at found
    have file : ∃ folder, path = folder ++ afterLast '/' path ∧ '/' ∉ afterLast '/' path ∧
        (folder = [] ∨ ∃ above, folder = above ++ ['/']) := by
      by_cases member : '/' ∈ path
      · obtain ⟨above, last, absent, here, is⟩ := exists_afterLast member
        refine ⟨above ++ ['/'], ?_, is ▸ absent, .inr ⟨above, rfl⟩⟩
        rw [is, List.append_assoc]
        exact here
      · rw [afterLast_of_not_mem member]
        exact ⟨[], rfl, member, .inl rfl⟩
    obtain ⟨folder, here, noSlash, above⟩ := file
    dsimp only at found
    split at found
    · rename_i dot
      obtain ⟨stem, extension, noDot, named, is⟩ := exists_afterLast (List.contains_iff_mem.mp dot)
      cases found
      rw [named] at here noSlash
      refine ⟨⟨folder, stem, extension, tail⟩,
        ⟨above, noSlash, noDot, here ▸ plain, ends⟩, ?_, ?_⟩
      · rw [cut, here]
        rfl
      · rw [String.toList_ofList, is]
    · cases found
  · rintro ⟨f, proper, spelled, same⟩
    have file : afterLast '/' (f.folder ++ f.file) = f.file := by
      rcases proper.folder with top | ⟨above, below⟩
      · rw [top, List.nil_append, afterLast_of_not_mem proper.file]
      · rw [below, List.append_assoc]
        exact afterLast_append proper.file
    have dot : f.file.contains '.' = true :=
      List.contains_iff_mem.mpr (List.mem_append_right _ List.mem_cons_self)
    rw [spelled, FileName.text, pathPart_append proper.path proper.tail, file, if_pos dot,
      FileName.file, afterLast_append proper.extension, ← same, String.ofList_toList]

/-- The reference names a file that has one of the extensions, in any ASCII case. -/
def Allowed (extensions : List String) (reference : String) : Prop :=
  ∃ f : FileName, f.Proper ∧ reference.toList = f.text ∧
    ∃ e ∈ extensions, lower e = lower (String.ofList f.extension)

theorem sameIgnoringCase_iff {s t : String} : sameIgnoringCase s t = true ↔ lower s = lower t := by
  rw [sameIgnoringCase, beq_iff_eq, lower, lower, String.ofList_inj]

theorem hasExtension_iff {extensions : List String} {reference : String} :
    hasExtension extensions reference = true ↔ Allowed extensions reference := by
  unfold hasExtension
  constructor
  · intro has
    split at has
    · cases has
    · rename_i extension found
      obtain ⟨f, proper, spelled, same⟩ := extension?_eq_some.mp found
      obtain ⟨e, listed, alike⟩ := List.any_eq_true.mp has
      refine ⟨f, proper, spelled, e, listed, ?_⟩
      rw [← same, String.ofList_toList]
      exact sameIgnoringCase_iff.mp alike
  · rintro ⟨f, proper, spelled, e, listed, alike⟩
    rw [extension?_eq_some.mpr ⟨f, proper, spelled, String.toList_ofList⟩]
    exact List.any_eq_true.mpr ⟨e, listed, sameIgnoringCase_iff.mpr alike⟩

instance (extensions : List String) : DecidablePred (Allowed extensions) := fun _ =>
  decidable_of_iff _ hasExtension_iff

/-- Whatever has one of a few extensions has one of many, if the many hold the few in any case. -/
theorem Allowed.mono {few many : List String} {reference : String}
    (held : ∀ e ∈ few, ∃ e' ∈ many, lower e' = lower e) (allowed : Allowed few reference) :
    Allowed many reference := by
  obtain ⟨f, proper, spelled, e, listed, alike⟩ := allowed
  obtain ⟨e', listed', alike'⟩ := held e listed
  exact ⟨f, proper, spelled, e', listed', alike'.trans alike⟩

/-! ### References -/

/-- The reference names no host: it is not empty, starts with no two slashes and is no URL of its
own. -/
structure IsLocal (reference : String) : Prop where
  nonempty : reference ≠ ""
  hostless : ¬ "//".toList <+: reference.toList
  relative : ∀ url, Url.parse reference ≠ .ok url

theorem isLocal_iff {reference : String} : isLocal reference = true ↔ IsLocal reference := by
  have filled : (!reference.isEmpty) = true ↔ reference ≠ "" := by
    simp
  have hostless :
      (reference.toList.take 2 != ['/', '/']) = true ↔ ¬ "//".toList <+: reference.toList := by
    rw [bne_iff_ne, List.prefix_iff_eq_take]
    exact not_congr eq_comm
  rw [isLocal, Bool.and_eq_true, Bool.and_eq_true, filled, hostless]
  cases parsed : Url.parse reference with
  | ok url =>
    refine ⟨fun ⟨_, relative⟩ => ?_, fun is => absurd parsed (is.relative url)⟩
    cases relative
  | error fault =>
    refine ⟨fun ⟨⟨filled, hostless⟩, _⟩ => ⟨filled, hostless, fun url same => ?_⟩,
      fun is => ⟨⟨is.nonempty, is.hostless⟩, rfl⟩⟩
    cases parsed.symm.trans same

/-- The values of attributes as references, without white space at both ends. -/
def written (found : List (List Char)) : List String :=
  found.map fun value => String.ofList (strip value)

theorem mem_references {extensions : List String} {body reference : String} :
    reference ∈ references extensions body ↔
      reference ∈ attributeValues body ∧ IsLocal reference ∧ Allowed extensions reference := by
  rw [references, mem_firstsBy_id, List.mem_filter, Bool.and_eq_true, isLocal_iff, hasExtension_iff]

/-- The references with few extensions are those of the references with many that have one of the
few. -/
theorem references_eq_filter {few many : List String}
    (held : ∀ e ∈ few, ∃ e' ∈ many, lower e' = lower e) (body : String) :
    references few body = (references many body).filter (Allowed few) := by
  rw [references, references, filter_firstsBy_id, List.filter_filter]
  congr 1
  refine List.filter_congr fun reference _ => Bool.eq_iff_iff.mpr ?_
  simp only [Bool.and_eq_true, decide_eq_true_iff, hasExtension_iff]
  constructor
  · rintro ⟨here, allowed⟩
    exact ⟨allowed, here, allowed.mono held⟩
  · rintro ⟨allowed, here, -⟩
    exact ⟨here, allowed⟩

theorem pairwise_references (extensions : List String) (body : String) :
    (references extensions body).Pairwise fun r r' =>
      (attributeValues body).idxOf r < (attributeValues body).idxOf r' := by
  rw [references, ← filter_firstsBy_id]
  exact (pairwise_firstsBy_id (attributeValues body)).filter _

/-- The attributes that are found in a body are the same whoever looks for them. The references are
the local ones among their values that have an allowed extension, each once, in the order in which
they occur first; those with few extensions are a selection of those with many, in the same order. -/
theorem references_extracted (body : String) :
    ∃ found, Finds false body.toList found ∧
      (∀ other, Finds false body.toList other → other = found) ∧
      (∀ extensions,
        (references extensions body).Nodup ∧
        (∀ r, r ∈ references extensions body ↔
          r ∈ written found ∧ IsLocal r ∧ Allowed extensions r) ∧
        (references extensions body).Pairwise fun r r' =>
          (written found).idxOf r < (written found).idxOf r') ∧
      ∀ few many, (∀ e ∈ few, ∃ e' ∈ many, lower e' = lower e) →
        references few body = (references many body).filter (Allowed few) ∧
        (references few body).Sublist (references many body) := by
  refine ⟨valuesFrom false body.toList, finds_iff.mpr rfl, fun other => finds_iff.mp,
    fun extensions => ⟨?_, fun r => mem_references, pairwise_references extensions body⟩,
    fun few many held => ?_⟩
  · have nodup := nodup_firstsBy id ((attributeValues body).filter fun r =>
      isLocal r && hasExtension extensions r)
    rwa [List.map_id] at nodup
  · have same := references_eq_filter held body
    exact ⟨same, same ▸ List.filter_sublist⟩

end LiveSession.Assets
