import LiveSession.Text.Blank
import LiveSession.Text.Word
import LiveSession.Url.Parse

/-!
# References to assets

`attributeValues` lists the quoted values of the attributes `href` and `src` in a page,
`references` those of them that are local and have an allowed extension, each once.
-/

namespace LiveSession.Assets

/-! ### Attribute values -/

/-- The small letter that a character is a form of; the long s is a form of `s`. -/
def letter (c : Char) : Char :=
  if c = 'ſ' then 's' else c.toLower

/-- What follows `name` at the start of a text, in any case. -/
def afterName? : List Char → List Char → Option (List Char)
  | [], cs => some cs
  | _ :: _, [] => none
  | n :: ns, c :: cs => if letter c = n then afterName? ns cs else none

/-- What follows the name of an attribute that refers to another resource. -/
def afterAttribute? (cs : List Char) : Option (List Char) :=
  match afterName? "href".toList cs with
  | some rest => some rest
  | none => afterName? "src".toList cs

def quotedValue? : List Char → Option (List Char × List Char)
  | c :: cs => if c = '"' ∨ c = '\'' then Text.cut? c cs else none
  | [] => none

/-- The value of an attribute whose name has been read, and what follows it; white space may stand
around the equals sign. -/
def assignedValue? (cs : List Char) : Option (List Char × List Char) :=
  match cs.dropWhile Text.isBlank with
  | '=' :: rest => quotedValue? (rest.dropWhile Text.isBlank)
  | _ => none

def attributeValue? (cs : List Char) : Option (List Char × List Char) :=
  (afterAttribute? cs).bind assignedValue?

theorem length_of_cut? {sep : Char} {cs a b : List Char} (h : Text.cut? sep cs = some (a, b)) :
    b.length < cs.length := by
  induction cs generalizing a b with
  | nil => simp [Text.cut?] at h
  | cons c cs ih =>
    unfold Text.cut? at h
    split at h
    · simp_all
    · obtain ⟨p, hp, he⟩ := Option.map_eq_some_iff.1 h
      have := ih hp
      simp_all
      omega

theorem length_of_afterName? {name cs rest : List Char} (h : afterName? name cs = some rest) :
    rest.length ≤ cs.length := by
  fun_induction afterName? name cs with
  | case1 => simp_all
  | case2 => simp at h
  | case3 _ _ _ ih => exact Nat.le_succ_of_le (ih h)
  | case4 => simp at h

theorem length_dropWhile_le (p : Char → Bool) (cs : List Char) :
    (cs.dropWhile p).length ≤ cs.length :=
  (List.dropWhile_sublist p).length_le

theorem length_of_quotedValue? {cs value rest : List Char}
    (h : quotedValue? cs = some (value, rest)) : rest.length < cs.length := by
  unfold quotedValue? at h
  split at h
  · split at h
    · exact Nat.lt_succ_of_lt (length_of_cut? h)
    · simp at h
  · simp at h

theorem length_of_assignedValue? {cs value rest : List Char}
    (h : assignedValue? cs = some (value, rest)) : rest.length < cs.length := by
  unfold assignedValue? at h
  split at h
  · rename_i tail heq
    have h1 := length_of_quotedValue? h
    have h2 := length_dropWhile_le Text.isBlank tail
    have h3 := length_dropWhile_le Text.isBlank cs
    rw [heq, List.length_cons] at h3
    omega
  · simp at h

/-- Reading an attribute value uses up text. -/
theorem length_of_attributeValue? {cs value rest : List Char}
    (h : attributeValue? cs = some (value, rest)) : rest.length < cs.length := by
  obtain ⟨after, ha, hv⟩ := Option.bind_eq_some_iff.1 h
  have h1 := length_of_assignedValue? hv
  have h2 : after.length ≤ cs.length := by
    unfold afterAttribute? at ha
    split at ha
    · next hn => exact length_of_afterName? (Option.some.inj ha ▸ hn)
    · exact length_of_afterName? ha
  omega

/-- The attribute values in a text, in order and without overlap. An attribute does not start within
a word; `inWord` tells whether the character before the text belongs to one. -/
def valuesFrom (inWord : Bool) (cs : List Char) : List (List Char) :=
  match cs with
  | [] => []
  | c :: rest =>
    match _h : if inWord then none else attributeValue? (c :: rest) with
    | some (value, after) => value :: valuesFrom false after
    | none => valuesFrom (Text.isWord c) rest
termination_by cs.length
decreasing_by
  · cases inWord
    · exact length_of_attributeValue? _h
    · simp at _h
  · simp

def attributeValues (body : String) : List String :=
  (valuesFrom false body.toList).map fun value => String.ofList (Text.strip value)

/-! ### References -/

/-- A reference that names no host: it is not empty, does not start with `//` and is no URL of its
own. -/
def isLocal (reference : String) : Bool :=
  !reference.isEmpty && reference.toList.take 2 != ['/', '/'] &&
    match Url.parse reference with
    | .ok _ => false
    | .error _ => true

def pathPart (cs : List Char) : List Char :=
  cs.takeWhile fun c => c != '?' && c != '#'

/-- What follows the last `sep`; all of the text if there is none. -/
def afterLast (sep : Char) (cs : List Char) : List Char :=
  (cs.reverse.takeWhile fun c => c != sep).reverse

/-- What follows the last dot in the name of the file. -/
def extension? (reference : String) : Option String :=
  let file := afterLast '/' (pathPart reference.toList)
  if file.contains '.' then some (String.ofList (afterLast '.' file)) else none

/-- Whether a reference has one of the extensions, in any ASCII case. -/
def hasExtension (extensions : List String) (reference : String) : Bool :=
  match extension? reference with
  | none => false
  | some ext => extensions.any fun allowed => Text.sameIgnoringCase allowed ext

/-- The extensions that are loaded where an action names none. -/
def standardExtensions : List String :=
  ["js", "css", "png", "jpg", "jpeg", "gif", "svg", "ico", "webp"]

def firstsBy [BEq κ] (key : α → κ) : List α → List α
  | [] => []
  | x :: xs => x :: (firstsBy key xs).filter fun y => key y != key x

/-- The local references with an allowed extension, in the order of their first occurrences. -/
def references (extensions : List String) (body : String) : List String :=
  firstsBy id ((attributeValues body).filter fun r => isLocal r && hasExtension extensions r)

/-! ### What a crawl fetches -/

/-- A resource to fetch, with the key that it is cached under: its path and query. -/
abbrev Candidate := String × Url

def resolve? (page : Url) (reference : String) : Option Candidate :=
  match page.join reference with
  | .ok url => some (url.resource, url)
  | .error _ => none

/-- The resources that a page refers to and that `isCached` does not have, each once. -/
def candidates (isCached : String → Bool) (page : Url) (extensions : List String) (body : String) :
    List Candidate :=
  firstsBy Prod.fst
    (((references extensions body).filterMap (resolve? page)).filter fun c => !isCached c.1)

end LiveSession.Assets
