import LiveSession.Idna.Label

/-!
# Domain names

A domain name is a list of labels, written with dots between them. `toAscii?` gives the form in
which it is sent. A text in ASCII without a label in its sent form only changes its capitals.
-/

namespace LiveSession.Idna

open Text

/-- The labels of a domain name that a text writes. -/
def labels? (cs : List Char) : Option (List Label) :=
  match foldText? cs with
  | none => none
  | some folded =>
    match (splitAll '.' (compose folded)).mapM Label.read? with
    | none => none
    | some labels =>
      let directions := labels.map Label.directions
      if directions.any (·.any Direction.runsLeft) && !(directions.all keepsOrder) then none
      else some labels

/-- Whether a text is in ASCII and none of its labels is in the sent form of another text. -/
def isPlain (cs : List Char) : Bool :=
  Label.isAscii cs &&
    (splitAll '.' (cs.map Char.toLower)).all fun label => !(Label.mark.isPrefixOf label)

/-- The domain name that a text writes, in the form in which it is sent. -/
def toAscii? (cs : List Char) : Option (List Char) :=
  if isPlain cs then some (cs.map Char.toLower)
  else (labels? cs).map fun labels => (labels.map Label.ascii).intersperse ['.'] |>.flatten

end LiveSession.Idna
