import PriceRelay.Web.Domain.Label
/-!
Names of hosts in any script. A name is mapped to the form in which names are compared and then cut
into labels, each of which has to be valid.
-/

namespace PriceRelay.Domain

/-- The text that names are compared by, or `none` if a character is not allowed. -/
def mapped? (name : List Char) : Option (List Char) := do
  let text := Text.composed (← name.mapM form?).flatten
  if text.any isDenied then none else return text

/-- May these labels stand together? Once a name holds writing from right to left, no label may mix
directions. -/
def areOfOneDirection (labels : List Label) : Bool :=
  !labels.any (·.any Label.isRightToLeft) || labels.all Label.hasOneDirection

/-- The labels of a name, or `none` if it is invalid. -/
def labels? (name : List Char) : Option (List Label) := do
  let labels ← ((← mapped? name).splitOnP (· = '.')).mapM Label.ofText?
  if labels.all Label.isValid && areOfOneDirection labels then return labels else none

end PriceRelay.Domain
