import ScanDiscovery.Url.Domain.Direction
import ScanDiscovery.Url.Domain.Label
/-!
# Url.Domain.Name — international names in ASCII

A name is brought to the spelling of names, composed, and divided at its dots; then each label is written in ASCII.
-/
namespace ScanDiscovery.Url.Domain

/-- The labels of a name, if it has only such as can be. -/
def labels? (name : List Char) : Option (List Label) := do
  let text ← mapped? name
  let labels ← ((Text.composed text).splitOn '.').mapM Label.ofText?
  if directionsFit (labels.map Label.text) then some labels else none

/-- The name in ASCII. -/
def ascii? (name : List Char) : Option (List Char) :=
  (labels? name).map fun labels => ['.'].intercalate (labels.map Label.ascii)

end ScanDiscovery.Url.Domain
