import ScanDiscovery.Response.Field
/-!
# Response.SourceReader — one source of a scanner

The elements of a platen and of a feeder are spelt differently but say the same. A source is read to its end
before it is judged: it must list a resolution for both axes, a color mode that a scan can ask for, and four
bounds that are the right way round. A bound is what its first element says.
-/
namespace ScanDiscovery.Response

open Device

/-- A number that a source states. -/
inductive Quantity where
  | resolutionWidth
  | resolutionHeight
  | minWidth
  | minHeight
  | maxWidth
  | maxHeight
  deriving DecidableEq, Repr

/-- An element of a source that carries a value. -/
inductive SourceField where
  | quantity (q : Quantity)
  | colorEntry
  deriving DecidableEq, Repr

namespace SourceField

/-- The fields by the paths of their elements in a source. -/
def paths : List (String × SourceField) :=
  [("/scan:PlatenResolutions/scan:Widths/scan:Width", .quantity .resolutionWidth),
    ("/scan:ADFResolutions/scan:Widths/scan:Width", .quantity .resolutionWidth),
    ("/scan:PlatenResolutions/scan:Heights/scan:Height", .quantity .resolutionHeight),
    ("/scan:ADFResolutions/scan:Heights/scan:Height", .quantity .resolutionHeight),
    ("/scan:PlatenMinimumSize/scan:Width", .quantity .minWidth),
    ("/scan:ADFMinimumSize/scan:Width", .quantity .minWidth),
    ("/scan:PlatenMinimumSize/scan:Height", .quantity .minHeight),
    ("/scan:ADFMinimumSize/scan:Height", .quantity .minHeight),
    ("/scan:PlatenMaximumSize/scan:Width", .quantity .maxWidth),
    ("/scan:ADFMaximumSize/scan:Width", .quantity .maxWidth),
    ("/scan:PlatenMaximumSize/scan:Height", .quantity .maxHeight),
    ("/scan:ADFMaximumSize/scan:Height", .quantity .maxHeight),
    ("/scan:PlatenColor/scan:ColorEntry", .colorEntry),
    ("/scan:ADFColor/scan:ColorEntry", .colorEntry)]

def ofPath? (path : Xml.Path) : Option SourceField :=
  paths.lookup (String.ofList path)

end SourceField

/-- What errors call the element of a number. -/
def Quantity.label : Quantity → String
  | .resolutionWidth => "Width"
  | .resolutionHeight => "Height"
  | .minWidth => "MinimumSize/Width"
  | .minHeight => "MinimumSize/Height"
  | .maxWidth => "MaximumSize/Width"
  | .maxHeight => "MaximumSize/Height"

/-- What the elements of a source have said so far. -/
structure Stated where
  widths : List UInt32
  heights : List UInt32
  colorModes : ColorModes
  minWidth : Option UInt32
  minHeight : Option UInt32
  maxWidth : Option UInt32
  maxHeight : Option UInt32
  deriving DecidableEq

namespace Stated

def nothing : Stated := ⟨[], [], ∅, none, none, none, none⟩

def add (s : Stated) (q : Quantity) (n : UInt32) : Stated :=
  match q with
  | .resolutionWidth => { s with widths := s.widths ++ [n] }
  | .resolutionHeight => { s with heights := s.heights ++ [n] }
  | .minWidth => { s with minWidth := orElseFirst s.minWidth n }
  | .minHeight => { s with minHeight := orElseFirst s.minHeight n }
  | .maxWidth => { s with maxWidth := orElseFirst s.maxWidth n }
  | .maxHeight => { s with maxHeight := orElseFirst s.maxHeight n }

def addMode (s : Stated) (m : ColorMode) : Stated :=
  { s with colorModes := s.colorModes ∪ {m} }

/-- A bound that must be there. -/
def require (kind : SourceKind) (bound : Bound) : Option UInt32 → Except DecodeError UInt32
  | some n => .ok n
  | none => .error (.missingBound kind bound)

/-- The units of a scanner's sizes: thousandths of an inch. -/
def units : UInt32 := 1000

/-- The source that was stated. Its formats are the device's, so they are not known yet. -/
def toSource (s : Stated) (kind : SourceKind) : Except DecodeError Source := do
  let resolutions := Resolutions.ofList s.widths ∩ Resolutions.ofList s.heights
  if resolutions.isEmpty then throw (.noResolutions kind)
  let colorModes := s.colorModes ∩ ColorModes.supported
  if colorModes = ∅ then throw (.noColorModes kind)
  let minWidth ← require kind .minWidth s.minWidth
  let minHeight ← require kind .minHeight s.minHeight
  let maxWidth ← require kind .maxWidth s.maxWidth
  let maxHeight ← require kind .maxHeight s.maxHeight
  let width : Extent := ⟨minWidth, maxWidth⟩
  let height : Extent := ⟨minHeight, maxHeight⟩
  if width.isInverted then throw (.invertedRange kind .width)
  if height.isInverted then throw (.invertedRange kind .height)
  pure (Source.updateWindows
    { resolutions, discrete := true, colorModes, formats := ∅, width, height, xWindow := .zero, yWindow := .zero }
    units)

end Stated

/-- What an element of a source adds to what was stated. -/
def visitSource (kind : SourceKind) (s : Stated) (path : Xml.Path) : Reader Stated :=
  match SourceField.ofPath? path with
  | none => .done s
  | some (.quantity q) => (readNumber q.label).bind fun n => .done (s.add q n)
  | some .colorEntry => .text fun tag =>
    match ColorMode.ofTag? (String.ofList tag) with
    | some m => .done (s.addMode m)
    | none => .note (.unknownColor kind tag) (.done s)

/-- The verdict on what was stated, as the end of a walk. -/
def judgeSource (kind : SourceKind) (s : Stated) : Reader Source :=
  match s.toSource kind with
  | .ok source => .done source
  | .error e => .fail e

/-- Reads the source whose element the scope is. -/
def readSource (kind : SourceKind) : Reader Source :=
  .each (visitSource kind) .nothing (judgeSource kind)

end ScanDiscovery.Response
