import ScanDiscovery.Device.Modes
import ScanDiscovery.Device.Resolutions
/-!
# Device.Source — what one source of paper can do

A source scans at some resolutions, in some color modes, into some formats, and between a smallest and a largest
size. Sizes are in pixels; the windows say the same of the largest size in millimeters, at the units (pixels per
inch) that the protocol counts in.

`merge` is what two sources can both do. It is nothing if that is useless: without a common resolution, without a
common color mode, or with sizes that do not overlap.
-/
namespace ScanDiscovery.Device

/-- Where paper is scanned, in the order in which sources are listed. -/
inductive SourceKind where
  | flatbed
  | adfSimplex
  | adfDuplex
  deriving DecidableEq, Repr

namespace SourceKind

def all : List SourceKind := [.flatbed, .adfSimplex, .adfDuplex]

/-- The name by which scanning software knows the source. -/
def name : SourceKind → String
  | .flatbed => "Flatbed"
  | .adfSimplex => "ADF"
  | .adfDuplex => "ADF Duplex"

end SourceKind

/-- A smallest and a largest size. -/
structure Extent where
  min : UInt32
  max : UInt32
  deriving DecidableEq, Repr

namespace Extent

/-- The sizes within both. -/
def inter (e f : Extent) : Extent :=
  ⟨if e.min < f.min then f.min else e.min, if f.max < e.max then f.max else e.max⟩

instance : Inter Extent := ⟨inter⟩

/-- No size is within bounds that are the wrong way round. -/
def isInverted (e : Extent) : Bool := e.max < e.min

end Extent

/-- A window of the scanner's bed, in millimeters. -/
structure MmRange where
  min : Float
  max : Float
  deriving DecidableEq

/-- The length of `px` pixels at a resolution in pixels per inch. -/
def pxToMm (px resolution : UInt32) : Float :=
  px.toFloat * 25.4 / resolution.toFloat

namespace MmRange

def zero : MmRange := ⟨0.0, 0.0⟩

/-- The window up to a largest size. -/
def upTo (px units : UInt32) : MmRange := ⟨0.0, pxToMm px units⟩

end MmRange

structure Source where
  resolutions : Resolutions
  /-- whether no resolution between those listed can be chosen -/
  discrete : Bool
  colorModes : ColorModes
  formats : Formats
  width : Extent
  height : Extent
  xWindow : MmRange
  yWindow : MmRange
  deriving DecidableEq

namespace Source

/-- The source with its windows derived from its largest size, which counts in `units`. -/
def updateWindows (s : Source) (units : UInt32) : Source :=
  { s with xWindow := .upTo s.width.max units, yWindow := .upTo s.height.max units }

def addFormats (s : Source) (formats : Formats) : Source :=
  { s with formats := s.formats ∪ formats }

/-- What both sources can do, useful or not. -/
def meet (s t : Source) (units : UInt32) : Source :=
  Source.updateWindows
    { resolutions := s.resolutions ∩ t.resolutions
      discrete := s.discrete && t.discrete
      colorModes := s.colorModes ∩ t.colorModes
      formats := s.formats ∩ t.formats
      width := s.width ∩ t.width
      height := s.height ∩ t.height
      xWindow := .zero
      yWindow := .zero } units

/-- Something can be scanned. -/
def isUsable (s : Source) : Bool :=
  !s.resolutions.isEmpty && s.colorModes ≠ ∅ && !s.width.isInverted && !s.height.isInverted

def merge (s t : Source) (units : UInt32) : Option Source :=
  let m := s.meet t units
  if m.isUsable then some m else none

end Source
end ScanDiscovery.Device
