import ScanDiscovery.Device.Source
import ScanDiscovery.Xml.Error
/-!
# Response.Error — why a scanner's answer cannot be used
-/
namespace ScanDiscovery.Response

open Device (SourceKind)

inductive Axis where
  | width
  | height
  deriving DecidableEq, Repr

/-- The four bounds that a source must state. -/
inductive Bound where
  | minWidth
  | minHeight
  | maxWidth
  | maxHeight
  deriving DecidableEq, Repr

inductive DecodeError where
  | malformedXml (fault : Xml.Error)
  /-- the text of an element that should hold a number does not -/
  | malformedValue (element : String) (value : List Char)
  | noResolutions (kind : SourceKind)
  | noColorModes (kind : SourceKind)
  | missingBound (kind : SourceKind) (bound : Bound)
  | invertedRange (kind : SourceKind) (axis : Axis)
  | noSources
  /-- a duplex feeder without a front was to be resolved, which the reading of a configuration rules out -/
  | duplexWithoutFront
  deriving DecidableEq, Repr

def Axis.name : Axis → String
  | .width => "width"
  | .height => "height"

def Bound.name : Bound → String
  | .minWidth => "minimum width"
  | .minHeight => "minimum height"
  | .maxWidth => "maximum width"
  | .maxHeight => "maximum height"

def DecodeError.message : DecodeError → String
  | .malformedXml fault => s!"Malformed XML: {fault.message}"
  | .malformedValue element value => s!"Malformed value in `{element}`: `{String.ofList value}`"
  | .noResolutions kind => s!"{kind.name}: no resolutions defined"
  | .noColorModes kind => s!"{kind.name}: no color modes defined"
  | .missingBound kind bound => s!"{kind.name}: {bound.name} not defined"
  | .invertedRange kind axis => s!"{kind.name}: minimum {axis.name} > maximum {axis.name}"
  | .noSources => "Neither platen nor ADF sources detected"
  | .duplexWithoutFront => "Invariant violated: ADF duplex without ADF front"

end ScanDiscovery.Response
