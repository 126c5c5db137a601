import ScanDiscovery.Response.SourceReader
/-!
# Response.ConfigurationReader — the configuration and the description of a scanner

A configuration lists the file formats of the device, its platen and the two sides of its feeder, and says whether
the feeder scans both. The front of the feeder stands for single-sided scans; the back counts for double-sided
ones only.
-/
namespace ScanDiscovery.Response

open Device

/-- An element of a configuration that is read. -/
inductive ConfigurationPart where
  | formats
  | source (kind : SourceKind)
  | duplex
  deriving DecidableEq, Repr

namespace ConfigurationPart

/-- The parts by the paths of their elements in a configuration. -/
def paths : List (String × ConfigurationPart) :=
  [("/scan:DeviceSettings/scan:FormatsSupported", .formats),
    ("/scan:Platen", .source .flatbed),
    ("/scan:ADF/scan:ADFFront", .source .adfSimplex),
    ("/scan:ADF/scan:ADFBack", .source .adfDuplex),
    ("/scan:ADF/scan:ADFSupportsDuplex", .duplex)]

def ofPath? (path : Xml.Path) : Option ConfigurationPart :=
  paths.lookup (String.ofList path)

end ConfigurationPart

namespace Overview

def nothing : Overview := ⟨false, false, ∅⟩

/-- A source of this kind was read. -/
def addSource (o : Overview) (kind : SourceKind) : Overview :=
  if kind = .adfSimplex then { o with feeder := true } else o

end Overview

/-- The path of a format in the list of formats. -/
def formatPath : String := "/scan:FormatValue"

/-- What an element of the list of formats adds to them. -/
def visitFormat (formats : Formats) (path : Xml.Path) : Reader Formats :=
  if String.ofList path = formatPath then
    .text fun tag =>
      match Format.ofTag? (String.ofList tag) with
      | some f => .done (formats ∪ {f})
      | none => .note (.unknownFormat tag) (.done formats)
  else .done formats

/-- Reads the list of formats whose element the scope is. -/
def readFormats : Reader Formats :=
  .each visitFormat ∅ .done

/-- What an element of a configuration adds to its overview. -/
def visitConfiguration (o : Overview) (path : Xml.Path) : Reader Overview :=
  match ConfigurationPart.ofPath? path with
  | none => .done o
  | some .formats => .within readFormats fun formats => .done { o with formats := o.formats ∪ formats }
  | some (.source kind) => .within (readSource kind) fun source =>
    .note (.source kind source) (.done (o.addSource kind))
  | some .duplex => .text fun t => .done { o with duplex := isTrue t }

/-- Reads the configuration whose element the scope is. -/
def readConfiguration : Reader Unit :=
  .each visitConfiguration .nothing fun o => .found (.configured o)

/-- The path of the scanner's name in its description. -/
def namePath : String := "/scan:ScannerName"

/-- Reads the description whose element the scope is. -/
def readDescription : Reader Unit :=
  .each (fun _ path =>
    if String.ofList path = namePath then .text fun name => .found (.named name) else .done ()) () .done

end ScanDiscovery.Response
