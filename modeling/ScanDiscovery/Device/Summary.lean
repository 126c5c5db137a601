import ScanDiscovery.Decimal.Written
import ScanDiscovery.Device.Capabilities
import ScanDiscovery.Text.Bracketed
/-!
# Device.Summary — what is known of a scanner, for a reader at a terminal
-/
namespace ScanDiscovery.Device

/-- The members of a set of modes or formats, or the empty mask. -/
def memberNames (names : List String) : String :=
  if names.isEmpty then "0x0" else " | ".intercalate names

def ColorModes.memberText (s : ColorModes) : String := memberNames (s.toList.map ColorMode.name)

def Formats.memberText (s : Formats) : String := memberNames (s.toList.map Format.name)

def Resolutions.text (s : Resolutions) : String :=
  "\x7b" ++ Text.separated (s.toList.map toString) ++ "\x7d"

/-- The sizes along an axis, and the largest of them in millimeters. -/
def Extent.text (e : Extent) (window : MmRange) : String :=
  s!"{e.min}..={e.max} px ({Decimal.fixed 1 window.max} mm)"

def Source.summary (kind : SourceKind) (s : Source) : List String :=
  [s!"  {kind.name}:",
    s!"    resolutions: {s.resolutions.text}",
    s!"    color modes: ColorModes({s.colorModes.memberText})",
    s!"    formats:     Formats({s.formats.memberText})",
    s!"    width:       {s.width.text s.xWindow}",
    s!"    height:      {s.height.text s.yWindow}"]

/-- One line for the scanner, then six for each source. -/
def Capabilities.summaryLines (c : Capabilities) : List String :=
  let protocol := c.protocol.getD "-"
  s!"{c.vendor.getD unknownName} {c.model.getD unknownName} ({protocol})" ::
    c.sources.flatMap fun (kind, s) => s.summary kind

def Capabilities.summary (c : Capabilities) : String :=
  String.join (c.summaryLines.map (· ++ "\n"))

end ScanDiscovery.Device
