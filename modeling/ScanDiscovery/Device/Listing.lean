import ScanDiscovery.Device.Summary
import ScanDiscovery.Text.Outline
import ScanDiscovery.Text.Quoted
/-!
# Device.Listing — everything that is known of a scanner, field by field
-/
namespace ScanDiscovery.Device

open Text (Outline)

def quotedOutline (text : String) : Outline := .leaf (Text.quoted text)

def MmRange.outline (r : MmRange) : Outline :=
  .record "MmRange" [("min", .leaf (Decimal.full r.min)), ("max", .leaf (Decimal.full r.max))]

def Source.outline (s : Source) : Outline :=
  .record "SourceCapabilities"
    [("resolutions", .set (s.resolutions.toList.map fun r => .leaf (toString r))),
      ("discrete_resolutions", .leaf (toString s.discrete)),
      ("color_modes", .wrapped "ColorModes" (.leaf s.colorModes.memberText)),
      ("formats", .wrapped "Formats" (.leaf s.formats.memberText)),
      ("min_width_px", .leaf (toString s.width.min)),
      ("max_width_px", .leaf (toString s.width.max)),
      ("min_height_px", .leaf (toString s.height.min)),
      ("max_height_px", .leaf (toString s.height.max)),
      ("window_x_range_mm", s.xWindow.outline),
      ("window_y_range_mm", s.yWindow.outline)]

def Capabilities.outline (c : Capabilities) : Outline :=
  .record "DeviceCapabilities"
    [("vendor", .optional (c.vendor.map quotedOutline)),
      ("model", .optional (c.model.map quotedOutline)),
      ("protocol_name", .optional (c.protocol.map quotedOutline)),
      ("resolution_units", .leaf (toString c.units)),
      ("sources", .list (SourceKind.all.map fun kind => .optional ((c.source? kind).map Source.outline))),
      ("enumerable_source_names", .list (c.names.map quotedOutline))]

/-- The listing of what is known. -/
def Capabilities.listing (c : Capabilities) : String := c.outline.text

end ScanDiscovery.Device
