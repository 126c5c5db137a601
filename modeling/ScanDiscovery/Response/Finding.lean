import ScanDiscovery.Response.Error
import ScanDiscovery.Xml.Walk
/-!
# Response.Finding — what the reading of an answer comes upon

An answer is read without a look at what is known of the scanner; the findings are applied to that afterwards, in
the order in which they were made.
-/
namespace ScanDiscovery.Response

open Device

/-- What a configuration says of the device as a whole. -/
structure Overview where
  /-- it has a feeder with a front -/
  feeder : Bool
  /-- the feeder scans both sides -/
  duplex : Bool
  formats : Formats
  deriving DecidableEq, Repr

inductive Finding where
  /-- the scanner calls itself so -/
  | named (name : List Char)
  | unknownFormat (tag : List Char)
  | unknownColor (kind : SourceKind) (tag : List Char)
  | source (kind : SourceKind) (source : Source)
  /-- a configuration was read to its end -/
  | configured (overview : Overview)
  deriving DecidableEq

/-- A walk through an answer. -/
abbrev Reader := Xml.Walk Finding DecodeError

end ScanDiscovery.Response
