import ScanDiscovery.Text.Utf8
/-!
# Xml.Vocabulary — the namespaces of a scanner's messages, and the names they go by in paths

Devices choose their own prefixes, so the elements of a known namespace are named by the prefix of this table. A
namespace is known by its URI less the scheme (`http` or `https`) and less one slash at the end.
-/
namespace ScanDiscovery.Xml.Vocabulary

def soap11 : String := "http://schemas.xmlsoap.org/soap/envelope/"

def soap12 : String := "http://www.w3.org/2003/05/soap-envelope"

def discovery : String := "http://schemas.xmlsoap.org/ws/2005/04/discovery"

def addressing : String := "http://schemas.xmlsoap.org/ws/2004/08/addressing"

def scan : String := "http://schemas.microsoft.com/windows/2006/08/wdp/scan"

/-- The prefixes of the known namespaces. -/
def known : List (String × String) :=
  [("s", soap11), ("s", soap12), ("d", discovery), ("a", addressing), ("scan", scan)]

def bytesOf (text : String) : Bytes := Utf8.encode text.toList

/-- A URI without its scheme and without one slash at its end; nothing if the scheme is another. -/
def normal? (uri : Bytes) : Option Bytes :=
  let rest := ((bytesOf "http://").isPrefixOf? uri).or ((bytesOf "https://").isPrefixOf? uri)
  rest.map fun rest => if rest.getLast? = some 0x2F then rest.dropLast else rest

/-- The prefix of the table for a URI. -/
def prefixOf? (uri : Bytes) : Option String :=
  match normal? uri with
  | none => none
  | some u => (known.find? fun entry => normal? (bytesOf entry.2) = some u).map (·.1)

example : prefixOf? (bytesOf "https://www.w3.org/2003/05/soap-envelope/") = some "s" := by decide

example : prefixOf? (bytesOf "urn:somewhere-else") = none := by decide

end ScanDiscovery.Xml.Vocabulary
