import ScanDiscovery.Log
import ScanDiscovery.Request.MessageId
import ScanDiscovery.Xml.Markup
import ScanDiscovery.Xml.Vocabulary
/-!
# Request.Envelope — messages that ask a scanner for its elements

A message says who it is, where it goes, where its answer goes and what it wants, and lists the elements that are
asked for.
-/
namespace ScanDiscovery.Request

open Xml (Markup)

/-- What a message says. -/
structure Message where
  id : MessageId
  destination : String
  replyTo : String
  action : String
  elements : List String
  deriving DecidableEq, Repr

/-- The namespaces that a message declares. -/
def namespaces : List (String × String) :=
  [("s", Xml.Vocabulary.soap12), ("d", Xml.Vocabulary.discovery), ("a", Xml.Vocabulary.addressing),
    ("scan", Xml.Vocabulary.scan)]

namespace Message

def header (m : Message) : Markup :=
  .element "s:Header" []
    [.element "a:MessageID" [] [.text m.id.text],
      .leaf "a:To" m.destination,
      .element "a:ReplyTo" [] [.leaf "a:Address" m.replyTo],
      .leaf "a:Action" m.action]

def body (m : Message) : Markup :=
  .element "s:Body" []
    [.element "scan:GetScannerElementsRequest" []
      [.element "scan:RequestedElements" [] (m.elements.map (Markup.leaf "scan:Name"))]]

def envelope (m : Message) : Markup :=
  .element "s:Envelope" (namespaces.map fun (name, uri) => ("xmlns:" ++ name, uri)) [m.header, m.body]

/-- The message as it is sent. -/
def document (m : Message) : List Char := m.envelope.document

def bytes (m : Message) : Bytes := Utf8.encode m.document

def entry (m : Message) : Log.Entry :=
  .debug "constructed xml for WSD message"
    [("to_addr", m.destination), ("action", m.action), ("message_id", String.ofList m.id.text),
      ("xml", String.ofList m.document)]

end Message

/-- What HTTP calls the content of a message. -/
def contentType : String := "application/soap+xml; charset=utf-8"

/-- Whoever receives the message, or asked for it. -/
def anonymous : String := Xml.Vocabulary.addressing ++ "/role/anonymous"

/-- The message that asks a scanner for its description and its configuration. -/
def discovery (id : MessageId) : Message :=
  { id
    destination := anonymous
    replyTo := anonymous
    action := Xml.Vocabulary.scan ++ "/GetScannerElements"
    elements := ["scan:ScannerDescription", "scan:ScannerConfiguration"] }

end ScanDiscovery.Request
