import ScanDiscovery.Request.Envelope
import ScanDiscovery.Response.Decode
import ScanDiscovery.Url.Basic
/-!
# Protocol — the ways to talk to a scanner

A protocol says how to ask for a scanner's capabilities and how to read the answer. The phases of a scan are its
own business: one that leaves a phase out asks nothing and understands nothing there.
-/
namespace ScanDiscovery

/-- What a protocol knows of a conversation: the scanner's address, and the last answer. -/
structure Context where
  url : Url
  response : Option Bytes
  deriving DecidableEq

/-- The last answer, empty if there was none. -/
def Context.answer (c : Context) : Bytes := c.response.getD []

/-- A question to be asked over HTTP. -/
structure Query where
  method : String
  url : Url
  contentType : String
  body : Bytes
  id : Request.MessageId
  deriving DecidableEq

/-- What follows the discovery of a scanner's capabilities. -/
inductive Phase where
  | scan
  | load
  | status
  | cancel
  deriving DecidableEq, Repr

/-- What a protocol makes of an answer in such a phase. -/
inductive PhaseResult where
  | unsupported
  deriving DecidableEq, Repr

inductive Protocol where
  | wsd
  deriving DecidableEq, Repr

namespace Protocol

def all : List Protocol := [.wsd]

def name : Protocol → String
  | .wsd => Response.protocolName

/-- The protocol as a value. -/
def shown : Protocol → String
  | .wsd => "Wsd"

/-- The protocol of a name, in letters of either case. -/
def ofName? (name : String) : Option Protocol :=
  let lower (s : String) : List Char := s.toList.map Char.toLower
  all.find? fun p => lower p.name = lower name

/-- The question what a scanner can do. -/
def discoveryQuery (p : Protocol) (c : Context) (id : Request.MessageId) : Query × List Log.Entry :=
  match p with
  | .wsd =>
    let message := Request.discovery id
    ({ method := "POST", url := c.url, contentType := Request.contentType, body := message.bytes, id },
      [message.entry,
        .debug "GetScannerElements" [("url", c.url.text), ("message_id", String.ofList id.text)]])

/-- Reads the last answer, where `caps` was known before. -/
def decode (p : Protocol) (c : Context) (caps : Device.Capabilities) : Response.Decoded :=
  match p with
  | .wsd => Response.decode caps c.answer

/-- The question of a phase, if the protocol has one. -/
def query? (p : Protocol) (_ : Phase) (_ : Context) : Option Query :=
  match p with
  | .wsd => none

def understand (p : Protocol) (_ : Phase) (_ : Context) : PhaseResult :=
  match p with
  | .wsd => .unsupported

end Protocol
end ScanDiscovery
