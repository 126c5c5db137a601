import ScanDiscovery.Http.Reply
import ScanDiscovery.Http.Request
import ScanDiscovery.Program
import ScanDiscovery.Protocol
import ScanDiscovery.Url.Sent
/-!
# Session — one question and its answer

A session asks a scanner for its capabilities. Asking is a request, if the scanner's address can be sent; what comes
back is nothing, or a reply that is refused by its status, or whose body may be short of what was announced, or that
is read as an answer.
-/
namespace ScanDiscovery.Session

inductive Error where
  /-- the address cannot be sent -/
  | unsendable
  | noReply
  | incompleteBody
  /-- `url` is the address as it was sent -/
  | status (code : Nat) (reason : List Char) (url : Url)
  | decode (error : Response.DecodeError)
  deriving DecidableEq

/-- Whose fault a status is. -/
def blame (code : Nat) : String := if code < 500 then "client" else "server"

/-- Code and reason, as a text of one line. -/
def statusText (code : Nat) (reason : List Char) : String :=
  s!"{code} {String.ofList (reason.flatMap Text.quotedChar)}"

def Error.message? : Error → Option String
  | .unsendable => none
  | .noReply => none
  | .incompleteBody => none
  | .status code reason url =>
    some s!"HTTP status {blame code} error ({statusText code reason}) for url ({url.text})"
  | .decode error => some error.message

/-- The request for a query, if its address can be sent. -/
def request? (q : Query) : Option Http.Request :=
  if q.url.isSendable then
    some { method := q.method, target := q.url.target, host := q.url.hostText, contentType := q.contentType,
           userAgent := Program.name, body := q.body }
  else none

/-- A status that refuses the request. -/
def isRefusal (code : Nat) : Bool := 400 ≤ code && code < 600

/-- What a session comes to. -/
structure Outcome where
  result : Except Error Device.Capabilities
  log : List Log.Entry

/-- A session that has asked, or has found that it cannot. -/
structure Asked where
  context : Context
  request : Option Http.Request
  log : List Log.Entry

/-- Asks a scanner. -/
def ask (p : Protocol) (url : Url) (id : Request.MessageId) : Asked :=
  let context : Context := ⟨url, none⟩
  let (query, log) := p.discoveryQuery context id
  { context
    request := request? query
    log := log ++ [.info "querying device capabilities"
      [("protocol", p.name), ("url", query.url.text), ("message_id", String.ofList query.id.text)]] }

/-- Reads a complete answer. -/
def conclude (p : Protocol) (context : Context) (body : Bytes) : Outcome :=
  let context := { context with response := some body }
  let received := Log.Entry.debug "received device capabilities" [("length", toString body.length)]
  let decoded := p.decode context ∅
  match decoded.result with
  | .error e => ⟨.error (.decode e), received :: decoded.log⟩
  | .ok () =>
    let limits := if (p.query? .scan context).isNone then
        [Log.Entry.info "protocol only supports capability discovery, scanning needs another protocol"
          [("protocol", p.name)]]
      else []
    ⟨.ok decoded.caps, received :: decoded.log ++ limits⟩

/-- What a session that has asked makes of a reply. -/
def react (p : Protocol) (asked : Asked) (reply : Option Http.Reply) : Outcome :=
  match asked.request, reply with
  | none, _ => ⟨.error .unsendable, []⟩
  | some _, none => ⟨.error .noReply, []⟩
  | some _, some r =>
    if isRefusal r.code then ⟨.error (.status r.code r.reason asked.context.url.sent), []⟩
    else
      match r.body with
      | none => ⟨.error .incompleteBody, []⟩
      | some body => conclude p asked.context body

end ScanDiscovery.Session
