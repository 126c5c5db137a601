import ScanDiscovery.Response.Update
import ScanDiscovery.Text.Bracketed
/-!
# Response.Decode — a scanner's answer to the question what it can do

The answer's description and configuration are found by their absolute paths. An answer that cannot be used leaves
nothing of what was known; one that can leaves at least one source, a vendor and a model.
-/
namespace ScanDiscovery.Response

open Device

/-- Visits a document and reads the elements at some paths, each in its way. -/
def readAt {φ ε : Type} (readers : List (String × Xml.Walk φ ε Unit)) : Xml.Walk φ ε Unit :=
  .each (fun _ path =>
    match readers.lookup (String.ofList path) with
    | some reader => .within reader .done
    | none => .done ()) () .done

/-- Where an answer has its parts. -/
def elementData : String :=
  "s:Envelope/s:Body/scan:GetScannerElementsResponse/scan:ScannerElements/scan:ElementData"

def descriptionPath : String := elementData ++ "/scan:ScannerDescription"

def configurationPath : String := elementData ++ "/scan:ScannerConfiguration"

def readResponse : Reader Unit :=
  readAt [(descriptionPath, readDescription), (configurationPath, readConfiguration)]

/-- The name of the protocol that answers come in. -/
def protocolName : String := "WSD"

/-- What is known after an answer that can be used. -/
def complete (caps : Capabilities) : Capabilities :=
  { caps with
    vendor := some (caps.vendor.getD unknownName)
    model := some (caps.model.getD unknownName)
    protocol := some protocolName
    units := Stated.units }

/-- What there is to say about an answer that cannot be used. -/
def failureEntry (e : DecodeError) : Log.Entry :=
  match e with
  | .duplexWithoutFront => .error "Decoding device capabilities hit a bug" [("error", e.message)]
  | e => .debug "Failed to decode device capabilities" [("error", e.message)]

def successEntry (caps : Capabilities) : Log.Entry :=
  .debug "Decoded device capabilities"
    ((caps.model.map (("model", ·))).toList ++ [("sources", Text.bracketed caps.names)])

/-- The outcome of an answer: whether it can be used, what is known then, and what there is to say. -/
structure Decoded where
  result : Except DecodeError Unit
  caps : Capabilities
  log : List Log.Entry

/-- Reads an answer, where `caps` was known before. -/
def decode (caps : Capabilities) (response : Bytes) : Decoded :=
  let read := (update readResponse response caps).andThen requireSources
  match read.refusal with
  | some e => ⟨.error e, ∅, read.log ++ [failureEntry e]⟩
  | none =>
    let caps := complete read.caps
    ⟨.ok (), caps, read.log ++ [successEntry caps]⟩

end ScanDiscovery.Response
