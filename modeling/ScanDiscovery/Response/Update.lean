import ScanDiscovery.Device.Capabilities
import ScanDiscovery.Log
import ScanDiscovery.Response.ConfigurationReader
/-!
# Response.Update — findings applied to what is known of a scanner

Findings are applied one after the other, until one is refused. The first name and the first source of each kind
stay. The end of a configuration settles the sources there are: the formats are those of the whole device, and
double-sided scanning is offered only if the device says so, and then only as far as the front goes.
-/
namespace ScanDiscovery.Response

open Device

/-- What is known after some findings, what there is to say about them, and why the last was refused, if it was. -/
structure Update where
  caps : Capabilities
  log : List Log.Entry
  refusal : Option DecodeError
  deriving DecidableEq

namespace Update

/-- An update that is not refused. -/
def accepted (caps : Capabilities) (log : List Log.Entry) : Update := ⟨caps, log, none⟩

def after (log : List Log.Entry) (u : Update) : Update := { u with log := log ++ u.log }

/-- Another update after this one, unless this one was refused. -/
def andThen (u : Update) (f : Capabilities → Update) : Update :=
  match u.refusal with
  | some _ => u
  | none => (f u.caps).after u.log

end Update

/-- A source for a slot: the first one stays. -/
def commitSource (kind : SourceKind) (source : Source) (caps : Capabilities) : Update :=
  if (caps.source? kind).isNone then
    .accepted (caps.insert kind source)
      [.debug "accepted source" [("source", kind.name), ("resolutions", toString source.resolutions.size)]]
  else .accepted caps [.debug "ignoring duplicate source" [("source", kind.name)]]

/-- What double-sided scanning can do: as much as the front and, where it is stated, the back. -/
def duplexSource (front : Source) : Option Source → Option Source
  | none => some front
  | some back => front.merge back Stated.units

/-- Settles double-sided scanning, which takes a feeder and the device's word for it. -/
def resolveDuplex (o : Overview) (caps : Capabilities) : Update :=
  if o.feeder && o.duplex then
    match caps.source? .adfSimplex with
    | none => ⟨caps, [], some .duplexWithoutFront⟩
    | some front =>
      let duplex := duplexSource front (caps.source? .adfDuplex)
      .accepted (caps.replace .adfDuplex duplex)
        (if duplex.isNone then [.debug "ADF front and back have nothing in common, duplex disabled" []] else [])
  else
    .accepted (caps.replace .adfDuplex none)
      (if (caps.source? .adfDuplex).isNone then []
        else [.debug "ignoring ADF back, device doesn't support duplex" []])

/-- Lists the sources there are, of which there must be one. -/
def requireSources (caps : Capabilities) : Update :=
  let caps := caps.rebuildNames
  ⟨caps, [], if caps.names.isEmpty then some .noSources else none⟩

/-- The end of a configuration. -/
def settle (o : Overview) (caps : Capabilities) : Update :=
  (resolveDuplex o (caps.mapSources fun s => (s.addFormats o.formats).updateWindows Stated.units)).andThen
    requireSources

/-- What a finding changes. -/
def Finding.apply (caps : Capabilities) : Finding → Update
  | .named name => .accepted { caps with model := orElseText caps.model name } []
  | .unknownFormat tag => .accepted caps [.trace "ignoring unknown format" [("tag", String.ofList tag)]]
  | .unknownColor kind tag =>
    .accepted caps [.trace "ignoring unknown color entry" [("source", kind.name), ("tag", String.ofList tag)]]
  | .source kind s => commitSource kind s caps
  | .configured o => settle o caps

def visiting (path : Xml.Path) : Log.Entry := .trace "visiting" [("path", String.ofList path)]

/-- What a trace of findings changes, up to the first that is refused. -/
def applyAll (caps : Capabilities) : List (Xml.Mark Finding) → Update
  | [] => .accepted caps []
  | .visited path :: marks => (applyAll caps marks).after [visiting path]
  | .noted finding :: marks => (finding.apply caps).andThen fun caps => applyAll caps marks

/-- What a walk through a document changes. It fails for the first finding that is refused, or else as the walk
itself does. -/
def update (reader : Reader Unit) (document : Bytes) (caps : Capabilities) : Update :=
  let walked := Xml.Walk.runDocument .malformedXml reader document
  let applied := applyAll caps walked.trace
  match applied.refusal, walked.result with
  | none, .error e => { applied with refusal := some e }
  | _, _ => applied

end ScanDiscovery.Response
