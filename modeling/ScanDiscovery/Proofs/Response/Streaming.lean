import ScanDiscovery.Proofs.Response.Reports
import ScanDiscovery.Proofs.Xml.Script
/-!
# Proofs.Response.Streaming — an answer read event by event

The readers of an answer, one inside the other, as one script: its sections are the elements that have readers of their
own, and its texts the values in them.  Whatever the bytes, the walk through an answer comes to what the machine of this
script does with the events, one after the other (`walked_comesTo`).  Specification only.
-/
namespace ScanDiscovery.Response

open Device
open Xml (Path Part Report Script)
open Xml.Walk (Still)

/-- A part of an answer that has a reader of its own. -/
inductive Region where
  | answer
  | description
  | configuration
  | formats
  | source (kind : SourceKind)
  deriving DecidableEq, Repr

/-- A value that is read from a text. -/
inductive Value where
  | name
  | format
  | duplex
  | field (kind : SourceKind) (field : SourceField)
  deriving DecidableEq, Repr

/-- What was heard in a region. -/
structure Heard where
  overview : Overview
  formats : Formats
  stated : Stated

namespace Heard

def nothing : Heard := ⟨.nothing, ∅, .nothing⟩

end Heard

/-- What the element at a path inside a region is. -/
def Region.part : Region → Path → Option (Part Region Value)
  | .answer, p => (AnswerPart.ofPath? p).map fun
    | .description => .within .description
    | .configuration => .within .configuration
  | .description, p => (single namePath p).map fun _ => .text .name
  | .configuration, p => (ConfigurationPart.ofPath? p).map fun
    | .formats => .within .formats
    | .source kind => .within (.source kind)
    | .duplex => .text .duplex
  | .formats, p => (single formatPath p).map fun _ => .text .format
  | .source kind, p => (SourceField.ofPath? p).map fun f => .text (.field kind f)

/-- The paths that the reader of a region looks for. -/
def Region.paths : Region → List String
  | .answer => AnswerPart.all.map AnswerPart.path
  | .description => [namePath]
  | .configuration => ConfigurationPart.paths.map Prod.fst
  | .formats => [formatPath]
  | .source _ => SourceField.paths.map Prod.fst

theorem Region.mem_paths_of_part {r : Region} {p : Path} {part : Part Region Value} (h : r.part p = some part) :
    ∃ path ∈ r.paths, path.toList = p := by
  cases r with
  | answer =>
    obtain ⟨part, hpart, -⟩ := Option.map_eq_some_iff.1 h
    obtain ⟨x, hx, hp⟩ := mem_of_lookup hpart
    obtain ⟨part, hpart, rfl⟩ := List.mem_map.1 hx
    exact ⟨part.path, List.mem_map_of_mem hpart, hp⟩
  | description =>
    obtain ⟨u, hu, -⟩ := Option.map_eq_some_iff.1 h
    exact ⟨namePath, List.mem_singleton.2 rfl, (single_eq_some_iff.1 hu).symm⟩
  | configuration =>
    obtain ⟨part, hpart, -⟩ := Option.map_eq_some_iff.1 h
    obtain ⟨x, hx, hp⟩ := mem_of_lookup hpart
    exact ⟨x.1, List.mem_map_of_mem hx, hp⟩
  | formats =>
    obtain ⟨u, hu, -⟩ := Option.map_eq_some_iff.1 h
    exact ⟨formatPath, List.mem_singleton.2 rfl, (single_eq_some_iff.1 hu).symm⟩
  | source kind =>
    obtain ⟨f, hf, -⟩ := Option.map_eq_some_iff.1 h
    obtain ⟨x, hx, hp⟩ := mem_of_lookup hf
    exact ⟨x.1, List.mem_map_of_mem hx, hp⟩

/-- What the text of a field says: how it changes what was stated. -/
def fieldText (kind : SourceKind) : SourceField → List Char → Reported (Stated → Stated)
  | .quantity q, t => .ofExcept ((number q.label t).map fun n s => Stated.add s q n)
  | .colorEntry, t =>
    match ColorMode.ofTag? (String.ofList t) with
    | some m => .done (·.addMode m)
    | none => ⟨[.unknownColor kind t], .ok id⟩

def Value.hear : Value → Heard → List Char → Reported Heard
  | .name, h, t => ⟨[.named t], .ok h⟩
  | .format, h, t =>
    ⟨if (Format.ofTag? (String.ofList t)).isNone then [.unknownFormat t] else [], .ok { h with formats := addTag h.formats t }⟩
  | .duplex, h, t => .done { h with overview := { h.overview with duplex := isTrue t } }
  | .field kind f, h, t => (fieldText kind f t).andThen fun g => .done { h with stated := g h.stated }

/-- What the end of a region says, after what was heard inside and around it. -/
def Region.close : Region → Heard → Heard → Reported Heard
  | .answer, _, h => .done h
  | .description, _, h => .done h
  | .configuration, inside, h => ⟨[.configured inside.overview], .ok h⟩
  | .formats, inside, h =>
    .done { h with overview := { h.overview with formats := h.overview.formats ∪ inside.formats } }
  | .source kind, inside, h => (Report.ofExcept (inside.stated.toSource kind)).andThen fun source =>
    ⟨[.source kind source], .ok { h with overview := h.overview.addSource kind }⟩

/-- **An answer, flatly.** -/
def answerScript : Script Region Value Heard Finding DecodeError where
  root := .answer
  part := Region.part
  fresh := .nothing
  hear := Value.hear
  close := Region.close
  lift := .malformedXml

variable (fault : Option Xml.Error)

theorem obeys_formats : answerScript.Obeys fault .formats visitFormat Heard.formats := by
  intro h rel
  have hpart : answerScript.part .formats rel = (single formatPath rel).map fun _ => .text .format := rfl
  rw [hpart]
  cases hs : single formatPath rel with
  | none => exact if_neg (single_eq_none_iff.1 hs)
  | some u =>
    intro p opened
    rw [visitFormat, if_pos (ofList_eq_iff.2 (single_eq_some_iff.1 hs))]
    refine Script.plays_text (fun tag => ?_) p opened
    show Still _ ((Value.hear .format h tag).andThen _)
    cases ht : Format.ofTag? (String.ofList tag) with
    | some f => simpa [Value.hear, addTag, ht] using Xml.Walk.still_done (h.formats ∪ {f})
    | none => simpa [Value.hear, addTag, ht] using (Xml.Walk.still_done h.formats).note (Finding.unknownFormat tag)

theorem obeys_source (kind : SourceKind) : answerScript.Obeys fault (.source kind) (visitSource kind) Heard.stated := by
  intro h rel
  have hpart : answerScript.part (.source kind) rel = (SourceField.ofPath? rel).map fun f => .text (.field kind f) := rfl
  rw [hpart, visitSource]
  cases SourceField.ofPath? rel with
  | none => rfl
  | some f =>
    intro p opened
    cases f with
    | quantity q =>
      refine Script.plays_text (fun t => ?_) p opened
      show Still _ ((Value.hear (.field kind (.quantity q)) h t).andThen _)
      simp only [Value.hear, fieldText]
      cases number q.label t with
      | error e => exact Xml.Walk.still_fail e
      | ok n => exact Xml.Walk.still_done _
    | colorEntry =>
      refine Script.plays_text (fun t => ?_) p opened
      show Still _ ((Value.hear (.field kind .colorEntry) h t).andThen _)
      simp only [Value.hear, fieldText]
      cases ColorMode.ofTag? (String.ofList t) with
      | some m => exact Xml.Walk.still_done _
      | none => exact (Xml.Walk.still_done h.stated).note (Finding.unknownColor kind t)

theorem obeys_description : answerScript.Obeys fault .description
    (fun _ path => if String.ofList path = namePath then .text fun name => .found (.named name) else .done ())
    fun _ => () := by
  intro h rel
  have hpart : answerScript.part .description rel = (single namePath rel).map fun _ => .text .name := rfl
  rw [hpart]
  cases hs : single namePath rel with
  | none => exact if_neg (single_eq_none_iff.1 hs)
  | some u =>
    intro p opened
    simp only [if_pos (ofList_eq_iff.2 (single_eq_some_iff.1 hs))]
    exact Script.plays_text (fun name => (Xml.Walk.still_done ()).note (Finding.named name)) p opened

theorem obeys_configuration : answerScript.Obeys fault .configuration visitConfiguration Heard.overview := by
  intro h rel
  have hpart : answerScript.part .configuration rel = (ConfigurationPart.ofPath? rel).map fun
    | .formats => .within .formats
    | .source kind => .within (.source kind)
    | .duplex => .text .duplex := rfl
  rw [hpart, visitConfiguration]
  cases ConfigurationPart.ofPath? rel with
  | none => rfl
  | some part =>
    intro p opened
    cases part with
    | formats =>
      exact Script.plays_within (obeys_formats fault) Xml.Walk.still_done (fun _ => Xml.Walk.still_done _)
        (fun _ => rfl) p opened
    | source kind =>
      refine Script.plays_within (obeys_source fault kind) (still_judge kind)
        (fun s => (Xml.Walk.still_done _).note (Finding.source kind s)) (fun inside => ?_) p opened
      show _ = (Region.close (.source kind) inside h).andThen _
      rw [Region.close, Report.andThen_assoc]
      rfl
    | duplex => exact Script.plays_text (fun t => Xml.Walk.still_done _) p opened

theorem obeys_answer : answerScript.Obeys fault .answer visitAnswer fun _ => () := by
  intro h rel
  have hpart : answerScript.part .answer rel = (AnswerPart.ofPath? rel).map fun
    | .description => .within .description
    | .configuration => .within .configuration := rfl
  rw [hpart, visitAnswer]
  cases AnswerPart.ofPath? rel with
  | none => rfl
  | some part =>
    intro p opened
    cases part with
    | description =>
      exact Script.plays_within (obeys_description fault) Xml.Walk.still_done Xml.Walk.still_done (fun _ => rfl) p opened
    | configuration =>
      exact Script.plays_within (obeys_configuration fault)
        (fun o => (Xml.Walk.still_done ()).note (Finding.configured o)) Xml.Walk.still_done (fun _ => rfl) p opened

/-- What the machine does with a document. -/
def played (document : Bytes) : Reported Unit :=
  answerScript.play (Xml.Event.ofBytes document).fault (Xml.Event.ofBytes document).items answerScript.initial

/-- **The walk through an answer comes to what the machine does**, on whatever bytes. -/
theorem walked_comesTo (document : Bytes) : (walked document).ComesTo (played document) := by
  rw [walked, readResponse_eq]
  exact Script.comesTo_document (obeys_answer _) fun _ => Xml.Walk.still_done ()

end ScanDiscovery.Response
