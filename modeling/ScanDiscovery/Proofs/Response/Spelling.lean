import ScanDiscovery.Proofs.Response.Accepted
import ScanDiscovery.Proofs.Xml.Respelled
/-!
# Proofs.Response.Spelling — an answer may name its namespaces in any way

Readers know elements by their paths, and paths have the prefixes of the vocabulary; of the prefixes of the document only
those inside a text are looked at, and only whether they are texts.  So every reader reports the same of an element and
of one that respells it, and two answers come to the same whichever prefixes they declare, at whatever level, and
whichever URIs of the same namespaces they declare them for (`decode_respelled`).  Specification only.
-/
namespace ScanDiscovery.Response

open Device
open Xml (Content Event)

section

variable {k k' : Content} (h : k.Respelled k')

include h

theorem textItem_respelled : textItem k = textItem k' := by rw [textItem, textItem, h.value_eq]

theorem formatsReport_respelled (base : Xml.Path) : formatsReport base k = formatsReport base k' :=
  h.report_handling_eq (fun _ _ _ hk => by rw [formatItem, formatItem, textItem_respelled hk]) ∅

theorem sourceReport_respelled (kind : SourceKind) (base : Xml.Path) :
    sourceReport kind base k = sourceReport kind base k' := by
  have hstated : statedReport kind base k = statedReport kind base k' := by
    refine h.report_handling_eq (fun field k k' hk => ?_) Stated.nothing
    cases field with
    | quantity q => rw [fieldItem, fieldItem, textItem_respelled hk]
    | colorEntry => rw [fieldItem, fieldItem, textItem_respelled hk]
  rw [sourceReport, sourceReport, hstated]

theorem partItem_respelled (part : ConfigurationPart) : partItem part k = partItem part k' := by
  cases part with
  | formats => rw [partItem, partItem, formatsReport_respelled h]
  | source kind => rw [partItem, partItem, sourceReport_respelled h]
  | duplex => rw [partItem, partItem, textItem_respelled h]

theorem answerItem_respelled (part : AnswerPart) : answerItem part k = answerItem part k' := by
  cases part with
  | description =>
    exact h.report_handling_eq (fun _ _ _ hk => by rw [nameItem, nameItem, textItem_respelled hk]) ()
  | configuration =>
    have hoverview : overviewReport k = overviewReport k' :=
      h.report_handling_eq (fun part _ _ hk => partItem_respelled hk part) Overview.nothing
    rw [answerItem, answerItem, configurationReport, configurationReport, hoverview]

/-- **A tree and one that respells it** are reported alike. -/
theorem responseReport_respelled : responseReport k = responseReport k' :=
  h.report_handling_eq (fun part _ _ hk => answerItem_respelled hk part) ()

end

/-- **Answers may name their namespaces in any way**: with the same texts, local names and known namespaces, two answers
come to the same, whatever was known before. -/
theorem decode_respelled {document document' : Bytes} (hfault : (Event.ofBytes document).fault = none)
    (hfault' : (Event.ofBytes document').fault = none)
    (hclosed : ((Event.ofBytes document).items.foldl Event.tally (0, false)).1 = 0)
    (h : List.Forall₂ (fun e e' => e.respells e' = true) (Event.ofBytes document).items (Event.ofBytes document').items)
    (caps : Capabilities) :
    (decode caps document).result = (decode caps document').result ∧
      (decode caps document).caps = (decode caps document').caps := by
  obtain ⟨content, hitems⟩ := Xml.exists_content_of_tally document hclosed
  rw [hitems, ← List.append_nil content.events] at h
  obtain ⟨content', tail, hitems', hrespelled, hnil⟩ := Content.respelled_of_events h
  cases hnil
  have hd := delivers_response (show Event.ofBytes document = ⟨content.events, none⟩ by rw [← hitems, ← hfault])
  have hd' := delivers_response (show Event.ofBytes document' = ⟨content'.events, none⟩ by
    rw [← List.append_nil content'.events, ← hitems', ← hfault'])
  rw [responseReport_respelled hrespelled, hrespelled.hasElement_eq] at hd
  refine decode_congr ?_
  rw [learn, learn, hd.findings, hd.result, hd'.findings, hd'.result]

/-- The feeder's answer, with prefixes and URIs of its own: an older envelope by `https`, the scanners' namespace with a
slash behind it and for the default one, and a prefix that is declared anew. -/
def feederRespelled : Bytes :=
  Utf8.encode (Xml.Markup.render
    (.element "e:Envelope" [("xmlns:e", "https://schemas.xmlsoap.org/soap/envelope")]
      [.element "e:Body" [] [.element "GetScannerElementsResponse" [("xmlns", Xml.Vocabulary.scan ++ "/")]
        [.element "ScannerElements" [] [.element "ElementData" [] [.element "ScannerConfiguration" []
          [.element "e:ADF" [("xmlns:e", Xml.Vocabulary.scan)]
            [.leaf "e:ADFSupportsDuplex" "1",
            .element "ADFFront" []
              [.element "e:ADFResolutions" []
                [.element "Widths" [] [.leaf "Width" "300"], .element "e:Heights" [] [.leaf "Height" "300"]],
              .element "ADFColor" [] [.leaf "e:ColorEntry" "RGB24"],
              .element "ADFMinimumSize" [] [.leaf "Width" "1", .leaf "Height" "1"],
              .element "ADFMaximumSize" [] [.leaf "Width" "9", .leaf "Height" "9"]]]]]]]]]))

theorem feeder_respelled :
    (decode ∅ feederRespelled).result = .ok () ∧ (decode ∅ feederRespelled).caps = (decode ∅ feederAnswer).caps := by
  have hread : (Event.ofBytes feederAnswer).fault = none ∧ (Event.ofBytes feederRespelled).fault = none ∧
      ((Event.ofBytes feederAnswer).items.foldl Event.tally (0, false)).1 = 0 ∧
      List.Forall₂ (fun e e' => e.respells e' = true) (Event.ofBytes feederAnswer).items
        (Event.ofBytes feederRespelled).items := by
    decide +kernel
  obtain ⟨hfault, hfault', hclosed, h⟩ := hread
  have hsame := decode_respelled hfault hfault' hclosed h ∅
  exact ⟨hsame.1.symm.trans feederAnswer_read.2.1, hsame.2.symm⟩

end ScanDiscovery.Response
