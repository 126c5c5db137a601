import ScanDiscovery.Proofs.Response.Reports
import ScanDiscovery.Xml.Markup
/-!
# Proofs.Response.Accepted — a report that is no failure, unpacked

Each report says that the names on the way are texts and that every part is read without failing; what it results in
is put together from its parts in document order.  Of the findings this leaves little: a description names the scanner
and no more, and a configuration finds sources that were judged, and at last its overview.  Specification only.
-/
namespace ScanDiscovery.Response

open Device
open Xml (Content Report Path isPart)

/-! ## The tables of paths -/

theorem separate_tables :
    Separate [(formatPath, ())] ∧ Separate SourceField.paths ∧ Separate ConfigurationPart.paths ∧
      Separate [(namePath, ())] ∧ Separate (AnswerPart.all.map fun part => (part.path, part)) := by
  decide +kernel

theorem apart_format (base : Path) : Content.Apart (isPart base (single formatPath)) :=
  apart_of_separate separate_tables.1 base

theorem apart_source (base : Path) : Content.Apart (isPart base SourceField.ofPath?) :=
  apart_of_separate separate_tables.2.1 base

theorem apart_configuration (base : Path) : Content.Apart (isPart base ConfigurationPart.ofPath?) :=
  apart_of_separate separate_tables.2.2.1 base

theorem apart_name (base : Path) : Content.Apart (isPart base (single namePath)) :=
  apart_of_separate separate_tables.2.2.2.1 base

theorem apart_answer (base : Path) : Content.Apart (isPart base AnswerPart.ofPath?) :=
  apart_of_separate separate_tables.2.2.2.2 base

/-! ## Reports that are no failures -/

theorem descriptionReport_eq_ok {k : Content} {fs : List Finding} :
    descriptionReport k = ⟨fs, .ok ()⟩ ↔
      k.Clear (isPart descriptionPath.toList (single namePath)) descriptionPath.toList ∧
        (∀ x ∈ k.parts descriptionPath.toList (single namePath), ∃ name, (nameItem x.1 x.2).result = .ok name) ∧
        fs = (k.parts descriptionPath.toList (single namePath)).flatMap fun x => (nameItem x.1 x.2).findings := by
  rw [descriptionReport, Content.report_handling_eq_ok (apart_name _)]
  simp only [and_true]

theorem overviewReport_eq_ok {k : Content} {fs : List Finding} {o : Overview} :
    overviewReport k = ⟨fs, .ok o⟩ ↔
      k.Clear (isPart configurationPath.toList ConfigurationPart.ofPath?) configurationPath.toList ∧
        (∀ x ∈ k.parts configurationPath.toList ConfigurationPart.ofPath?, ∃ s, (partItem x.1 x.2).result = .ok s) ∧
        fs = (k.parts configurationPath.toList ConfigurationPart.ofPath?).flatMap
          (fun x => (partItem x.1 x.2).findings) ∧
        o = ((k.parts configurationPath.toList ConfigurationPart.ofPath?).filterMap fun x =>
          (partItem x.1 x.2).result.toOption).foldl .hear .nothing := by
  rw [overviewReport, Content.report_handling_eq_ok (apart_configuration _)]

theorem configurationReport_eq_ok {k : Content} {fs : List Finding} :
    configurationReport k = ⟨fs, .ok ()⟩ ↔ ∃ gs o, overviewReport k = ⟨gs, .ok o⟩ ∧ fs = gs ++ [.configured o] := by
  rw [configurationReport, Report.andThen_eq_ok]
  constructor
  · rintro ⟨gs, o, hs, h, hc, rfl⟩
    cases hc
    exact ⟨gs, o, h, rfl⟩
  · rintro ⟨gs, o, h, rfl⟩
    exact ⟨gs, o, _, h, rfl, rfl⟩

theorem responseReport_eq_ok {k : Content} {fs : List Finding} :
    responseReport k = ⟨fs, .ok ()⟩ ↔
      k.Clear (isPart [] AnswerPart.ofPath?) [] ∧
        (∀ x ∈ k.parts [] AnswerPart.ofPath?, (answerItem x.1 x.2).result = .ok ()) ∧
        fs = (k.parts [] AnswerPart.ofPath?).flatMap fun x => (answerItem x.1 x.2).findings := by
  rw [responseReport, Content.report_handling_eq_ok (apart_answer _)]
  have hu : ∀ r : Except DecodeError Unit, (∃ u, r = .ok u) ↔ r = .ok () := fun r =>
    ⟨fun ⟨_, h⟩ => h, fun h => ⟨(), h⟩⟩
  simp only [and_true, hu]

/-! ## Findings -/

/-- A tag that nobody knows. -/
def Finding.IsTag : Finding → Prop
  | .unknownFormat _ => True
  | .unknownColor _ _ => True
  | _ => False

/-- What the reading of a part of a configuration comes upon: tags that nobody knows, and sources that were judged. -/
def Finding.OfPart : Finding → Prop
  | .unknownFormat _ => True
  | .unknownColor _ _ => True
  | .source kind s => ∃ stated : Stated, stated.toSource kind = .ok s
  | .named _ => False
  | .configured _ => False

theorem Finding.IsTag.ofPart {f : Finding} (h : f.IsTag) : f.OfPart := by
  cases f with
  | unknownFormat tag => trivial
  | unknownColor kind tag => trivial
  | source kind s => exact h.elim
  | named name => exact h.elim
  | configured o => exact h.elim

theorem forall_findings_andThen {α β : Type} {P : Finding → Prop} {r : Reported α} {k : α → Reported β}
    (hr : ∀ f ∈ r.findings, P f) (hk : ∀ a, r.result = .ok a → ∀ f ∈ (k a).findings, P f) :
    ∀ f ∈ (r.andThen k).findings, P f := by
  obtain ⟨fs, e | a⟩ := r
  · exact hr
  · intro f hf
    rcases List.mem_append.1 hf with hf | hf
    · exact hr f hf
    · exact hk a rfl f hf

theorem forall_findings_report {σ : Type} {P : Finding → Prop} {handle : Path → Option (σ → Content → Reported σ)}
    (h : ∀ p read, handle p = some read → ∀ a k, ∀ f ∈ (read a k).findings, P f) :
    ∀ (k : Content) (parent : Path) (a : σ), ∀ f ∈ (k.report .malformedXml handle parent a).findings, P f
  | .nil, parent, a, f, hf => by cases hf
  | .text _ rest, parent, a, f, hf => forall_findings_report h rest parent a f hf
  | .cdata _ rest, parent, a, f, hf => forall_findings_report h rest parent a f hf
  | .element name uri inside rest, parent, a, f, hf => by
    rw [Content.report] at hf
    cases hp : Content.pathBelow parent name uri with
    | error e => rw [hp] at hf; cases hf
    | ok p =>
      rw [hp] at hf
      refine forall_findings_andThen ?_ (fun b _ => forall_findings_report h rest parent b) f hf
      cases hh : handle p with
      | none => exact forall_findings_report h inside p a
      | some read => exact h p read hh a inside

theorem forall_findings_handling {σ ρ ν : Type} {P : Finding → Prop} {base : Path} {part? : Path → Option ρ}
    {item : ρ → Content → Reported ν} {step : σ → ν → σ} (h : ∀ part k, ∀ f ∈ (item part k).findings, P f)
    (k : Content) (a : σ) :
    ∀ f ∈ (k.report .malformedXml (Xml.handling base part? item step) base a).findings, P f := by
  refine forall_findings_report (fun p read hread a k => ?_) k base a
  rw [Xml.handling, Option.map_eq_some_iff] at hread
  obtain ⟨part, -, rfl⟩ := hread
  refine forall_findings_andThen (h part k) fun v _ f hf => ?_
  cases hf

theorem forall_findings_textItem {α : Type} {P : Finding → Prop} {k : Content} {l : List Char → Reported α}
    (h : ∀ t, ∀ f ∈ (l t).findings, P f) : ∀ f ∈ ((textItem k).andThen l).findings, P f := by
  refine forall_findings_andThen (fun f hf => ?_) fun t _ => h t
  cases hf

theorem descriptionReport_findings (k : Content) : ∀ f ∈ (descriptionReport k).findings, ∃ name, f = .named name := by
  refine forall_findings_handling (fun _ k => forall_findings_textItem fun t f hf => ?_) k ()
  exact ⟨t, List.mem_singleton.1 hf⟩

theorem formatsReport_findings (base : Path) (k : Content) : ∀ f ∈ (formatsReport base k).findings, f.IsTag := by
  refine forall_findings_handling (fun _ k => forall_findings_textItem fun t f hf => ?_) k ∅
  by_cases ht : (Format.ofTag? (String.ofList t)).isNone = true
  · rw [if_pos ht] at hf
    rw [List.mem_singleton.1 hf]
    trivial
  · rw [if_neg ht] at hf
    cases hf

theorem sourceReport_findings (kind : SourceKind) (base : Path) (k : Content) :
    ∀ f ∈ (sourceReport kind base k).findings, f.IsTag := by
  refine forall_findings_andThen ?_ fun s _ f hf => by cases hf
  refine forall_findings_handling (fun part k => ?_) k Stated.nothing
  cases part with
  | quantity q => exact forall_findings_textItem fun t f hf => by cases hf
  | colorEntry =>
    refine forall_findings_textItem fun t f hf => ?_
    split at hf
    · cases hf
    · rw [List.mem_singleton.1 hf]
      trivial

theorem sourceReport_result {kind : SourceKind} {base : Path} {k : Content} {s : Source}
    (h : (sourceReport kind base k).result = .ok s) : ∃ stated : Stated, stated.toSource kind = .ok s := by
  obtain ⟨gs, stated, hs, -, hst, -⟩ := Report.andThen_eq_ok.1
    (show sourceReport kind base k = ⟨(sourceReport kind base k).findings, .ok s⟩ by rw [← h])
  exact ⟨stated, (Report.ofExcept_eq_ok.1 hst).1⟩

theorem partItem_findings (part : ConfigurationPart) (k : Content) : ∀ f ∈ (partItem part k).findings, f.OfPart := by
  cases part with
  | formats =>
    exact forall_findings_andThen (fun f hf => (formatsReport_findings _ k f hf).ofPart) fun _ _ f hf => by cases hf
  | source kind =>
    refine forall_findings_andThen (fun f hf => (sourceReport_findings kind _ k f hf).ofPart) fun s hs f hf => ?_
    rw [List.mem_singleton.1 hf]
    exact sourceReport_result hs
  | duplex => exact forall_findings_textItem fun t f hf => by cases hf

theorem overviewReport_findings (k : Content) : ∀ f ∈ (overviewReport k).findings, f.OfPart :=
  forall_findings_handling partItem_findings k Overview.nothing

theorem feeder_foldl_hear : ∀ (l : List Said) (o : Overview),
    (l.foldl .hear o).feeder = true ↔ o.feeder = true ∨ ∃ s, .source .adfSimplex s ∈ l
  | [], o => by simp
  | said :: l, o => by
    rw [List.foldl_cons, feeder_foldl_hear l]
    rcases said with formats | ⟨_ | _ | _, s⟩ | yes <;> simp [Overview.hear, Overview.addSource]

theorem partItem_source {part : ConfigurationPart} {k : Content} {kind : SourceKind} {s : Source}
    (h : (partItem part k).result = .ok (.source kind s)) :
    part = .source kind ∧ (sourceReport kind (partPath part) k).result = .ok s ∧
      .source kind s ∈ (partItem part k).findings := by
  cases part with
  | formats =>
    simp only [partItem] at h
    rcases hf : formatsReport (partPath .formats) k with ⟨gs, e | formats⟩ <;> rw [hf] at h <;> cases h
  | source other =>
    simp only [partItem] at h ⊢
    rcases hs : sourceReport other (partPath (.source other)) k with ⟨gs, e | t⟩ <;> rw [hs] at h <;> cases h
    exact ⟨rfl, by rw [hs], List.mem_append.2 (.inr (List.mem_singleton.2 rfl))⟩
  | duplex =>
    simp only [partItem] at h
    rcases ht : textItem k with ⟨gs, e | t⟩ <;> rw [ht] at h <;> cases h

/-- **A configuration that is read without failing**: parts, and at last the overview; with a front there is a source
that was found. -/
theorem configuration_findings {k : Content} {fs : List Finding} (h : configurationReport k = ⟨fs, .ok ()⟩) :
    ∃ gs o, fs = gs ++ [.configured o] ∧ (∀ f ∈ gs, f.OfPart) ∧
      (o.feeder = true → ∃ s, .source .adfSimplex s ∈ gs) := by
  obtain ⟨gs, o, ho, rfl⟩ := configurationReport_eq_ok.1 h
  refine ⟨gs, o, rfl, fun f hf => overviewReport_findings k f (by rw [ho]; exact hf), fun hfeed => ?_⟩
  obtain ⟨-, -, rfl, rfl⟩ := overviewReport_eq_ok.1 ho
  rcases (feeder_foldl_hear _ _).1 hfeed with hno | ⟨s, hs⟩
  · cases hno
  · obtain ⟨x, hx, hxs⟩ := List.mem_filterMap.1 hs
    have hres : (partItem x.1 x.2).result = .ok (.source .adfSimplex s) := by
      cases hr : (partItem x.1 x.2).result with
      | error e => rw [hr] at hxs; cases hxs
      | ok said => rw [hr] at hxs; cases hxs; rfl
    exact ⟨s, List.mem_flatMap.2 ⟨x, hx, (partItem_source hres).2.2⟩⟩

/-! ## One part after the other -/

theorem contentsAt_path (part : AnswerPart) (k : Content) :
    k.contentsAt [] part.path = ((k.parts [] AnswerPart.ofPath?).filter (·.1 = part)).map (·.2) :=
  Content.contentsAt_eq_parts (fun _ => AnswerPart.ofPath?_eq_some_iff) k

theorem mem_elementPaths_iff {document : Bytes} {k : Content} (h : Xml.Event.ofBytes document = ⟨k.events, none⟩)
    (part : AnswerPart) :
    part.path.toList ∈ Xml.elementPaths document ↔ ∃ x ∈ k.parts [] AnswerPart.ofPath?, x.1 = part := by
  rw [← List.count_pos_iff, Xml.count_elementPaths (congrArg Xml.Stream.items h), contentsAt_path,
    List.length_map, List.length_pos_iff_exists_mem]
  simp only [List.mem_filter, decide_eq_true_eq]

/-- The model is set and nothing else. -/
def rename (caps : Capabilities) (name : List Char) : Capabilities :=
  { caps with model := orElseText caps.model name }

theorem absorb_description_keeps {I : Capabilities → Prop} (hname : ∀ c name, I c → I (rename c name)) {k : Content}
    {b c : Capabilities} (hb : I b) (h : absorb b (descriptionReport k).findings = .ok c) : I c := by
  refine absorb_keeps (fun f => ∃ name, f = .named name) (fun f b c hf hb hfc => ?_) _ b c
    (descriptionReport_findings k) hb h
  obtain ⟨name, rfl⟩ := hf
  cases hfc
  exact hname b name hb

/-- **What names and configurations keep, an answer keeps.** -/
theorem absorb_parts_keeps {I : Capabilities → Prop} (hname : ∀ c name, I c → I (rename c name)) :
    ∀ (xs : List (AnswerPart × Content)) (b c : Capabilities),
      (∀ x ∈ xs, x.1 = .configuration → ∀ b c, I b → absorb b (configurationReport x.2).findings = .ok c → I c) →
      I b → absorb b (xs.flatMap fun x => (answerItem x.1 x.2).findings) = .ok c → I c
  | [], b, c, _, hb, h => by
    cases h
    exact hb
  | (part, k) :: xs, b, c, hconf, hb, h => by
    rw [List.flatMap_cons] at h
    obtain ⟨d, hd, hc⟩ := absorb_append_ok.1 h
    refine absorb_parts_keeps hname xs d c (fun x hx => hconf x (List.mem_cons_of_mem _ hx)) ?_ hc
    cases part with
    | description => exact absorb_description_keeps hname hb hd
    | configuration => exact hconf _ List.mem_cons_self rfl b d hb hd

/-- **What every configuration reaches and names keep, an answer with a configuration reaches.** -/
theorem absorb_parts_reaches {I : Capabilities → Prop} (hname : ∀ c name, I c → I (rename c name)) :
    ∀ (xs : List (AnswerPart × Content)) (b c : Capabilities),
      (∀ x ∈ xs, x.1 = .configuration → ∀ b c, absorb b (configurationReport x.2).findings = .ok c → I c) →
      (∃ x ∈ xs, x.1 = .configuration) →
      absorb b (xs.flatMap fun x => (answerItem x.1 x.2).findings) = .ok c → I c
  | [], b, c, _, ⟨x, hx, _⟩, _ => by cases hx
  | (part, k) :: xs, b, c, hconf, hex, h => by
    rw [List.flatMap_cons] at h
    obtain ⟨d, hd, hc⟩ := absorb_append_ok.1 h
    have hrest : ∀ x ∈ xs, x.1 = .configuration → ∀ b c,
        absorb b (configurationReport x.2).findings = .ok c → I c := fun x hx => hconf x (List.mem_cons_of_mem _ hx)
    cases part with
    | description =>
      obtain ⟨x, hx, hxc⟩ := hex
      rcases List.mem_cons.1 hx with rfl | hx
      · cases hxc
      · exact absorb_parts_reaches hname xs d c hrest ⟨x, hx, hxc⟩ hc
    | configuration =>
      exact absorb_parts_keeps hname xs d c (fun x hx he b c _ => hrest x hx he b c)
        (hconf _ List.mem_cons_self rfl b d hd) hc

/-! ## Answers written out -/

/-- The answer of a scanner whose data are these. -/
def writtenAnswer (data : List Xml.Markup) : Bytes :=
  Utf8.encode (Xml.Markup.render
    (.element "Envelope" [("xmlns", Xml.Vocabulary.soap12), ("xmlns:s", Xml.Vocabulary.scan)]
      [.element "Body" [] [.element "s:GetScannerElementsResponse" [] [.element "s:ScannerElements" []
        [.element "s:ElementData" [] data]]]]))

/-- A source that takes paper up to this length; the names of its fields begin with `tag`. -/
def sourceElement (name tag length : String) : Xml.Markup :=
  .element name []
    [.element ("s:" ++ tag ++ "Resolutions") []
      [.element "s:Widths" [] [.leaf "s:Width" "300"], .element "s:Heights" [] [.leaf "s:Height" "300"]],
    .element ("s:" ++ tag ++ "Color") [] [.leaf "s:ColorEntry" "RGB24"],
    .element ("s:" ++ tag ++ "MinimumSize") [] [.leaf "s:Width" "1", .leaf "s:Height" "1"],
    .element ("s:" ++ tag ++ "MaximumSize") [] [.leaf "s:Width" "9", .leaf "s:Height" length]]

/-- The formats of a device, of which there is one. -/
def formatElement (tag : String) : Xml.Markup :=
  .element "s:DeviceSettings" [] [.element "s:FormatsSupported" [] [.leaf "s:FormatValue" tag]]

/-- The answer of a scanner that has a feeder only, which scans both sides. -/
def feederAnswer : Bytes :=
  writtenAnswer [.element "s:ScannerConfiguration" [] [.element "s:ADF" []
    [.leaf "s:ADFSupportsDuplex" "1",
    .element "s:ADFFront" []
      [.element "s:ADFResolutions" []
        [.element "s:Widths" [] [.leaf "s:Width" "300"], .element "s:Heights" [] [.leaf "s:Height" "300"]],
      .element "s:ADFColor" [] [.leaf "s:ColorEntry" "RGB24"],
      .element "s:ADFMinimumSize" [] [.leaf "s:Width" "1", .leaf "s:Height" "1"],
      .element "s:ADFMaximumSize" [] [.leaf "s:Width" "9", .leaf "s:Height" "9"]]]]]

/-- An element of the scanners' own vocabulary, as `writtenAnswer` spells it. -/
def scanElement (name : String) (inside rest : Content) : Content :=
  .element ⟨Xml.Vocabulary.bytesOf ("s:" ++ name)⟩ (some (Xml.Vocabulary.bytesOf Xml.Vocabulary.scan)) inside rest

def scanLeaf (name value : String) (rest : Content) : Content :=
  scanElement name (.text (Xml.Vocabulary.bytesOf value) .nil) rest

/-- The tree of `writtenAnswer` around its data. -/
def writtenTree (data : Content) : Content :=
  .element ⟨Xml.Vocabulary.bytesOf "Envelope"⟩ (some (Xml.Vocabulary.bytesOf Xml.Vocabulary.soap12))
    (.element ⟨Xml.Vocabulary.bytesOf "Body"⟩ (some (Xml.Vocabulary.bytesOf Xml.Vocabulary.soap12))
      (scanElement "GetScannerElementsResponse"
        (scanElement "ScannerElements" (scanElement "ElementData" data .nil) .nil) .nil) .nil) .nil

/-- The front of the feeder of `feederAnswer`. -/
def frontResolutions (rest : Content) : Content :=
  scanElement "ADFResolutions" (scanElement "Widths" (scanLeaf "Width" "300" .nil)
    (scanElement "Heights" (scanLeaf "Height" "300" .nil) .nil)) rest

def frontColors (rest : Content) : Content := scanElement "ADFColor" (scanLeaf "ColorEntry" "RGB24" .nil) rest

def frontSize (name value : String) (rest : Content) : Content :=
  scanElement name (scanLeaf "Width" value (scanLeaf "Height" value .nil)) rest

def feederFront : Content :=
  frontResolutions (frontColors (frontSize "ADFMinimumSize" "1" (frontSize "ADFMaximumSize" "9" .nil)))

/-- What stands in the configuration of `feederAnswer`. -/
def feederTree : Content :=
  scanElement "ADF" (scanLeaf "ADFSupportsDuplex" "1" (scanElement "ADFFront" feederFront .nil)) .nil

/-- The feeder's answer has a configuration and can be used, and an answer without one can be used after it. -/
theorem feederAnswer_read :
    (Xml.elementPaths feederAnswer).count configurationPath.toList = 1 ∧
      (decode ∅ feederAnswer).result = .ok () ∧
      (decode ∅ feederAnswer).caps.adfDuplex.isSome = true ∧
      (Xml.elementPaths (writtenAnswer [])).count configurationPath.toList = 0 ∧
      (decode (decode ∅ feederAnswer).caps (writtenAnswer [])).result = .ok () := by
  decide +kernel

end ScanDiscovery.Response
