import ScanDiscovery.Proofs.Decimal.Numeral
import ScanDiscovery.Proofs.Response.Stated
import ScanDiscovery.Proofs.Xml.Cut
import ScanDiscovery.Proofs.Xml.Faults
import ScanDiscovery.Proofs.Xml.Resuming
/-!
# Proofs.Response.Verdict — a source is refused for the first thing wrong with its element, and accepted without one

What is wrong with the element of a source are its faults in document order, and behind them what its fields leave to
complain of, in a fixed order (`sourceErrors`).  The reader fails with the first of that list; where the list is
empty it results in the source that the fields state, of which there is one (`source_verdict`).  Specification only.
-/
namespace ScanDiscovery.Response

open Device
open Xml (Content Trunk Subtree Cursor Path fault? partAt isPart handling)

/-! ## Fields -/

/-- Where a field stands in a source, behind the word that is spelt differently in a platen and in a feeder. -/
def SourceField.place : SourceField → String
  | .quantity .resolutionWidth => "Resolutions/scan:Widths/scan:Width"
  | .quantity .resolutionHeight => "Resolutions/scan:Heights/scan:Height"
  | .quantity .minWidth => "MinimumSize/scan:Width"
  | .quantity .minHeight => "MinimumSize/scan:Height"
  | .quantity .maxWidth => "MaximumSize/scan:Width"
  | .quantity .maxHeight => "MaximumSize/scan:Height"
  | .colorEntry => "Color/scan:ColorEntry"

theorem lookup_eq_some_iff_mem {κ ρ : Type} [BEq κ] [LawfulBEq κ] {key : κ} {part : ρ} : ∀ {table : List (κ × ρ)},
    (table.map Prod.fst).Nodup → (table.lookup key = some part ↔ (key, part) ∈ table)
  | [], _ => by simp
  | (other, part') :: table, h => by
    obtain ⟨hother, htable⟩ := List.nodup_cons.1 h
    rw [List.lookup_cons, List.mem_cons, Prod.mk.injEq]
    by_cases hk : key = other
    · subst hk
      have hnot : (key, part) ∉ table := fun hm => hother (List.mem_map.2 ⟨_, hm, rfl⟩)
      simp [hnot, eq_comm]
    · rw [beq_false_of_ne hk]
      simpa [hk] using lookup_eq_some_iff_mem htable

/-- **A field is spelt in two ways**, whatever the source. -/
theorem SourceField.ofPath?_eq_some_iff {p : Path} {f : SourceField} :
    ofPath? p = some f ↔ ∃ spelling ∈ ["Platen", "ADF"], String.ofList p = "/scan:" ++ spelling ++ f.place := by
  rw [ofPath?, lookup_eq_some_iff_mem (by decide +kernel)]
  rcases f with q | _
  · cases q <;> simp [paths, place]
  · simp [paths, place]

/-- What is wrong with a field. -/
def SourceField.faults : SourceField → Content → List DecodeError
  | .quantity q, k => k.textFaults.map .malformedXml ++ match k.value with
    | .ok text => if (Decimal.unsigned? text).isNone then [.malformedValue q.label text] else []
    | .error _ => []
  | .colorEntry, k => k.textFaults.map .malformedXml

/-- What is wrong with a field that the document ends in. -/
def brokenField (fault : Option Xml.Error) (own : Option Path) (t : Trunk) : List DecodeError :=
  (t.textFaults fault own).map .malformedXml

theorem fault?_textItem (k : Content) : fault? (textItem k).result = (k.textFaults.map DecodeError.malformedXml).head? := by
  rw [List.head?_map, ← k.fault?_value, textItem]
  cases k.value <;> rfl

theorem fault?_fieldItem (kind : SourceKind) (f : SourceField) (k : Content) :
    fault? (fieldItem kind f k).result = (f.faults k).head? := by
  cases f with
  | quantity q =>
    refine Xml.fault?_andThen (fault?_textItem k) fun text htext => ?_
    rw [textItem_result.1 htext]
    simp only [Xml.Report.ofExcept, Xml.fault?_map]
    unfold number
    cases Decimal.unsigned? text <;> rfl
  | colorEntry =>
    rw [SourceField.faults, ← List.append_nil (k.textFaults.map DecodeError.malformedXml)]
    refine Xml.fault?_andThen (fault?_textItem k) fun tag _ => ?_
    cases ColorMode.ofTag? (String.ofList tag) <;> rfl

/-! ## The verdict on fields -/

def Bound.quantity : Bound → Quantity
  | .minWidth => .minWidth
  | .minHeight => .minHeight
  | .maxWidth => .maxWidth
  | .maxHeight => .maxHeight

section

variable (kind : SourceKind) (xs : List (SourceField × Content))

/-- The values that are listed for both axes. -/
def listedResolutions : List UInt32 :=
  (numbersOf .resolutionWidth xs).filter fun r => (numbersOf .resolutionHeight xs).contains r

/-- The listed modes that a scan can ask for. -/
def listedModes : List ColorMode := (modesOf xs).filter fun m => m = .grayscale || m = .color

/-- What the first field of a bound says. -/
def firstOf? (b : Bound) : Option UInt32 := (numbersOf b.quantity xs).head?

def missing (b : Bound) : List DecodeError := if (firstOf? xs b).isNone then [.missingBound kind b] else []

def inverted (axis : Axis) (least most : Bound) : List DecodeError :=
  match firstOf? xs least, firstOf? xs most with
  | some min, some max => if max < min then [.invertedRange kind axis] else []
  | _, _ => []

/-- What the fields of a source leave to complain of. -/
def complaints : List DecodeError :=
  (if (listedResolutions xs).isEmpty then [.noResolutions kind] else []) ++
  ((if (listedModes xs).isEmpty then [.noColorModes kind] else []) ++
  (missing kind xs .minWidth ++ (missing kind xs .minHeight ++ (missing kind xs .maxWidth ++ (missing kind xs .maxHeight ++
  (inverted kind xs .width .minWidth .maxWidth ++ inverted kind xs .height .minHeight .maxHeight))))))

/-- The source that some fields state. -/
structure StatedBy (source : Source) : Prop where
  resolutions : ∀ r, r ∈ source.resolutions ↔ r ∈ listedResolutions xs
  colorModes : ∀ m, m ∈ source.colorModes ↔ m ∈ listedModes xs
  minWidth : firstOf? xs .minWidth = some source.width.min
  minHeight : firstOf? xs .minHeight = some source.height.min
  maxWidth : firstOf? xs .maxWidth = some source.width.max
  maxHeight : firstOf? xs .maxHeight = some source.height.max
  discrete : source.discrete = true
  formats : source.formats = ∅
  xWindow : source.xWindow = .upTo source.width.max 1000
  yWindow : source.yWindow = .upTo source.height.max 1000

end

/-- A check that comes before others: what it complains of comes first. -/
theorem fault?_guard {α : Type} {p q : Prop} [Decidable p] [Decidable q] (hpq : p ↔ q) {e : DecodeError}
    {f : Unit → Except DecodeError α} {x : Except DecodeError α} {m : List DecodeError}
    (hx : ¬ q → fault? x = m.head?) :
    fault? (if p then (Except.error e).bind f else x) = ((if q then [e] else []) ++ m).head? := by
  by_cases hp : p
  · rw [if_pos hp, if_pos (hpq.1 hp)]
    rfl
  · have hq : ¬ q := fun hq => hp (hpq.2 hq)
    rw [if_neg hp, if_neg hq]
    exact hx hq

theorem fault?_require {α : Type} {kind : SourceKind} {xs : List (SourceField × Content)} {b : Bound}
    {known : Option UInt32} (hknown : known = firstOf? xs b) {f : UInt32 → Except DecodeError α} {m : List DecodeError}
    (hf : ∀ n, firstOf? xs b = some n → fault? (f n) = m.head?) :
    fault? ((Stated.require kind b known).bind f) = (missing kind xs b ++ m).head? := by
  subst hknown
  unfold missing
  cases h : firstOf? xs b with
  | none => rfl
  | some n => exact hf n h

section

variable {kind : SourceKind} {xs : List (SourceField × Content)}

theorem mem_listedResolutions {r : UInt32} :
    r ∈ Resolutions.ofList (Stated.nothing.also xs).widths ∩ Resolutions.ofList (Stated.nothing.also xs).heights ↔
      r ∈ listedResolutions xs := by
  rw [Resolutions.mem_inter, Resolutions.mem_ofList, Resolutions.mem_ofList, listedResolutions, List.mem_filter,
    List.contains_iff_mem]
  rfl

theorem mem_listedModes {m : ColorMode} :
    m ∈ (Stated.nothing.also xs).colorModes ∩ ColorModes.supported ↔ m ∈ listedModes xs := by
  have hmodes : m ∈ ColorModes.ofPred (fun m => m ∈ modesOf xs) ↔ m ∈ modesOf xs := by
    rw [ColorModes.mem_iff, ColorModes.has_ofPred, decide_eq_true_iff]
  have hnothing : m ∉ Stated.nothing.colorModes := ColorModes.not_mem_empty
  rw [ColorModes.mem_inter, Stated.also, ColorModes.mem_union, hmodes, or_iff_right hnothing, ColorModes.mem_supported,
    listedModes, List.mem_filter, Bool.or_eq_true, decide_eq_true_iff, decide_eq_true_iff]

/-- **The verdict on what some fields state** is the first complaint. -/
theorem fault?_toSource (kind : SourceKind) (xs : List (SourceField × Content)) :
    fault? ((Stated.nothing.also xs).toSource kind) = (complaints kind xs).head? := by
  have hresolutions : (Resolutions.ofList (Stated.nothing.also xs).widths ∩
      Resolutions.ofList (Stated.nothing.also xs).heights).isEmpty = true ↔ (listedResolutions xs).isEmpty = true := by
    rw [Resolutions.isEmpty_iff, List.isEmpty_iff, List.eq_nil_iff_forall_not_mem]
    constructor
    · intro h r hr
      exact Resolutions.not_mem_empty (h ▸ mem_listedResolutions.2 hr)
    · intro h
      exact Resolutions.ext_mem fun r =>
        ⟨fun hr => absurd (mem_listedResolutions.1 hr) (h r), fun hr => absurd hr Resolutions.not_mem_empty⟩
  have hmodes : (Stated.nothing.also xs).colorModes ∩ ColorModes.supported = ∅ ↔ (listedModes xs).isEmpty = true := by
    rw [List.isEmpty_iff, List.eq_nil_iff_forall_not_mem]
    constructor
    · intro h m hm
      exact ColorModes.not_mem_empty (h ▸ mem_listedModes.2 hm)
    · intro h
      exact ColorModes.ext_mem fun m =>
        ⟨fun hm => absurd (mem_listedModes.1 hm) (h m), fun hm => absurd hm ColorModes.not_mem_empty⟩
  unfold Stated.toSource complaints
  simp only [bind, pure, Except.pure, throw, throwThe, MonadExceptOf.throw]
  -- the checks in their order; past the bounds their values are known, and the last two checks compare them
  refine fault?_guard hresolutions fun _ => fault?_guard hmodes fun _ => fault?_require rfl fun minWidth hminw =>
    fault?_require rfl fun minHeight hminh => fault?_require rfl fun maxWidth hmaxw =>
      fault?_require rfl fun maxHeight hmaxh => ?_
  rw [← List.append_nil (inverted kind xs .height .minHeight .maxHeight)]
  simp only [inverted, hminw, hminh, hmaxw, hmaxh]
  exact fault?_guard (by simp [Extent.isInverted]) fun _ => fault?_guard (by simp [Extent.isInverted]) fun _ => rfl

theorem statedBy_of_toSource {source : Source} (h : (Stated.nothing.also xs).toSource kind = .ok source) :
    StatedBy xs source := by
  obtain ⟨-, -, width, height, -, -, ⟨hminw, hminh, hmaxw, hmaxh⟩, rfl⟩ := toSource_eq_ok h
  exact {
    resolutions := fun r => mem_listedResolutions
    colorModes := fun m => mem_listedModes
    minWidth := hminw
    minHeight := hminh
    maxWidth := hmaxw
    maxHeight := hmaxh
    discrete := rfl
    formats := rfl
    xWindow := rfl
    yWindow := rfl }

/-- **The fields state one source.** -/
theorem StatedBy.unique {s t : Source} (hs : StatedBy xs s) (ht : StatedBy xs t) : s = t := by
  have hresolutions : s.resolutions = t.resolutions :=
    Resolutions.ext_mem fun r => (hs.resolutions r).trans (ht.resolutions r).symm
  have hmodes : s.colorModes = t.colorModes :=
    ColorModes.ext_mem fun m => (hs.colorModes m).trans (ht.colorModes m).symm
  have hminw : s.width.min = t.width.min := Option.some.inj (hs.minWidth.symm.trans ht.minWidth)
  have hminh : s.height.min = t.height.min := Option.some.inj (hs.minHeight.symm.trans ht.minHeight)
  have hmaxw : s.width.max = t.width.max := Option.some.inj (hs.maxWidth.symm.trans ht.maxWidth)
  have hmaxh : s.height.max = t.height.max := Option.some.inj (hs.maxHeight.symm.trans ht.maxHeight)
  obtain ⟨_, _, _, _, ⟨_, _⟩, ⟨_, _⟩, _, _⟩ := s
  obtain ⟨_, _, _, _, ⟨_, _⟩, ⟨_, _⟩, _, _⟩ := t
  obtain ⟨-, -, -, -, -, -, hdiscrete, hformats, hx, hy⟩ := hs
  obtain ⟨-, -, -, -, -, -, hdiscrete', hformats', hx', hy'⟩ := ht
  simp only at hresolutions hmodes hminw hminh hmaxw hmaxh hdiscrete hformats hx hy hdiscrete' hformats' hx' hy'
  subst hresolutions hmodes hminw hminh hmaxw hmaxh
  rw [hdiscrete, hformats, hx, hy, hdiscrete', hformats', hx', hy']

end

/-! ## The reader -/

/-- What is wrong with the element of a source, in the order in which it matters. -/
def sourceErrors (kind : SourceKind) (base : Path) (fault : Option Xml.Error) : Subtree → List DecodeError
  | .closed k => k.faults .malformedXml (partAt base SourceField.ofPath?) SourceField.faults (some base) ++
      complaints kind (k.parts base SourceField.ofPath?)
  | .cut t => t.faults .malformedXml (partAt base SourceField.ofPath?) fault SourceField.faults
      (fun _ => brokenField fault) (some base)

theorem brokenField_ne_nil (fault : Option Xml.Error) (own : Option Path) (t : Trunk) : brokenField fault own t ≠ [] :=
  fun h => Trunk.textFaults_ne_nil fault own t (List.map_eq_nil_iff.1 h)

/-- What the reading of a field that the document ends in fails with. -/
def brokenBy (fault : Option Xml.Error) (p : Path) (t : Trunk) : DecodeError :=
  (brokenField fault (some p) t).head (brokenField_ne_nil fault (some p) t)

theorem breaks_source (kind : SourceKind) (base : Path) (fault : Option Xml.Error) :
    Xml.Walk.Breaks .malformedXml (visitSource kind) (handling base SourceField.ofPath? (fieldItem kind) change) base fault
      (brokenBy fault) := by
  intro a rel t s c hpart hpath hrooted hfault hrest
  obtain ⟨field, hfield⟩ : ∃ field, SourceField.ofPath? rel = some field := by
    rw [handling, Xml.partAt_append, Option.isSome_map] at hpart
    exact Option.isSome_iff_exists.1 hpart
  obtain ⟨e, es, htext⟩ := List.exists_cons_of_ne_nil (Trunk.textFaults_ne_nil fault (some (base ++ rel)) t)
  have hbroken : brokenBy fault (base ++ rel) t = .malformedXml e := by simp [brokenBy, brokenField, htext]
  have hread : c.readText.1 = .error e := Xml.fault?_eq_some.1 (by
    rw [Cursor.readText_broken hrest hrooted, hfault, hpath, htext, List.head?_cons])
  have hrun : ∀ w : List Char → Reader Stated, (Xml.Walk.run .malformedXml (.text w) s c).ComesTo
      (.ofExcept (.error (brokenBy fault (base ++ rel) t))) := fun w => by
    rw [Xml.Walk.run_text_error hread, hbroken]
    exact Xml.Walk.Outcome.comesTo_error _ _ rfl _ _
  rw [visitSource, hfield]
  cases field with
  | quantity q => exact hrun _
  | colorEntry => exact hrun _

section

variable (kind : SourceKind) (path : Path) (fault : Option Xml.Error)

theorem fault?_sourceReport (k : Content) :
    fault? (sourceReport kind path k).result = (sourceErrors kind path fault (.closed k)).head? := by
  have hfields : fault? (statedReport kind path k).result =
      (k.faults .malformedXml (partAt path SourceField.ofPath?) SourceField.faults (some path)).head? :=
    Xml.report_faults (fault?_fieldItem kind) k path Stated.nothing
  refine Xml.fault?_andThen hfields fun stated h => ?_
  obtain ⟨-, -, rfl⟩ := statedReport_result.1 h
  exact fault?_toSource kind _

/-- **An element is read as a source** if nothing is wrong with it, and as the one that its fields state. -/
theorem sourceReport_eq_ok_iff (k : Content) (source : Source) :
    (sourceReport kind path k).result = .ok source ↔
      sourceErrors kind path fault (.closed k) = [] ∧ StatedBy (k.parts path SourceField.ofPath?) source := by
  have hfirst := fault?_sourceReport kind path fault k
  have hstated : ∀ s, (sourceReport kind path k).result = .ok s → StatedBy (k.parts path SourceField.ofPath?) s := by
    intro s h
    obtain ⟨stated, hfields, hs⟩ := Xml.Report.andThen_result.1 h
    obtain ⟨-, -, rfl⟩ := statedReport_result.1 hfields
    exact statedBy_of_toSource hs
  constructor
  · intro h
    rw [h] at hfirst
    exact ⟨List.head?_eq_none_iff.1 hfirst.symm, hstated source h⟩
  · rintro ⟨hnil, hsource⟩
    rw [hnil] at hfirst
    obtain ⟨s, hs⟩ := Xml.fault?_eq_none.1 hfirst
    rw [hs, (hstated s hs).unique hsource]

/-- What is stated in an element that the document ends in: nothing, for something is wrong. -/
def brokenReport (t : Trunk) : Reported Stated :=
  t.report .malformedXml fault (handling path SourceField.ofPath? (fieldItem kind) change) (brokenBy fault) path .nothing

theorem fault?_brokenReport (t : Trunk) :
    fault? (brokenReport kind path fault t).result = (sourceErrors kind path fault (.cut t)).head? :=
  Xml.cut_faults (fault?_fieldItem kind)
    (fun _ p t => List.head?_eq_some_head (brokenField_ne_nil fault (some p) t)) t path Stated.nothing

theorem sourceErrors_cut_ne_nil (t : Trunk) : sourceErrors kind path fault (.cut t) ≠ [] :=
  Trunk.faults_ne_nil (fun _ => brokenField_ne_nil fault) t (some path)

end

section

variable (kind : SourceKind) {c : Cursor} {path : Path} {parents : List Path} (s : Xml.Scope)

theorem readSource_closed {k : Content} {es : List Xml.Event} (ho : c.opened = path :: parents) (hr : c.rooted = true)
    (hrest : c.rest = k.events ++ .finish :: es) :
    (Xml.Walk.run .malformedXml (.within (readSource kind) .done) s c).result = (sourceReport kind path k).result := by
  have h := reads_source kind path Xml.Walk.still_done k s c parents es ho hr hrest
  rw [h.result]
  exact congrArg Xml.Report.result (Xml.Report.andThen_done _)

theorem readSource_cut {t : Trunk} (ho : c.opened = path :: parents) (hrest : c.rest = t.events) :
    ∃ e, (sourceErrors kind path c.fault (.cut t)).head? = some e ∧
      (Xml.Walk.run .malformedXml (.within (readSource kind) .done) s c).result = .error e := by
  have hpath : c.path = path := by rw [Cursor.path, ho]; rfl
  have hd : 0 < c.depth := by rw [Cursor.depth, ho]; exact Nat.succ_pos _
  have hvisits := Xml.Walk.delivers_cut (s := .within c) rfl (by rw [Xml.Scope.within, hpath]) (follows_source kind path)
    (breaks_source kind path c.fault) (.within c) c t Stated.nothing (c.rest.length + 1) c []
    (by rw [hpath, List.append_nil]) (Nat.le_refl _) hd rfl hrest (Nat.lt_succ_self _)
  rw [hpath] at hvisits
  obtain ⟨e, es, herrors⟩ := List.exists_cons_of_ne_nil (sourceErrors_cut_ne_nil kind path c.fault t)
  have hbroken : (brokenReport kind path c.fault t).result = .error e :=
    Xml.fault?_eq_some.1 (by rw [fault?_brokenReport, herrors, List.head?_cons])
  -- the visits fail, so nothing is judged
  have hinner : (Xml.Walk.run .malformedXml (readSource kind) (.within c) c).result = .error e := by
    rw [readSource, Xml.Walk.run, Xml.Walk.Outcome.andThen, hvisits.result.trans hbroken]
  refine ⟨e, by rw [herrors, List.head?_cons], ?_⟩
  rw [Xml.Walk.run, hinner]

end

/-- **A source is judged by its element**, of which the fields are spelt in two ways and the numbers as numerals of 32
bits: the reader fails with the first thing wrong with it, and if there is none, it results in the source that the fields
state. -/
theorem source_verdict (kind : SourceKind) {c₀ c : Cursor} {s s' : Xml.Scope} {path : Path}
    (hn : s.next c₀ = ⟨.ok (some path), s', c⟩) :
    (∀ p field, SourceField.ofPath? p = some field ↔
      ∃ spelling ∈ ["Platen", "ADF"], String.ofList p = "/scan:" ++ spelling ++ field.place) ∧
    (∀ text n, Decimal.unsigned? text = some n ↔ Decimal.Spells text n.toNat) ∧
    (∃ x : Subtree, x.StandsAt c) ∧ ∀ x : Subtree, x.StandsAt c →
      let result := (Xml.Walk.run .malformedXml (.within (readSource kind) .done) s' c).result
      (∀ e, result = .error e ↔ (sourceErrors kind path c.fault x).head? = some e) ∧
      (∀ source, result = .ok source ↔ sourceErrors kind path c.fault x = [] ∧
        ∃ k, x = .closed k ∧ StatedBy (k.parts path SourceField.ofPath?) source) := by
  obtain ⟨-, -, parents, -, hopened, hrooted, -⟩ := Xml.Scope.next_gave hn
  refine ⟨fun _ _ => SourceField.ofPath?_eq_some_iff, fun _ _ => Decimal.unsigned?_eq_some_iff,
    Subtree.exists_standsAt c, fun x hx => ?_⟩
  cases x with
  | closed k =>
    obtain ⟨es, hrest⟩ := hx
    simp only [readSource_closed kind s' hopened hrooted hrest]
    refine ⟨fun e => ?_, fun source => ?_⟩
    · rw [← fault?_sourceReport, Xml.fault?_eq_some]
    · rw [sourceReport_eq_ok_iff kind path c.fault]
      simp
  | cut t =>
    obtain ⟨e, hfirst, hread⟩ := readSource_cut kind s' hopened hx
    simp only [hread, hfirst]
    refine ⟨fun e' => by simp, fun source => ?_⟩
    simp

/-- Elements with nothing but a text in them. -/
def scanLeaves (leaves : List (String × String)) : Content := leaves.foldr (fun x rest => scanLeaf x.1 x.2 rest) .nil

/-- The front of a feeder, with fields in both spellings, some color tags and a largest size. -/
def mixedFront (tags : List String) (largest : List (String × String)) : Content :=
  scanElement "PlatenResolutions" (scanElement "Widths" (scanLeaves [("Width", "300"), ("Width", "600")]) .nil)
    (scanElement "ADFResolutions" (scanElement "Heights" (scanLeaf "Height" "300" .nil) .nil)
      (scanElement "PlatenColor" (scanLeaves (tags.map fun tag => ("ColorEntry", tag)))
        (frontSize "PlatenMinimumSize" "9" (scanElement "ADFMaximumSize" (scanLeaves largest) .nil))))

def mixedDocument (tags : List String) (largest : List (String × String)) : Bytes :=
  Utf8.encode (Xml.Markup.render
    (.element "s:ADFFront" [("xmlns:s", Xml.Vocabulary.scan)]
      [.element "s:PlatenResolutions" [] [.element "s:Widths" [] [.leaf "s:Width" "300", .leaf "s:Width" "600"]],
      .element "s:ADFResolutions" [] [.element "s:Heights" [] [.leaf "s:Height" "300"]],
      .element "s:PlatenColor" [] (tags.map fun tag => .leaf "s:ColorEntry" tag),
      .element "s:PlatenMinimumSize" [] [.leaf "s:Width" "9", .leaf "s:Height" "9"],
      .element "s:ADFMaximumSize" [] (largest.map fun x => .leaf ("s:" ++ x.1) x.2)]))

/-- A front in black and white, a bound of which is missing and two are the wrong way round. -/
def refusedFront : Content := mixedFront ["BlackAndWhite1", "CMYK32"] [("Width", "8")]

def refusedDocument : Bytes := mixedDocument ["BlackAndWhite1", "CMYK32"] [("Width", "8")]

/-- A front with all the color tags and one that nobody knows. -/
def colorfulFront : Content :=
  mixedFront ["RGB24", "CMYK32", "BlackAndWhite1", "Grayscale8"] [("Width", "9"), ("Height", "14")]

def colorfulDocument : Bytes :=
  mixedDocument ["RGB24", "CMYK32", "BlackAndWhite1", "Grayscale8"] [("Width", "9"), ("Height", "14")]

/-- What `colorfulFront` states: the resolution of both axes, and the modes without black and white. -/
def colorfulSource : Source where
  resolutions := .ofList [300]
  discrete := true
  colorModes := { blackAndWhite := false, grayscale := true, color := true }
  formats := ∅
  width := ⟨9, 9⟩
  height := ⟨9, 14⟩
  xWindow := .upTo 9 1000
  yWindow := .upTo 14 1000

/-- The root of a document, just given. -/
def atFront (front : Content) : Cursor := ⟨front.events ++ [.finish], none, ["scan:ADFFront".toList], true⟩

theorem colorfulFront_states :
    StatedBy (colorfulFront.parts "scan:ADFFront".toList SourceField.ofPath?) colorfulSource := by
  obtain ⟨hresolutions, hmodes, hminw, hminh, hmaxw, hmaxh⟩ :
      let xs := colorfulFront.parts "scan:ADFFront".toList SourceField.ofPath?
      listedResolutions xs = [300] ∧ listedModes xs = [.color, .grayscale] ∧
        firstOf? xs .minWidth = some 9 ∧ firstOf? xs .minHeight = some 9 ∧
        firstOf? xs .maxWidth = some 9 ∧ firstOf? xs .maxHeight = some 14 := by
    decide +kernel
  refine ⟨fun r => ?_, fun m => ?_, hminw, hminh, hmaxw, hmaxh, rfl, rfl, rfl, rfl⟩
  · rw [hresolutions]
    exact Resolutions.mem_ofList
  · rw [hmodes]
    cases m <;> decide

/-- The first front is refused for its modes, before anything else that is wrong with it; the second one is accepted,
in grayscale and in color. -/
theorem mixedFront_verdict :
    (∃ s, Xml.Scope.next .document (.ofBytes refusedDocument) =
        ⟨.ok (some "scan:ADFFront".toList), s, atFront refusedFront⟩ ∧
      sourceErrors .adfSimplex "scan:ADFFront".toList none (.closed refusedFront) =
        [.noColorModes .adfSimplex, .missingBound .adfSimplex .maxHeight, .invertedRange .adfSimplex .width] ∧
      (Xml.Walk.run .malformedXml (.within (readSource .adfSimplex) .done) s (atFront refusedFront)).result =
        .error (.noColorModes .adfSimplex)) ∧
    ∃ s, Xml.Scope.next .document (.ofBytes colorfulDocument) =
        ⟨.ok (some "scan:ADFFront".toList), s, atFront colorfulFront⟩ ∧
      sourceErrors .adfSimplex "scan:ADFFront".toList none (.closed colorfulFront) = [] ∧
      (Xml.Walk.run .malformedXml (.within (readSource .adfSimplex) .done) s (atFront colorfulFront)).result =
        .ok colorfulSource := by
  have hbegin : Cursor.ofBytes refusedDocument = ⟨(scanElement "ADFFront" refusedFront .nil).events, none, [], false⟩ ∧
      Cursor.ofBytes colorfulDocument = ⟨(scanElement "ADFFront" colorfulFront .nil).events, none, [], false⟩ := by
    decide +kernel
  have hgave : ∀ front, Xml.Scope.next .document ⟨(scanElement "ADFFront" front .nil).events, none, [], false⟩ =
      ⟨.ok (some "scan:ADFFront".toList), .document, atFront front⟩ := fun front => rfl
  have herrors : sourceErrors .adfSimplex "scan:ADFFront".toList none (.closed refusedFront) =
        [.noColorModes .adfSimplex, .missingBound .adfSimplex .maxHeight, .invertedRange .adfSimplex .width] ∧
      sourceErrors .adfSimplex "scan:ADFFront".toList none (.closed colorfulFront) = [] := by
    decide +kernel
  have hrefused := hgave refusedFront
  have hcolorful := hgave colorfulFront
  obtain ⟨-, -, -, hverdict⟩ := source_verdict .adfSimplex hrefused
  obtain ⟨-, -, -, hverdict'⟩ := source_verdict .adfSimplex hcolorful
  refine ⟨⟨_, hbegin.1 ▸ hrefused, herrors.1, ?_⟩, _, hbegin.2 ▸ hcolorful, herrors.2, ?_⟩
  · exact ((hverdict (.closed refusedFront) ⟨[], rfl⟩).1 _).2 (by rw [atFront, herrors.1, List.head?_cons])
  · exact ((hverdict' (.closed colorfulFront) ⟨[], rfl⟩).2 _).2 ⟨herrors.2, _, rfl, colorfulFront_states⟩

end ScanDiscovery.Response
