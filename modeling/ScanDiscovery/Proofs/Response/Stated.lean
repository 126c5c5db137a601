import ScanDiscovery.Proofs.Response.Configuration
/-!
# Proofs.Response.Stated — what a source states, read off its fields

While the element of a source is read, its fields change what was stated one after the other; at the end that is, for
each quantity, the numbers of its fields in document order, of which a bound takes the first, and the modes of the known
color tags (`foldl_change`).  So an element is read as a source exactly if its fields are legible and what they state
can be judged to be one (`sourceIn_iff`), and the verdict does not depend on the order of resolutions
(`toSource_congr`).  Specification only.
-/
namespace ScanDiscovery.Response

open Device
open Xml (Content Path isPart)

/-- The numbers that some fields state of a quantity, in document order. -/
def numbersOf (q : Quantity) (xs : List (SourceField × Content)) : List UInt32 :=
  xs.filterMap fun x => if x.1 = .quantity q then x.2.value.toOption.bind Decimal.unsigned? else none

/-- The color tags that are known, and what they stand for. -/
def colorTags : List (String × ColorMode) :=
  [("BlackAndWhite1", .blackAndWhite), ("Grayscale8", .grayscale), ("RGB24", .color)]

/-- The modes of the known tags among some fields, in document order. -/
def modesOf (xs : List (SourceField × Content)) : List ColorMode :=
  xs.filterMap fun x =>
    if x.1 = .colorEntry then x.2.value.toOption.bind fun t => colorTags.lookup (String.ofList t) else none

theorem lookup_colorTags (tag : List Char) :
    colorTags.lookup (String.ofList tag) = ColorMode.ofTag? (String.ofList tag) := by
  refine Option.ext fun m => ?_
  rw [ColorMode.ofTag?_eq_some_iff, ofList_eq_iff]
  exact lookup_paths ColorMode.all ColorMode.tag ColorMode.mem_all ColorMode.tag_injective

namespace Stated

/-- What was stated, and what some fields state after it. -/
def also (s : Stated) (xs : List (SourceField × Content)) : Stated where
  widths := s.widths ++ numbersOf .resolutionWidth xs
  heights := s.heights ++ numbersOf .resolutionHeight xs
  colorModes := s.colorModes ∪ .ofPred fun m => m ∈ modesOf xs
  minWidth := s.minWidth.or (numbersOf .minWidth xs).head?
  minHeight := s.minHeight.or (numbersOf .minHeight xs).head?
  maxWidth := s.maxWidth.or (numbersOf .maxWidth xs).head?
  maxHeight := s.maxHeight.or (numbersOf .maxHeight xs).head?

theorem also_nil (s : Stated) : s.also [] = s := by
  have hmodes : s.colorModes ∪ ColorModes.ofPred (fun m => m ∈ modesOf []) = s.colorModes :=
    ColorModes.ext_mem fun m => by rw [ColorModes.mem_union]; simp [ColorModes.mem_iff, modesOf]
  simp [also, numbersOf, hmodes]

/-- What was stated, and a color tag after it. -/
def hear (s : Stated) (tag : List Char) : Stated :=
  match ColorMode.ofTag? (String.ofList tag) with
  | some m => s.addMode m
  | none => s

end Stated

/-! ## One field -/

section

variable {kind : SourceKind} {k : Content} {xs : List (SourceField × Content)}

theorem fieldItem_quantity {q : Quantity} {f : Stated → Stated} :
    (fieldItem kind (.quantity q) k).result = .ok f ↔
      ∃ t n, k.value = .ok t ∧ number q.label t = .ok n ∧ f = fun s => s.add q n := by
  rw [fieldItem, Xml.Report.andThen_result]
  simp only [textItem_result, Xml.Report.ofExcept, Xml.map_eq_ok, eq_comm (a := f)]
  constructor
  · rintro ⟨t, ht, n, hn, hf⟩
    exact ⟨t, n, ht, hn, hf⟩
  · rintro ⟨t, n, ht, hn, hf⟩
    exact ⟨t, ht, n, hn, hf⟩

theorem fieldItem_colorEntry {f : Stated → Stated} :
    (fieldItem kind .colorEntry k).result = .ok f ↔ ∃ t, k.value = .ok t ∧ f = fun s => s.hear t := by
  rw [fieldItem, Xml.Report.andThen_result]
  refine exists_congr fun t => ?_
  rw [textItem_result]
  refine and_congr_right fun _ => ?_
  unfold Stated.hear
  cases ColorMode.ofTag? (String.ofList t) with
  | none => exact ⟨fun h => (Except.ok.inj h).symm, fun h => congrArg Except.ok h.symm⟩
  | some m => exact ⟨fun h => (Except.ok.inj h).symm, fun h => congrArg Except.ok h.symm⟩

theorem also_quantity (s : Stated) {q : Quantity} {t : List Char} {n : UInt32} (ht : k.value = .ok t)
    (hn : number q.label t = .ok n) : s.also ((.quantity q, k) :: xs) = (s.add q n).also xs := by
  have hnumbers : ∀ other, numbersOf other ((.quantity q, k) :: xs) =
      if q = other then n :: numbersOf other xs else numbersOf other xs := by
    intro other
    by_cases he : q = other
    · subst he
      simp [numbersOf, ht, number_eq_ok.1 hn, Except.toOption]
    · simp [numbersOf, he]
  have hmodes : modesOf ((.quantity q, k) :: xs) = modesOf xs := by simp [modesOf]
  have hfirst : ∀ (known o : Option UInt32), known.or (some n) = (orElseFirst known n).or o := by
    intro known o
    cases known <;> rfl
  cases q <;> simp [Stated.also, Stated.add, hnumbers, hmodes, ← hfirst]

theorem also_colorEntry (s : Stated) {t : List Char} (ht : k.value = .ok t) :
    s.also ((.colorEntry, k) :: xs) = (s.hear t).also xs := by
  have hnumbers : ∀ q, numbersOf q ((.colorEntry, k) :: xs) = numbersOf q xs := fun q => by simp [numbersOf]
  cases h : ColorMode.ofTag? (String.ofList t) with
  | none =>
    have hmodes : modesOf ((.colorEntry, k) :: xs) = modesOf xs := by
      simp [modesOf, ht, lookup_colorTags, h, Except.toOption]
    simp [Stated.also, Stated.hear, hnumbers, hmodes, h]
  | some m =>
    have hmodes : modesOf ((.colorEntry, k) :: xs) = m :: modesOf xs := by
      simp [modesOf, ht, lookup_colorTags, h, Except.toOption]
    have hadd : s.colorModes ∪ ColorModes.ofPred (fun m' => m' ∈ m :: modesOf xs) =
        s.colorModes ∪ {m} ∪ ColorModes.ofPred fun m' => m' ∈ modesOf xs :=
      ColorModes.ext_mem fun m' => by
        rw [ColorModes.mem_union, ColorModes.mem_union, ColorModes.mem_union, ColorModes.mem_singleton, or_assoc]
        simp [ColorModes.mem_iff]
    simp only [Stated.also, Stated.hear, Stated.addMode, hnumbers, hmodes, h, hadd]

end

/-! ## All fields -/

/-- **What the fields of a source state**, once they are read without failing. -/
theorem foldl_change {kind : SourceKind} : ∀ (xs : List (SourceField × Content)) (s : Stated),
    (∀ x ∈ xs, ∃ f, (fieldItem kind x.1 x.2).result = .ok f) →
      (xs.filterMap fun x => (fieldItem kind x.1 x.2).result.toOption).foldl change s = s.also xs
  | [], s, _ => s.also_nil.symm
  | (field, k) :: xs, s, h => by
    obtain ⟨f, hf⟩ := h _ List.mem_cons_self
    have ih := foldl_change xs (f s) fun x hx => h x (List.mem_cons_of_mem _ hx)
    rw [List.filterMap_cons_some (show _ = some f by rw [hf]; rfl), List.foldl_cons, change, ih]
    cases field with
    | quantity q =>
      obtain ⟨t, n, ht, hn, rfl⟩ := fieldItem_quantity.1 hf
      exact (also_quantity s ht hn).symm
    | colorEntry =>
      obtain ⟨t, ht, rfl⟩ := fieldItem_colorEntry.1 hf
      exact (also_colorEntry s ht).symm

theorem exists_change {kind : SourceKind} {field : SourceField} {k : Content} :
    (∃ f, (fieldItem kind field k).result = .ok f) ↔
      ∃ t, k.value = .ok t ∧ ∀ q, field = .quantity q → ∃ n, number q.label t = .ok n := by
  cases field with
  | quantity q =>
    simp only [fieldItem_quantity, SourceField.quantity.injEq, forall_eq']
    constructor
    · rintro ⟨_, t, n, ht, hn, -⟩
      exact ⟨t, ht, n, hn⟩
    · rintro ⟨t, ht, n, hn⟩
      exact ⟨_, t, n, ht, hn, rfl⟩
  | colorEntry =>
    simp only [fieldItem_colorEntry, reduceCtorEq, false_implies, implies_true, and_true]
    constructor
    · rintro ⟨_, t, ht, -⟩
      exact ⟨t, ht⟩
    · rintro ⟨t, ht⟩
      exact ⟨_, t, ht, rfl⟩

theorem statedReport_result {kind : SourceKind} {base : Path} {k : Content} {stated : Stated} :
    (statedReport kind base k).result = .ok stated ↔
      k.Clear (isPart base SourceField.ofPath?) base ∧
        (∀ x ∈ k.parts base SourceField.ofPath?, ∃ f, (fieldItem kind x.1 x.2).result = .ok f) ∧
        stated = Stated.nothing.also (k.parts base SourceField.ofPath?) := by
  rw [Xml.Report.result_eq_ok, statedReport]
  simp only [Content.report_handling_eq_ok (apart_source base)]
  constructor
  · rintro ⟨_, hc, hx, -, hst⟩
    exact ⟨hc, hx, hst.trans (foldl_change _ _ hx)⟩
  · rintro ⟨hc, hx, hst⟩
    exact ⟨_, hc, hx, rfl, hst.trans (foldl_change _ _ hx).symm⟩

/-- **An element that is read as a source**: its names and its fields are legible, and what they state is a source. -/
theorem sourceIn_iff {kind : SourceKind} {k : Content} {s : Source} :
    sourceIn kind k = .ok s ↔
      k.Clear (isPart (partPath (.source kind)) SourceField.ofPath?) (partPath (.source kind)) ∧
        (∀ x ∈ fieldsIn kind k, ∃ t, x.2.value = .ok t ∧ ∀ q, x.1 = .quantity q → ∃ n, number q.label t = .ok n) ∧
        (Stated.nothing.also (fieldsIn kind k)).toSource kind = .ok s := by
  rw [sourceIn_eq, sourceReport, Xml.Report.andThen_result]
  simp only [statedReport_result, exists_change, Xml.Report.ofExcept]
  constructor
  · rintro ⟨_, ⟨hc, hx, rfl⟩, hs⟩
    exact ⟨hc, hx, hs⟩
  · rintro ⟨hc, hx, hs⟩
    exact ⟨_, ⟨hc, hx, rfl⟩, hs⟩

/-! ## The verdict -/

/-- **The verdict on what was stated** depends on the resolutions as sets. -/
theorem toSource_congr {s t : Stated} (hw : ∀ n, n ∈ s.widths ↔ n ∈ t.widths) (hh : ∀ n, n ∈ s.heights ↔ n ∈ t.heights)
    (hc : s.colorModes = t.colorModes) (hminw : s.minWidth = t.minWidth) (hminh : s.minHeight = t.minHeight)
    (hmaxw : s.maxWidth = t.maxWidth) (hmaxh : s.maxHeight = t.maxHeight) (kind : SourceKind) :
    s.toSource kind = t.toSource kind := by
  have hwidths : Resolutions.ofList s.widths = Resolutions.ofList t.widths :=
    Resolutions.ext_mem fun n => by rw [Resolutions.mem_ofList, Resolutions.mem_ofList, hw]
  have hheights : Resolutions.ofList s.heights = Resolutions.ofList t.heights :=
    Resolutions.ext_mem fun n => by rw [Resolutions.mem_ofList, Resolutions.mem_ofList, hh]
  unfold Stated.toSource
  rw [hwidths, hheights, hc, hminw, hminh, hmaxw, hmaxh]

end ScanDiscovery.Response
