import ScanDiscovery.Proofs.Response.Soundness
/-!
# Proofs.Response.Configuration — what a configuration says, whatever the order of its parts

The parts of a configuration may come in any order and number.  What they say together is read off by kind: all the
formats there are, the last word on double-sided scanning, the sources of a kind in their order (`saids_of_part`).  And
what the findings make of the slots is read off by kind as well: the first source of each stays.  Specification only.
-/
namespace ScanDiscovery.Response

open Device
open Xml (Content Path isPart)

/-! ## What stands in an element -/

/-- The texts of the elements at a path. -/
def textsAt (base : Path) (path : String) (k : Content) : List (List Char) :=
  (k.contentsAt base path).filterMap fun e => e.value.toOption

theorem parts_single (base : Path) (path : String) (k : Content) :
    (k.parts base (single path)).map (·.2) = k.contentsAt base path := by
  rw [Content.contentsAt_eq_parts (fun _ => single_eq_some_iff (u := ())) k]
  simp

theorem textItem_result {k : Content} {t : List Char} : (textItem k).result = .ok t ↔ k.value = .ok t := by
  rw [textItem]
  cases k.value <;> simp [Xml.Report.ofExcept, Except.mapError]

theorem formatItem_result {u : Unit} {k : Content} {t : List Char} :
    (formatItem u k).result = .ok t ↔ k.value = .ok t := by
  rw [formatItem, Xml.Report.andThen_result]
  simp only [textItem_result, Except.ok.injEq, exists_eq_right]

theorem nameItem_result {u : Unit} {k : Content} {t : List Char} : (nameItem u k).result = .ok t ↔ k.value = .ok t := by
  rw [nameItem, Xml.Report.andThen_result]
  simp only [textItem_result, Except.ok.injEq, exists_eq_right]

theorem number_eq_ok {element : String} {t : List Char} {n : UInt32} :
    number element t = .ok n ↔ Decimal.unsigned? t = some n := by
  unfold number
  cases Decimal.unsigned? t <;> simp

theorem toOption_congr {ε ε' α : Type} {x : Except ε α} {y : Except ε' α} (h : ∀ a, x = .ok a ↔ y = .ok a) :
    x.toOption = y.toOption := by
  cases x with
  | ok a => rw [(h a).1 rfl]; rfl
  | error e =>
    cases y with
    | error e' => rfl
    | ok a => cases (h a).2 rfl

theorem texts_of_parts (base : Path) (path : String) (k : Content) {item : Unit → Content → Reported (List Char)}
    (hitem : ∀ u e t, (item u e).result = .ok t ↔ e.value = .ok t) :
    ((∀ x ∈ k.parts base (single path), ∃ t, (item x.1 x.2).result = .ok t) ↔
        ∀ e ∈ k.contentsAt base path, ∃ t, e.value = .ok t) ∧
      (k.parts base (single path)).filterMap (fun x => (item x.1 x.2).result.toOption) = textsAt base path k := by
  rw [textsAt, ← parts_single, List.filterMap_map]
  constructor
  · simp only [List.forall_mem_map, hitem]
  · congr 1
    funext x
    exact toOption_congr (hitem x.1 x.2)

theorem formatsReport_result {base : Path} {k : Content} {formats : Formats} :
    (formatsReport base k).result = .ok formats ↔
      k.Clear (isPart base (single formatPath)) base ∧ (∀ e ∈ k.contentsAt base formatPath, ∃ t, e.value = .ok t) ∧
        formats = (textsAt base formatPath k).foldl addTag ∅ := by
  obtain ⟨h1, h2⟩ := texts_of_parts base formatPath k (fun u e t => formatItem_result (u := u))
  rw [Xml.Report.result_eq_ok, formatsReport]
  simp only [Content.report_handling_eq_ok (apart_format base), h1, h2]
  constructor
  · rintro ⟨_, hc, hv, -, hf⟩
    exact ⟨hc, hv, hf⟩
  · rintro ⟨hc, hv, hf⟩
    exact ⟨_, hc, hv, rfl, hf⟩

/-! ## Sources -/

/-- The source that an element of this kind with this content is read as, by itself. -/
def sourceIn (kind : SourceKind) (k : Content) : Except DecodeError Source :=
  (Xml.Walk.run .malformedXml (.within (readSource kind) .done) .document
    ⟨k.events ++ [.finish], none, [partPath (.source kind)], true⟩).result

theorem sourceIn_eq (kind : SourceKind) (k : Content) :
    sourceIn kind k = (sourceReport kind (partPath (.source kind)) k).result := by
  have h := reads_source kind (partPath (.source kind)) Xml.Walk.still_done k .document
    ⟨k.events ++ [.finish], none, [partPath (.source kind)], true⟩ [] [] rfl rfl rfl
  rw [sourceIn, h.result]
  exact congrArg Xml.Report.result (Xml.Report.andThen_done _)

/-- The fields of the element of a source. -/
abbrev fieldsIn (kind : SourceKind) (k : Content) : List (SourceField × Content) :=
  k.parts (partPath (.source kind)) SourceField.ofPath?

/-- **A source that is read without failing**: every name on the way and every text is one, and every number is. -/
theorem legible_of_sourceIn {kind : SourceKind} {k : Content} {s : Source} (h : sourceIn kind k = .ok s) :
    k.Clear (isPart (partPath (.source kind)) SourceField.ofPath?) (partPath (.source kind)) ∧
      ∀ x ∈ fieldsIn kind k, ∃ t, x.2.value = .ok t ∧ ∀ q, x.1 = .quantity q → ∃ n, number q.label t = .ok n := by
  rw [sourceIn_eq, sourceReport, Xml.Report.andThen_result] at h
  obtain ⟨stated, h, -⟩ := h
  obtain ⟨fs, h⟩ := Xml.Report.result_eq_ok.1 h
  rw [statedReport, Content.report_handling_eq_ok (apart_source _)] at h
  obtain ⟨hc, hx, -, -⟩ := h
  refine ⟨hc, fun x hm => ?_⟩
  obtain ⟨f, hf⟩ := hx x hm
  obtain ⟨field, e⟩ := x
  cases field with
  | quantity q =>
    obtain ⟨t, ht, hn⟩ := Xml.Report.andThen_result.1 hf
    refine ⟨t, textItem_result.1 ht, fun q' hq => ?_⟩
    cases hq
    cases hnum : number q.label t with
    | error e =>
      rw [hnum] at hn
      cases hn
    | ok n => exact ⟨n, rfl⟩
  | colorEntry =>
    obtain ⟨t, ht, -⟩ := Xml.Report.andThen_result.1 hf
    exact ⟨t, textItem_result.1 ht, fun q hq => by cases hq⟩

/-! ## By kind -/

theorem contentsAt_part (part : ConfigurationPart) (k : Content) :
    k.contentsAt configurationPath.toList part.path =
      ((k.parts configurationPath.toList ConfigurationPart.ofPath?).filter (·.1 = part)).map (·.2) :=
  Content.contentsAt_eq_parts (fun _ => ConfigurationPart.ofPath?_eq_some_iff) k

theorem partItem_formats {k : Content} {said : Said} :
    (partItem .formats k).result = .ok said ↔
      ∃ formats, (formatsReport (partPath .formats) k).result = .ok formats ∧ said = .formats formats := by
  rw [partItem, Xml.Report.andThen_result]
  simp only [Xml.Report.done, Except.ok.injEq, eq_comm]

theorem partItem_kind {kind : SourceKind} {k : Content} {said : Said} :
    (partItem (.source kind) k).result = .ok said ↔ ∃ s, sourceIn kind k = .ok s ∧ said = .source kind s := by
  rw [partItem, Xml.Report.andThen_result, sourceIn_eq]
  simp only [Except.ok.injEq, eq_comm]

theorem partItem_duplex {k : Content} {said : Said} :
    (partItem .duplex k).result = .ok said ↔ ∃ t, k.value = .ok t ∧ said = .duplex (isTrue t) := by
  rw [partItem, Xml.Report.andThen_result]
  simp only [textItem_result, Xml.Report.done, Except.ok.injEq, eq_comm (a := said)]

/-- What the parts of a configuration say, those left out that are not read. -/
def saids (xs : List (ConfigurationPart × Content)) : List Said :=
  xs.filterMap fun x => (partItem x.1 x.2).result.toOption

/-- **What is said of one kind is said by the parts of that kind**, in their order. -/
theorem saids_of_part {τ : Type} {part : ConfigurationPart} {g : Said → Option τ} {h : Content → Option τ}
    (hg : ∀ other k said, (partItem other k).result = .ok said → g said = if other = part then h k else none) :
    ∀ {xs : List (ConfigurationPart × Content)}, (∀ x ∈ xs, ∃ said, (partItem x.1 x.2).result = .ok said) →
      (saids xs).filterMap g = ((xs.filter (·.1 = part)).map (·.2)).filterMap h
  | [], _ => rfl
  | (other, k) :: xs, hok => by
    obtain ⟨said, hsaid⟩ := hok _ List.mem_cons_self
    have ih := saids_of_part hg fun x hx => hok x (List.mem_cons_of_mem _ hx)
    have hs : saids ((other, k) :: xs) = said :: saids xs := by
      rw [saids, List.filterMap_cons_some (show _ = some said by rw [hsaid]; rfl)]
      rfl
    have hgs := hg other k said hsaid
    rw [hs]
    by_cases he : other = part
    · rw [if_pos he] at hgs
      rw [List.filter_cons_of_pos (by simpa using he), List.map_cons]
      cases hh : h k with
      | none => rw [List.filterMap_cons_none (hgs.trans hh), List.filterMap_cons_none hh, ih]
      | some t => rw [List.filterMap_cons_some (hgs.trans hh), List.filterMap_cons_some hh, ih]
    · rw [if_neg he] at hgs
      rw [List.filter_cons_of_neg (by simpa using he), List.filterMap_cons_none hgs, ih]

/-- The sources of a kind. -/
def Said.source? (kind : SourceKind) : Said → Option Source
  | .source other s => if other = kind then some s else none
  | _ => none

def Said.formats? : Said → Option Formats
  | .formats fs => some fs
  | _ => none

def Said.duplex? : Said → Option Bool
  | .duplex yes => some yes
  | _ => none

theorem source?_of_part (kind : SourceKind) (other : ConfigurationPart) (k : Content) (said : Said)
    (h : (partItem other k).result = .ok said) :
    said.source? kind = if other = .source kind then (sourceIn kind k).toOption else none := by
  cases other with
  | formats =>
    obtain ⟨formats, -, rfl⟩ := partItem_formats.1 h
    rfl
  | source other =>
    obtain ⟨s, hs, rfl⟩ := partItem_kind.1 h
    by_cases he : other = kind
    · subst he
      simp [Said.source?, hs, Except.toOption]
    · simp [Said.source?, he]
  | duplex =>
    obtain ⟨t, -, rfl⟩ := partItem_duplex.1 h
    rfl

theorem formats?_of_part (other : ConfigurationPart) (k : Content) (said : Said)
    (h : (partItem other k).result = .ok said) :
    said.formats? = if other = .formats then (formatsReport (partPath .formats) k).result.toOption else none := by
  cases other with
  | formats =>
    obtain ⟨formats, hf, rfl⟩ := partItem_formats.1 h
    rw [if_pos rfl, hf]
    rfl
  | source other =>
    obtain ⟨s, -, rfl⟩ := partItem_kind.1 h
    rfl
  | duplex =>
    obtain ⟨t, -, rfl⟩ := partItem_duplex.1 h
    rfl

theorem duplex?_of_part (other : ConfigurationPart) (k : Content) (said : Said)
    (h : (partItem other k).result = .ok said) :
    said.duplex? = if other = .duplex then k.value.toOption.map isTrue else none := by
  cases other with
  | formats =>
    obtain ⟨formats, -, rfl⟩ := partItem_formats.1 h
    rfl
  | source other =>
    obtain ⟨s, -, rfl⟩ := partItem_kind.1 h
    rfl
  | duplex =>
    obtain ⟨t, ht, rfl⟩ := partItem_duplex.1 h
    rw [if_pos rfl, ht]
    rfl

/-! ## The overview -/

theorem formats_foldl_hear {f : Format} : ∀ (l : List Said) (o : Overview),
    f ∈ (l.foldl .hear o).formats ↔ f ∈ o.formats ∨ ∃ formats ∈ l.filterMap Said.formats?, f ∈ formats
  | [], o => by simp
  | .formats formats :: l, o => by
    rw [List.foldl_cons, formats_foldl_hear l]
    simp [Overview.hear, Said.formats?, or_assoc]
  | .source kind s :: l, o => by
    rw [List.foldl_cons, formats_foldl_hear l]
    cases kind <;> simp [Overview.hear, Overview.addSource, Said.formats?]
  | .duplex yes :: l, o => by
    rw [List.foldl_cons, formats_foldl_hear l]
    simp [Overview.hear, Said.formats?]

/-- **The last word on double-sided scanning counts.** -/
theorem duplex_foldl_hear : ∀ (l : List Said) (o : Overview),
    (l.foldl .hear o).duplex = (l.filterMap Said.duplex?).getLast?.getD o.duplex
  | [], o => rfl
  | .formats formats :: l, o => duplex_foldl_hear l _
  | .source kind s :: l, o => by
    rw [List.foldl_cons, duplex_foldl_hear l]
    cases kind <;> rfl
  | .duplex yes :: l, o => by
    rw [List.foldl_cons, duplex_foldl_hear l,
      List.filterMap_cons_some (show Said.duplex? (.duplex yes) = some yes from rfl), List.getLast?_cons]
    rfl

theorem mem_foldl_addTag {f : Format} : ∀ (tags : List (List Char)) (formats : Formats),
    f ∈ tags.foldl addTag formats ↔ f ∈ formats ∨ ∃ tag ∈ tags, Format.ofTag? (String.ofList tag) = some f
  | [], formats => by simp
  | tag :: tags, formats => by
    rw [List.foldl_cons, mem_foldl_addTag tags]
    unfold addTag
    cases h : Format.ofTag? (String.ofList tag) with
    | none => simp [h]
    | some g => simp [h, or_assoc, eq_comm]

/-! ## The slots -/

/-- The sources among some findings. -/
def found : List Finding → List (SourceKind × Source)
  | [] => []
  | .source kind s :: fs => (kind, s) :: found fs
  | _ :: fs => found fs

/-- The first source of each kind, where the slot is empty. -/
def fill (caps : Capabilities) (l : List (SourceKind × Source)) : Capabilities :=
  l.foldl (fun c x => c.insert x.1 x.2) caps

theorem absorb_part : ∀ (gs : List Finding) (caps : Capabilities), (∀ f ∈ gs, f.OfPart) →
    absorb caps gs = .ok (fill caps (found gs))
  | [], caps, _ => rfl
  | f :: gs, caps, h => by
    have hrest := fun c => absorb_part gs c fun g hg => h g (List.mem_cons_of_mem _ hg)
    rw [absorb]
    cases f with
    | unknownFormat tag => exact hrest caps
    | unknownColor kind tag => exact hrest caps
    | source kind s =>
      rw [Finding.apply, commitSource_toExcept]
      exact hrest _
    | named name => exact (h _ List.mem_cons_self).elim
    | configured o => exact (h _ List.mem_cons_self).elim

theorem fill_eq (caps : Capabilities) (l : List (SourceKind × Source)) :
    fill caps l = { caps with
      flatbed := caps.flatbed.or ((l.find? (·.1 = .flatbed)).map (·.2))
      adfSimplex := caps.adfSimplex.or ((l.find? (·.1 = .adfSimplex)).map (·.2))
      adfDuplex := caps.adfDuplex.or ((l.find? (·.1 = .adfDuplex)).map (·.2)) } := by
  induction l generalizing caps with
  | nil =>
    obtain ⟨_, _, _, _, f, s, d, _⟩ := caps
    cases f <;> cases s <;> cases d <;> rfl
  | cons x l ih =>
    obtain ⟨kind, t⟩ := x
    rw [fill, List.foldl_cons, ← fill, ih]
    obtain ⟨_, _, _, _, f, s, d, _⟩ := caps
    cases kind with
    | flatbed => cases f <;> rfl
    | adfSimplex => cases s <;> rfl
    | adfDuplex => cases d <;> rfl

theorem found_append : ∀ fs gs : List Finding, found (fs ++ gs) = found fs ++ found gs
  | [], gs => rfl
  | f :: fs, gs => by
    have ih := found_append fs gs
    cases f with
    | source kind s => exact congrArg ((kind, s) :: ·) ih
    | named name => exact ih
    | unknownFormat tag => exact ih
    | unknownColor kind tag => exact ih
    | configured o => exact ih

theorem found_tags : ∀ fs : List Finding, (∀ f ∈ fs, f.IsTag) → found fs = []
  | [], _ => rfl
  | f :: fs, h => by
    have ih := found_tags fs fun g hg => h g (List.mem_cons_of_mem _ hg)
    cases f with
    | source kind s => exact (h _ List.mem_cons_self).elim
    | named name => exact ih
    | unknownFormat tag => exact ih
    | unknownColor kind tag => exact ih
    | configured o => exact ih

def Said.pair? : Said → Option (SourceKind × Source)
  | .source kind s => some (kind, s)
  | _ => none

theorem found_partItem {part : ConfigurationPart} {k : Content} {said : Said}
    (h : (partItem part k).result = .ok said) :
    found (partItem part k).findings = said.pair?.toList := by
  cases part with
  | formats =>
    obtain ⟨formats, hf, rfl⟩ := partItem_formats.1 h
    rw [partItem, Xml.Report.andThen_findings hf, found_append, found_tags _ (formatsReport_findings _ k)]
    rfl
  | source kind =>
    obtain ⟨s, hs, rfl⟩ := partItem_kind.1 h
    rw [sourceIn_eq] at hs
    rw [partItem, Xml.Report.andThen_findings hs, found_append, found_tags _ (sourceReport_findings kind _ k)]
    rfl
  | duplex =>
    obtain ⟨t, ht, rfl⟩ := partItem_duplex.1 h
    rw [partItem, Xml.Report.andThen_findings (textItem_result.2 ht)]
    rfl

theorem found_parts : ∀ {xs : List (ConfigurationPart × Content)},
    (∀ x ∈ xs, ∃ said, (partItem x.1 x.2).result = .ok said) →
      found (xs.flatMap fun x => (partItem x.1 x.2).findings) = (saids xs).filterMap Said.pair?
  | [], _ => rfl
  | x :: xs, h => by
    obtain ⟨said, hsaid⟩ := h x List.mem_cons_self
    rw [List.flatMap_cons, found_append, found_partItem hsaid, found_parts fun y hy => h y (List.mem_cons_of_mem _ hy),
      saids, saids, List.filterMap_cons_some (show _ = some said by rw [hsaid]; rfl)]
    cases hp : said.pair? with
    | none => rw [List.filterMap_cons_none hp]; rfl
    | some y => rw [List.filterMap_cons_some hp]; rfl

theorem find?_pairs (kind : SourceKind) : ∀ l : List Said,
    ((l.filterMap Said.pair?).find? (·.1 = kind)).map (·.2) = (l.filterMap (Said.source? kind)).head?
  | [] => rfl
  | said :: l => by
    have ih := find?_pairs kind l
    cases said with
    | formats fs => exact ih
    | source other s =>
      rw [List.filterMap_cons_some (show Said.pair? (.source other s) = some (other, s) from rfl), List.find?_cons]
      by_cases he : other = kind
      · rw [List.filterMap_cons_some (show Said.source? kind (.source other s) = some s from if_pos he)]
        simp [he]
      · rw [List.filterMap_cons_none (show Said.source? kind (.source other s) = none from if_neg he)]
        simpa [he] using ih
    | duplex yes => exact ih

/-! ## A configuration as a whole -/

/-- The sources of a kind that a configuration lists. -/
def sourcesIn (kind : SourceKind) (k : Content) : List Source :=
  (k.contentsAt configurationPath.toList (ConfigurationPart.source kind).path).filterMap fun e =>
    (sourceIn kind e).toOption

/-- The tags of all formats that a configuration lists. -/
def formatTags (k : Content) : List (List Char) :=
  (k.contentsAt configurationPath.toList "/scan:DeviceSettings/scan:FormatsSupported").flatMap
    (textsAt (partPath .formats) "/scan:FormatValue")

/-- The formats that a configuration lists, by the tags of those that are known. -/
def formatsIn (k : Content) : Formats where
  jpeg := (formatTags k).contains "jfif".toList
  pdf := (formatTags k).contains "pdf-a".toList
  png := (formatTags k).contains "png".toList

/-- What a configuration says last of double-sided scanning: yes is `1` or `true`. -/
def duplexIn (k : Content) : Bool :=
  (textsAt configurationPath.toList "/scan:ADF/scan:ADFSupportsDuplex" k).getLast?.any fun text =>
    ["1".toList, "true".toList].contains text

theorem mem_formatsIn {f : Format} {k : Content} :
    f ∈ formatsIn k ↔ ∃ tag ∈ formatTags k, Format.ofTag? (String.ofList tag) = some f := by
  have htag : f ∈ formatsIn k ↔ f.tag.toList ∈ formatTags k := by cases f <;> exact List.contains_iff_mem
  simp only [htag, Format.ofTag?_eq_some_iff, ofList_eq_iff, exists_eq_right]

theorem isTrue_eq (text : List Char) : isTrue text = ["1".toList, "true".toList].contains text := by
  rw [Bool.eq_iff_iff, isTrue, List.contains_iff_mem]
  simp [ofList_eq_iff]

section

variable {k : Content}
  (hok : ∀ x ∈ k.parts configurationPath.toList ConfigurationPart.ofPath?, ∃ said, (partItem x.1 x.2).result = .ok said)

include hok

theorem feeder_of_parts :
    ((saids (k.parts configurationPath.toList ConfigurationPart.ofPath?)).foldl .hear Overview.nothing).feeder = true ↔
      sourcesIn .adfSimplex k ≠ [] := by
  have hsrc := saids_of_part (source?_of_part .adfSimplex) hok
  rw [← contentsAt_part] at hsrc
  rw [feeder_foldl_hear, sourcesIn, ← hsrc, ne_eq, List.filterMap_eq_nil_iff]
  simp only [Overview.nothing, Bool.false_eq_true, false_or, not_forall]
  constructor
  · rintro ⟨s, hs⟩
    exact ⟨_, hs, by simp [Said.source?]⟩
  · rintro ⟨said, hm, hne⟩
    cases said with
    | formats fs => exact absurd rfl hne
    | source kind s =>
      by_cases he : kind = .adfSimplex
      · exact ⟨s, he ▸ hm⟩
      · exact absurd (if_neg he) hne
    | duplex yes => exact absurd rfl hne

theorem duplex_of_parts :
    ((saids (k.parts configurationPath.toList ConfigurationPart.ofPath?)).foldl .hear Overview.nothing).duplex =
      duplexIn k := by
  have hdup := saids_of_part duplex?_of_part hok
  have hmap : ∀ es : List Content, (es.filterMap fun e => e.value.toOption.map isTrue) =
      (es.filterMap fun e => e.value.toOption).map isTrue := fun es => (List.map_filterMap ..).symm
  have hyes : isTrue = fun text => ["1".toList, "true".toList].contains text := funext isTrue_eq
  rw [← contentsAt_part] at hdup
  rw [duplex_foldl_hear, hdup, duplexIn, ← hyes, textsAt, hmap, List.getLast?_map, ConfigurationPart.path]
  cases ((k.contentsAt configurationPath.toList "/scan:ADF/scan:ADFSupportsDuplex").filterMap
    fun e => e.value.toOption).getLast? <;> rfl

theorem formats_of_parts :
    ((saids (k.parts configurationPath.toList ConfigurationPart.ofPath?)).foldl .hear Overview.nothing).formats =
      formatsIn k := by
  have hfmt := saids_of_part formats?_of_part hok
  rw [← contentsAt_part] at hfmt
  have hread : ∀ e ∈ k.contentsAt configurationPath.toList ConfigurationPart.formats.path,
      (formatsReport (partPath .formats) e).result =
        .ok ((textsAt (partPath .formats) formatPath e).foldl addTag ∅) := by
    intro e he
    rw [contentsAt_part] at he
    obtain ⟨x, hx, rfl⟩ := List.mem_map.1 he
    obtain ⟨hx, hxp⟩ := List.mem_filter.1 hx
    obtain ⟨said, hsaid⟩ := hok x hx
    rw [of_decide_eq_true hxp] at hsaid
    obtain ⟨formats, hf, -⟩ := partItem_formats.1 hsaid
    rw [hf, (formatsReport_result.1 hf).2.2]
  refine Formats.ext_mem fun f => ?_
  rw [formats_foldl_hear, hfmt, mem_formatsIn, formatTags]
  simp only [List.mem_filterMap, List.mem_flatMap]
  constructor
  · rintro (h | ⟨formats, ⟨e, he, hfe⟩, hf⟩)
    · exact absurd h Formats.not_mem_empty
    · rw [hread e he] at hfe
      cases hfe
      rcases (mem_foldl_addTag _ _).1 hf with h | ⟨tag, ht, htag⟩
      · exact absurd h Formats.not_mem_empty
      · exact ⟨tag, ⟨e, he, ht⟩, htag⟩
  · rintro ⟨tag, ⟨e, he, ht⟩, htag⟩
    exact .inr ⟨_, ⟨e, he, by rw [hread e he]; rfl⟩, (mem_foldl_addTag _ _).2 (.inr ⟨tag, ht, htag⟩)⟩

/-- **What a configuration says**, once all its parts are read without failing. -/
theorem overview_of_parts {o : Overview}
    (ho : o = (saids (k.parts configurationPath.toList ConfigurationPart.ofPath?)).foldl .hear Overview.nothing) :
    (o.feeder = true ↔ sourcesIn .adfSimplex k ≠ []) ∧ o.duplex = duplexIn k ∧ o.formats = formatsIn k := by
  subst ho
  exact ⟨feeder_of_parts hok, duplex_of_parts hok, formats_of_parts hok⟩

end

/-- **What the findings of a configuration leave in the slots**: the first source of each kind, unless there was one. -/
theorem fill_of_parts {k : Content}
    (hok : ∀ x ∈ k.parts configurationPath.toList ConfigurationPart.ofPath?,
      ∃ said, (partItem x.1 x.2).result = .ok said)
    (caps : Capabilities) :
    absorb caps ((k.parts configurationPath.toList ConfigurationPart.ofPath?).flatMap fun x =>
        (partItem x.1 x.2).findings) =
      .ok { caps with
        flatbed := caps.flatbed.or (sourcesIn .flatbed k).head?
        adfSimplex := caps.adfSimplex.or (sourcesIn .adfSimplex k).head?
        adfDuplex := caps.adfDuplex.or (sourcesIn .adfDuplex k).head? } := by
  have hsrc := fun kind => saids_of_part (source?_of_part kind) hok
  simp only [← contentsAt_part] at hsrc
  rw [absorb_part, fill_eq, found_parts hok]
  · simp only [find?_pairs, hsrc]
    rfl
  · intro f hf
    obtain ⟨x, -, hx⟩ := List.mem_flatMap.1 hf
    exact partItem_findings x.1 x.2 f hx

end ScanDiscovery.Response
