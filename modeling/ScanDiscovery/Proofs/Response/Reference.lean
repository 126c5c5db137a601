import ScanDiscovery.Proofs.Decimal.Numeral
import ScanDiscovery.Proofs.Response.Settled
/-!
# Proofs.Response.Reference — what an answer with one configuration makes known

An answer is read by walks inside walks, and applied finding by finding; this is what comes of it, read off the tree
with none of that in sight (`reference`): of each kind the first source, the formats of the whole device, double-sided
scanning by the last word on it and as far as the front goes, and the first name that is not empty.  Such an answer can
be used exactly if it is `Accepted`, whatever the order of its parts (`decode_iff_accepted`).  However many
configurations there are, they are settled one after the other (`settled_of_decode`), and the answer can be used exactly
if they are `Faultless` and the first one lists a source (`decode_ok_iff_faultless`).  Specification only.
-/
namespace ScanDiscovery.Response

open Device
open Xml (Content Path isPart)

/-! ## The reference -/

/-- The tree of a document of which every element is closed, and its one configuration. -/
structure Answered (document : Bytes) (content k : Content) : Prop where
  events : Xml.Event.ofBytes document = ⟨content.events, none⟩
  root : content.hasElement = true
  configuration : content.contentsAt [] configurationPath = [k]

theorem Answered.mem {document : Bytes} {content k : Content} (ht : Answered document content k) :
    k ∈ content.contentsAt [] configurationPath := by
  rw [ht.configuration]
  exact List.mem_singleton_self k

/-- No walk meets a fault of the document: the names on its way are texts, and so are the values it reads. -/
structure Legible (content k : Content) : Prop where
  answer : content.Clear (isPart [] AnswerPart.ofPath?) []
  description : ∀ d ∈ content.contentsAt [] descriptionPath,
    d.Clear (isPart descriptionPath.toList (single namePath)) descriptionPath.toList ∧
      ∀ e ∈ d.contentsAt descriptionPath.toList namePath, ∃ t, e.value = .ok t
  configuration : k.Clear (isPart configurationPath.toList ConfigurationPart.ofPath?) configurationPath.toList
  formats : ∀ f ∈ k.contentsAt configurationPath.toList ConfigurationPart.formats.path,
    f.Clear (isPart (partPath .formats) (single formatPath)) (partPath .formats) ∧
      ∀ e ∈ f.contentsAt (partPath .formats) formatPath, ∃ t, e.value = .ok t
  duplex : ∀ e ∈ k.contentsAt configurationPath.toList ConfigurationPart.duplex.path, ∃ t, e.value = .ok t
  source : ∀ kind, ∀ e ∈ k.contentsAt configurationPath.toList (ConfigurationPart.source kind).path,
    e.Clear (isPart (partPath (.source kind)) SourceField.ofPath?) (partPath (.source kind)) ∧
      ∀ x ∈ fieldsIn kind e, ∃ t, x.2.value = .ok t

/-- A configuration that is read without failing: every number is one, and every source can be scanned from. -/
structure Faultless (content k : Content) : Prop where
  legible : Legible content k
  numbers : ∀ kind, ∀ e ∈ k.contentsAt configurationPath.toList (ConfigurationPart.source kind).path,
    ∀ x ∈ fieldsIn kind e, ∀ q, x.1 = .quantity q →
      ∃ t, ∃ n : UInt32, x.2.value = .ok t ∧ Decimal.Spells t n.toNat
  sources : ∀ kind, ∀ e ∈ k.contentsAt configurationPath.toList (ConfigurationPart.source kind).path,
    ∃ s, sourceIn kind e = .ok s

/-- What an answer with one configuration must be like. -/
structure Accepted (content k : Content) : Prop extends Faultless content k where
  present : k.contentsAt configurationPath.toList "/scan:Platen" ≠ [] ∨
    k.contentsAt configurationPath.toList "/scan:ADF/scan:ADFFront" ≠ []

/-- The names that the descriptions of an answer give. -/
def namesIn (content : Content) : List (List Char) :=
  (content.contentsAt [] descriptionPath).flatMap (textsAt descriptionPath.toList "/scan:ScannerName")

/-- The first source of a kind, with the formats of the device. -/
def firstOf (kind : SourceKind) (k : Content) : Option Source :=
  (sourcesIn kind k).head?.map fun s => { s with formats := formatsIn k }

/-- Double-sided scanning. -/
def duplexOf (k : Content) : Option Source :=
  match firstOf .adfSimplex k with
  | none => none
  | some front =>
    if duplexIn k then
      match firstOf .adfDuplex k with
      | none => some front
      | some back => front.merge back 1000
    else none

/-- **What an answer with one configuration makes known**, where nothing was. -/
def reference (content k : Content) : Capabilities where
  vendor := some "Unknown"
  model := some ((((namesIn content).find? (· ≠ [])).map String.ofList).getD "Unknown")
  protocol := some "WSD"
  units := 1000
  flatbed := firstOf .flatbed k
  adfSimplex := firstOf .adfSimplex k
  adfDuplex := duplexOf k
  names := (if (firstOf .flatbed k).isSome then ["Flatbed"] else []) ++
    (if (firstOf .adfSimplex k).isSome then ["ADF"] else []) ++ if (duplexOf k).isSome then ["ADF Duplex"] else []

/-! ## Names -/

theorem nameItem_findings (u : Unit) (k : Content) :
    (nameItem u k).findings = (k.value.toOption.map .named).toList := by
  rw [nameItem, textItem]
  cases k.value <;> rfl

theorem descriptionReport_result {d : Content} :
    (descriptionReport d).result = .ok () ↔
      d.Clear (isPart descriptionPath.toList (single namePath)) descriptionPath.toList ∧
        ∀ e ∈ d.contentsAt descriptionPath.toList namePath, ∃ t, e.value = .ok t := by
  obtain ⟨h1, -⟩ := texts_of_parts descriptionPath.toList namePath d
    (fun u e t => nameItem_result (u := u))
  rw [Xml.Report.result_eq_ok]
  simp only [descriptionReport_eq_ok, h1]
  constructor
  · rintro ⟨_, hc, hv, -⟩
    exact ⟨hc, hv⟩
  · rintro ⟨hc, hv⟩
    exact ⟨_, hc, hv, rfl⟩

theorem descriptionReport_names {d : Content} (h : (descriptionReport d).result = .ok ()) :
    (descriptionReport d).findings = (textsAt descriptionPath.toList namePath d).map .named := by
  obtain ⟨fs, hfs⟩ := Xml.Report.result_eq_ok.1 h
  obtain ⟨-, -, rfl⟩ := descriptionReport_eq_ok.1 hfs
  rw [hfs, textsAt, ← parts_single]
  simp only [nameItem_findings, List.map_filterMap, List.filterMap_map]
  generalize d.parts descriptionPath.toList (single namePath) = xs
  induction xs with
  | nil => rfl
  | cons x xs ih =>
    rw [List.flatMap_cons, List.filterMap_cons, ih]
    cases hx : x.2.value <;> simp [hx, Except.toOption]

theorem absorb_names : ∀ (ns : List (List Char)) (c : Capabilities),
    absorb c (ns.map .named) = .ok { c with model := ns.foldl orElseText c.model }
  | [], _ => rfl
  | n :: ns, c => absorb_names ns { c with model := orElseText c.model n }

/-- The first name that is not empty stays. -/
theorem foldl_orElseText : ∀ (ns : List (List Char)) (known : Option String),
    ns.foldl orElseText known = known.or ((ns.find? (· ≠ [])).map String.ofList)
  | [], known => by simp
  | n :: ns, known => by
    rw [List.foldl_cons, foldl_orElseText ns]
    cases known with
    | some name => simp [orElseText]
    | none =>
      cases n with
      | nil => simp [orElseText]
      | cons x n => simp [orElseText]

/-! ## The configuration -/

theorem forall_configurationPart_iff {P : ConfigurationPart → Prop} :
    (∀ part, P part) ↔ P .formats ∧ P .duplex ∧ ∀ kind, P (.source kind) := by
  constructor
  · exact fun h => ⟨h .formats, h .duplex, fun kind => h (.source kind)⟩
  · rintro ⟨hf, hd, hs⟩ part
    cases part with
    | formats => exact hf
    | source kind => exact hs kind
    | duplex => exact hd

theorem exists_said_formats {e : Content} :
    (∃ said, (partItem .formats e).result = .ok said) ↔
      e.Clear (isPart (partPath .formats) (single formatPath)) (partPath .formats) ∧
        ∀ v ∈ e.contentsAt (partPath .formats) formatPath, ∃ t, v.value = .ok t := by
  simp only [partItem_formats, formatsReport_result]
  constructor
  · rintro ⟨_, _, ⟨hc, hv, -⟩, -⟩
    exact ⟨hc, hv⟩
  · rintro ⟨hc, hv⟩
    exact ⟨_, _, ⟨hc, hv, rfl⟩, rfl⟩

theorem exists_said_duplex {e : Content} :
    (∃ said, (partItem .duplex e).result = .ok said) ↔ ∃ t, e.value = .ok t := by
  simp only [partItem_duplex]
  constructor
  · rintro ⟨_, t, ht, -⟩
    exact ⟨t, ht⟩
  · rintro ⟨t, ht⟩
    exact ⟨_, t, ht, rfl⟩

theorem exists_said_source {kind : SourceKind} {e : Content} :
    (∃ said, (partItem (.source kind) e).result = .ok said) ↔ ∃ s, sourceIn kind e = .ok s := by
  simp only [partItem_kind]
  constructor
  · rintro ⟨_, s, hs, -⟩
    exact ⟨s, hs⟩
  · rintro ⟨s, hs⟩
    exact ⟨_, s, hs, rfl⟩

/-- **A configuration is read without failing** exactly if it is legible and its sources are accepted. -/
theorem configurationReport_iff {k : Content} :
    (configurationReport k).result = .ok () ↔
      k.Clear (isPart configurationPath.toList ConfigurationPart.ofPath?) configurationPath.toList ∧
        (∀ f ∈ k.contentsAt configurationPath.toList ConfigurationPart.formats.path,
          f.Clear (isPart (partPath .formats) (single formatPath)) (partPath .formats) ∧
            ∀ e ∈ f.contentsAt (partPath .formats) formatPath, ∃ t, e.value = .ok t) ∧
        (∀ e ∈ k.contentsAt configurationPath.toList ConfigurationPart.duplex.path, ∃ t, e.value = .ok t) ∧
        ∀ kind, ∀ e ∈ k.contentsAt configurationPath.toList (ConfigurationPart.source kind).path,
          ∃ s, sourceIn kind e = .ok s := by
  rw [configurationReport_result, Content.forall_parts_iff (fun _ _ => ConfigurationPart.ofPath?_eq_some_iff)
    (P := fun part e => ∃ said, (partItem part e).result = .ok said), forall_configurationPart_iff]
  simp only [exists_said_formats, exists_said_duplex, exists_said_source]

/-- Where a configuration is read without failing, every source that it lists is one. -/
theorem lists_eq {kind : SourceKind} {k : Content} (hk : (configurationReport k).result = .ok ()) :
    lists kind k = !(sourcesIn kind k).isEmpty := by
  obtain ⟨-, -, -, hsources⟩ := configurationReport_iff.1 hk
  rw [lists, Bool.eq_iff_iff]
  simp only [Bool.not_eq_true', List.isEmpty_eq_false_iff, ne_eq, sourcesIn_eq_nil_iff (hsources kind)]

theorem empty_union_formats (formats : Formats) : ∅ ∪ formats = formats := Formats.ext_mem fun f => by simp

theorem dress_of_sourceIn {kind : SourceKind} {e : Content} {s : Source} (h : sourceIn kind e = .ok s)
    (formats : Formats) : s.dress formats Stated.units = { s with formats := formats } := by
  rw [sourceIn_eq] at h
  obtain ⟨stated, hst⟩ := sourceReport_result h
  obtain ⟨-, -, width, height, -, -, -, rfl⟩ := toSource_eq_ok hst
  simp only [Source.dress, Source.addFormats, Source.updateWindows, empty_union_formats]

/-- What a configuration leaves in an empty slot. -/
theorem held_none {kind : SourceKind} {k : Content} : held kind k none = firstOf kind k := by
  rw [held, firstOf, Option.none_or]
  cases hs : (sourcesIn kind k).head? with
  | none => rfl
  | some s =>
    obtain ⟨e, -, he⟩ := List.mem_filterMap.1 (List.mem_of_head? hs)
    cases hr : sourceIn kind e with
    | error err =>
      rw [hr] at he
      cases he
    | ok t =>
      rw [hr] at he
      cases he
      exact congrArg some (dress_of_sourceIn hr _)

theorem heldDuplex_none {k : Content} : heldDuplex k none none = duplexOf k := by
  unfold heldDuplex duplexOf
  rw [held_none, held_none]
  cases hl : sourcesIn .adfSimplex k with
  | nil =>
    have hnone : firstOf .adfSimplex k = none := by rw [firstOf, hl]; rfl
    rw [hnone]
    rfl
  | cons s l =>
    obtain ⟨front, hsome⟩ : ∃ front, firstOf .adfSimplex k = some front := ⟨_, by rw [firstOf, hl]; rfl⟩
    rw [hsome]
    cases duplexIn k with
    | false => rfl
    | true => cases firstOf .adfDuplex k <;> rfl

/-- **What a configuration settles**, where no slot was filled before it. -/
theorem settled_none {k : Content} {c : Capabilities} (hf : c.flatbed = none) (hs : c.adfSimplex = none)
    (hd : c.adfDuplex = none) :
    settled k c = { c with
      flatbed := firstOf .flatbed k
      adfSimplex := firstOf .adfSimplex k
      adfDuplex := duplexOf k } := by
  rw [settled, hf, hs, hd, held_none, held_none, heldDuplex_none]

/-! ## The answer -/

/-- **The findings of the parts of an answer**: the names set the model, and each configuration is settled. -/
theorem absorb_parts_ok {b : Capabilities} : ∀ (xs : List (AnswerPart × Content)) (c : Capabilities),
    (∀ x ∈ xs, (answerItem x.1 x.2).result = .ok ()) →
      (absorb c (xs.flatMap fun x => (answerItem x.1 x.2).findings) = .ok b ↔
        settledBy ((xs.filter (·.1 = .configuration)).map (·.2)) { c with
          model := (((xs.filter (·.1 = .description)).map (·.2)).flatMap
            (textsAt descriptionPath.toList namePath)).foldl orElseText c.model } = .ok b)
  | [], _, _ => .rfl
  | (.description, d) :: xs, c, hok => by
    have ih := fun c => absorb_parts_ok (b := b) xs c fun x hx => hok x (List.mem_cons_of_mem _ hx)
    rw [List.flatMap_cons, absorb_append, answerItem, descriptionReport_names (hok _ List.mem_cons_self), absorb_names]
    simp only [Except.bind]
    rw [ih, List.filter_cons_of_neg (by simp), List.filter_cons_of_pos (by simp), List.map_cons, List.flatMap_cons,
      List.foldl_append]
  | (.configuration, k) :: xs, c, hok => by
    have ih := fun c => absorb_parts_ok (b := b) xs c fun x hx => hok x (List.mem_cons_of_mem _ hx)
    have hk : (configurationReport k).result = .ok () := hok _ List.mem_cons_self
    rw [List.flatMap_cons, absorb_append_ok, answerItem, absorb_settled hk, List.filter_cons_of_pos (by simp),
      List.filter_cons_of_neg (by simp), List.map_cons, settledBy_cons_ok]
    simp only [requireSources_ok_iff, ih]
    -- the model is not looked at when a configuration is settled
    constructor
    · rintro ⟨_, ⟨hne, rfl⟩, h⟩
      exact ⟨hne, h⟩
    · rintro ⟨hne, h⟩
      exact ⟨_, ⟨hne, rfl⟩, h⟩

theorem forall_answerPart_iff {P : AnswerPart → Prop} : (∀ part, P part) ↔ P .description ∧ P .configuration := by
  constructor
  · exact fun h => ⟨h .description, h .configuration⟩
  · rintro ⟨hd, hc⟩ part
    cases part with
    | description => exact hd
    | configuration => exact hc

theorem responseReport_result {content : Content} :
    (responseReport content).result = .ok () ↔
      content.Clear (isPart [] AnswerPart.ofPath?) [] ∧
        (∀ d ∈ content.contentsAt [] descriptionPath, (descriptionReport d).result = .ok ()) ∧
        ∀ k ∈ content.contentsAt [] configurationPath, (configurationReport k).result = .ok () := by
  rw [Xml.Report.result_eq_ok]
  simp only [responseReport_eq_ok, exists_and_left, exists_eq, and_true]
  refine and_congr_right fun _ => (Content.forall_parts_iff (fun _ _ => AnswerPart.ofPath?_eq_some_iff)
    (P := fun part e => (answerItem part e).result = .ok ())).trans ?_
  exact forall_answerPart_iff (P := fun part => ∀ e ∈ content.contentsAt [] part.path, (answerItem part e).result = .ok ())

/-- What was known before an answer, with the model that the answer gives. -/
def introduced (content : Content) (caps : Capabilities) : Capabilities :=
  { caps with model := (namesIn content).foldl orElseText caps.model }

@[simp] theorem source?_introduced (content : Content) (caps : Capabilities) (kind : SourceKind) :
    (introduced content caps).source? kind = caps.source? kind := by
  cases kind <;> rfl

@[simp] theorem source?_complete (c : Capabilities) (kind : SourceKind) : (complete c).source? kind = c.source? kind := by
  cases kind <;> rfl

theorem absorb_answer {content : Content} (hr : (responseReport content).result = .ok ()) {caps c : Capabilities} :
    absorb caps (responseReport content).findings = .ok c ↔
      settledBy (content.contentsAt [] configurationPath) (introduced content caps) = .ok c := by
  obtain ⟨fs, hfs⟩ := Xml.Report.result_eq_ok.1 hr
  obtain ⟨-, hok, rfl⟩ := responseReport_eq_ok.1 hfs
  rw [hfs, absorb_parts_ok _ _ hok, introduced, namesIn, namePath,
    show content.contentsAt [] configurationPath = _ from contentsAt_path .configuration content,
    show content.contentsAt [] descriptionPath = _ from contentsAt_path .description content]

section

variable {document : Bytes} {content : Content} (hevents : Xml.Event.ofBytes document = ⟨content.events, none⟩)
  {caps : Capabilities}

include hevents

/-- **An answer that can be used, by the tree that it spells**, whatever was known. -/
theorem settled_of_decode (h : (decode caps document).result = .ok ()) :
    (responseReport content).result = .ok () ∧ ∃ c,
      settledBy (content.contentsAt [] configurationPath) (introduced content caps) = .ok c ∧
        (decode caps document).caps = complete c.rebuildNames := by
  obtain ⟨content', fs, c, hevents', -, hr, habs, hcaps, -⟩ := tree_of_decode h
  obtain rfl : content' = content :=
    Content.events_injective (congrArg Xml.Stream.items (hevents'.symm.trans hevents))
  have hok : (responseReport content').result = .ok () := congrArg Xml.Report.result hr
  exact ⟨hok, c, (absorb_answer hok).1 (by rw [hr]; exact habs), hcaps⟩

theorem decode_of_settled (hroot : content.hasElement = true) (hr : (responseReport content).result = .ok ())
    {c : Capabilities} (hc : settledBy (content.contentsAt [] configurationPath) (introduced content caps) = .ok c)
    (hne : c.sourceNames ≠ []) :
    (decode caps document).result = .ok () :=
  (decode_of_tree hevents hroot (show responseReport content = ⟨_, .ok ()⟩ by rw [← hr]) ((absorb_answer hr).2 hc) hne).1

end

/-- **A configuration that is read without failing, unpacked.** -/
theorem faultless_of_configuration {content k : Content} (hclear : content.Clear (isPart [] AnswerPart.ofPath?) [])
    (hdesc : ∀ d ∈ content.contentsAt [] descriptionPath, (descriptionReport d).result = .ok ())
    (hk : (configurationReport k).result = .ok ()) : Faultless content k := by
  obtain ⟨hkc, hformats, hduplex, hsources⟩ := configurationReport_iff.1 hk
  refine ⟨⟨hclear, fun d hd => descriptionReport_result.1 (hdesc d hd), hkc, hformats, hduplex, fun kind e he => ?_⟩,
    fun kind e he x hx q hq => ?_, hsources⟩
  · obtain ⟨s, hs⟩ := hsources kind e he
    obtain ⟨hc, hf⟩ := legible_of_sourceIn hs
    exact ⟨hc, fun x hx => (hf x hx).imp fun t ht => ht.1⟩
  · obtain ⟨s, hs⟩ := hsources kind e he
    obtain ⟨t, ht, hn⟩ := (legible_of_sourceIn hs).2 x hx
    obtain ⟨n, hn⟩ := hn q hq
    exact ⟨t, n, ht, Decimal.unsigned?_eq_some_iff.1 (number_eq_ok.1 hn)⟩

theorem Faultless.configuration {content k : Content} (h : Faultless content k) :
    (configurationReport k).result = .ok () :=
  configurationReport_iff.2 ⟨h.legible.configuration, h.legible.formats, h.legible.duplex, h.sources⟩

/-- **An answer is read to its end** exactly if all its configurations are without fault. -/
theorem responseReport_faultless {content first : Content} {later : List Content}
    (hconf : content.contentsAt [] configurationPath = first :: later) :
    (responseReport content).result = .ok () ↔ ∀ k ∈ first :: later, Faultless content k := by
  rw [responseReport_result, hconf]
  constructor
  · rintro ⟨hclear, hdesc, hks⟩ k hk
    exact faultless_of_configuration hclear hdesc (hks k hk)
  · intro h
    have hfirst := (h first List.mem_cons_self).legible
    exact ⟨hfirst.answer, fun d hd => descriptionReport_result.2 (hfirst.description d hd),
      fun k hk => (h k hk).configuration⟩

theorem sourceNames_first {content k : Content} (h : Faultless content k) :
    (settled k (introduced content ∅)).sourceNames ≠ [] ↔ lists .flatbed k = true ∨ lists .adfSimplex k = true := by
  rw [sourceNames_settled_ne, isSome_held, isSome_held, lists_eq h.configuration, lists_eq h.configuration]
  exact .rfl

/-- **An answer can be used** exactly if its configurations are without fault and the first one lists a flatbed or a
front: the end of a configuration is the place where the lack of sources is noticed. -/
theorem decode_ok_iff_faultless {document : Bytes} {content first : Content} {later : List Content}
    (hevents : Xml.Event.ofBytes document = ⟨content.events, none⟩)
    (hconf : content.contentsAt [] configurationPath = first :: later) :
    (decode ∅ document).result = .ok () ↔
      (∀ k ∈ first :: later, Faultless content k) ∧ (lists .flatbed first = true ∨ lists .adfSimplex first = true) := by
  constructor
  · intro h
    obtain ⟨hr, c, hc, -⟩ := settled_of_decode hevents h
    rw [hconf, settledBy_cons_ok] at hc
    have hall := (responseReport_faultless hconf).1 hr
    exact ⟨hall, (sourceNames_first (hall first List.mem_cons_self)).1 hc.1⟩
  · rintro ⟨hall, hfirst⟩
    have hne := (sourceNames_first (hall first List.mem_cons_self)).2 hfirst
    obtain ⟨c, hc, hlast⟩ := settledBy_ok later (settled first (introduced content ∅)).rebuildNames
      (sourceNames_settled_ne.1 hne)
    have hroot : content.hasElement = true := Content.hasElement_of_contentsAt (hconf ▸ List.cons_ne_nil first later)
    refine decode_of_settled hevents hroot ((responseReport_faultless hconf).2 hall)
      (hconf ▸ settledBy_cons_ok.2 ⟨hne, hc⟩) ?_
    rw [ne_eq, sourceNames_eq_nil_iff]
    rintro ⟨hf, hs, -⟩
    rw [hf, hs] at hlast
    simp at hlast

/-! ## One configuration -/

/-- One configuration is settled from what was known. -/
theorem settledBy_singleton {content k : Content} (hconf : content.contentsAt [] configurationPath = [k])
    {caps c : Capabilities} :
    settledBy (content.contentsAt [] configurationPath) (introduced content caps) = .ok c ↔
      (settled k caps).sourceNames ≠ [] ∧ c = introduced content (settled k caps).rebuildNames := by
  rw [hconf, settledBy_cons_ok]
  exact and_congr_right fun _ => ⟨fun h => (Except.ok.inj h).symm, fun h => congrArg Except.ok h.symm⟩

/-- **What an answer with one configuration makes known**, whatever was known. -/
theorem caps_of_tree {document : Bytes} {content k : Content} (ht : Answered document content k) {caps : Capabilities}
    (h : (decode caps document).result = .ok ()) :
    (decode caps document).caps = complete (introduced content (settled k caps).rebuildNames) := by
  obtain ⟨-, c, hc, hcaps⟩ := settled_of_decode ht.events h
  obtain ⟨-, rfl⟩ := (settledBy_singleton ht.configuration).1 hc
  exact hcaps

theorem reference_eq (content k : Content) :
    reference content k = complete (introduced content (settled k ∅).rebuildNames) := by
  rw [settled_none rfl rfl rfl, introduced, foldl_orElseText, complete, reference]
  simp only [Capabilities.rebuildNames, sourceNames_eq]
  rfl

theorem accepted_iff {content k : Content} :
    Accepted content k ↔ Faultless content k ∧ (lists .flatbed k = true ∨ lists .adfSimplex k = true) := by
  rw [lists_iff, lists_iff]
  exact ⟨fun h => ⟨h.toFaultless, h.present⟩, fun ⟨h, hp⟩ => ⟨h, hp⟩⟩

/-- An answer with one configuration can be used exactly if its tree is accepted. -/
theorem decode_ok_iff_of_answered {document : Bytes} {content k : Content} (ht : Answered document content k) :
    (decode ∅ document).result = .ok () ↔ Accepted content k := by
  rw [decode_ok_iff_faultless ht.events ht.configuration, accepted_iff, List.forall_mem_singleton]

/-- An answer that can be used is a tree, whatever was known. -/
theorem answered_of_decode {document : Bytes}
    (hone : (Xml.elementPaths document).count configurationPath.toList = 1) {caps : Capabilities}
    (h : (decode caps document).result = .ok ()) : ∃ content k, Answered document content k := by
  obtain ⟨content, fs, c, hevents, hroot, -⟩ := tree_of_decode h
  rw [Xml.count_elementPaths (congrArg Xml.Stream.items hevents)] at hone
  obtain ⟨k, hconf⟩ := List.length_eq_one_iff.1 hone
  exact ⟨content, k, hevents, hroot, hconf⟩

/-- **An answer that is accepted makes known what the reference says.** -/
theorem decode_of_accepted {document : Bytes} {content k : Content} (ht : Answered document content k)
    (ha : Accepted content k) :
    (decode ∅ document).result = .ok () ∧ (decode ∅ document).caps = reference content k := by
  have hok := (decode_ok_iff_of_answered ht).2 ha
  exact ⟨hok, (caps_of_tree ht hok).trans (reference_eq content k).symm⟩

/-- **An answer that can be used is accepted.** -/
theorem accepted_of_decode {document : Bytes} (hone : (Xml.elementPaths document).count configurationPath.toList = 1)
    (h : (decode ∅ document).result = .ok ()) : ∃ content k, Answered document content k ∧ Accepted content k := by
  obtain ⟨content, k, ht⟩ := answered_of_decode hone h
  exact ⟨content, k, ht, (decode_ok_iff_of_answered ht).1 h⟩

/-- **What a scanner is known to be after an answer with one configuration**: the answer can be used exactly if it is
accepted, and then what is known is the reference. -/
theorem decode_iff_accepted (document : Bytes)
    (hone : (Xml.elementPaths document).count configurationPath.toList = 1) :
    ((decode ∅ document).result = .ok () ↔ ∃ content k, Answered document content k ∧ Accepted content k) ∧
      ∀ content k, Answered document content k → Accepted content k →
        (decode ∅ document).caps = reference content k :=
  ⟨⟨accepted_of_decode hone, fun ⟨_, _, ht, ha⟩ => (decode_of_accepted ht ha).1⟩,
    fun _ _ ht ha => (decode_of_accepted ht ha).2⟩

/-- The answer of a scanner with all three sources.  Parts are out of order, one of the formats nobody knows, double-sided
scanning is denied before it is affirmed, and the first name is empty. -/
def officeAnswer : Bytes :=
  writtenAnswer
    [.element "s:ScannerConfiguration" []
      [.element "s:ADF" []
        [.leaf "s:ADFSupportsDuplex" "no", sourceElement "s:ADFBack" "ADF" "9", sourceElement "s:ADFFront" "ADF" "11",
        .leaf "s:ADFSupportsDuplex" "true"],
      sourceElement "s:Platen" "Platen" "14",
      .element "s:DeviceSettings" [] [.element "s:FormatsSupported" []
        [.leaf "s:FormatValue" "jfif", .leaf "s:FormatValue" "tiff", .leaf "s:FormatValue" "png"]]],
    .element "s:ScannerDescription" [] [.element "s:ScannerName" [] [], .leaf "s:ScannerName" "Office MFP"]]

/-- What `officeAnswer` makes known: every source has the formats that are known, and both sides are scanned as far as
front and back go. -/
def Office (caps : Capabilities) : Prop :=
  caps.model = some "Office MFP" ∧ caps.names = ["Flatbed", "ADF", "ADF Duplex"] ∧
    (∀ kind ∈ SourceKind.all,
      (caps.source? kind).map Source.formats = some { jpeg := true, pdf := false, png := true }) ∧
    caps.flatbed.map Source.height = some ⟨1, 14⟩ ∧ caps.adfSimplex.map Source.height = some ⟨1, 11⟩ ∧
    caps.adfDuplex.map Source.height = some ⟨1, 9⟩

instance (caps : Capabilities) : Decidable (Office caps) := inferInstanceAs (Decidable (_ ∧ _))

theorem officeAnswer_read :
    (Xml.elementPaths officeAnswer).count configurationPath.toList = 1 ∧ (decode ∅ officeAnswer).result = .ok () ∧
      Office (decode ∅ officeAnswer).caps := by
  decide +kernel

theorem office_accepted :
    (decode ∅ officeAnswer).result = .ok () ∧ Office (decode ∅ officeAnswer).caps ∧
      ∃ content k, Answered officeAnswer content k ∧ Accepted content k ∧
        (decode ∅ officeAnswer).caps = reference content k ∧
        formatsIn k = { jpeg := true, pdf := false, png := true } := by
  obtain ⟨hone, hok, hknown⟩ := officeAnswer_read
  obtain ⟨hiff, hcaps⟩ := decode_iff_accepted officeAnswer hone
  obtain ⟨content, k, ht, ha⟩ := hiff.1 hok
  have href : (decode ∅ officeAnswer).caps = reference content k := hcaps content k ht ha
  refine ⟨hok, hknown, content, k, ht, ha, href, ?_⟩
  obtain ⟨-, -, hformats, -⟩ := hknown
  have hfirst : (firstOf .flatbed k).map Source.formats = some { jpeg := true, pdf := false, png := true } := by
    have h := hformats .flatbed (by decide)
    rwa [href] at h
  rw [firstOf, Option.map_map, Option.map_eq_some_iff] at hfirst
  obtain ⟨s, -, hs⟩ := hfirst
  exact hs

end ScanDiscovery.Response
