import Mathlib.Data.List.TakeWhile
import ScanDiscovery.Proofs.Response.Lasting
/-!
# Proofs.Response.Several — answers with more than one configuration

The configurations of an answer are settled one after the other, and each adds to what the earlier ones left.  A source
that any of them lists is there in the end (`sources_found`), as long as the first one lists a flatbed or a front, for
the lack of both is noticed at the end of a configuration and not of the answer.  Formats are added at the end of a
configuration to the sources that are there: a source has the formats of the configurations from the one on that first
listed it, and none that were listed before (`formats_from_source_on`).  Specification only.
-/
namespace ScanDiscovery.Response

open Device
open Xml (Content)

/-! ## The formats of some configurations -/

/-- The formats that some configurations list. -/
def listed (ks : List Content) : Formats := .ofPred fun f => ks.any fun k => (formatsIn k).has f

theorem mem_listed {f : Format} {ks : List Content} : f ∈ listed ks ↔ ∃ k ∈ ks, f ∈ formatsIn k := by
  rw [listed, Formats.mem_iff, Formats.has_ofPred, List.any_eq_true]
  exact .rfl

theorem listed_snoc (ks : List Content) (k : Content) : listed (ks ++ [k]) = listed ks ∪ formatsIn k :=
  Formats.ext_mem fun f => by
    rw [Formats.mem_union, mem_listed, mem_listed]
    simp [or_and_right, exists_or]

theorem listed_subset {ks ls : List Content} (h : ls ⊆ ks) : listed ls ⊆ listed ks := fun f hf => by
  obtain ⟨k, hk, hfk⟩ := mem_listed.1 hf
  exact mem_listed.2 ⟨k, h hk, hfk⟩

theorem inter_listed {ks ls : List Content} (h : ls ⊆ ks) : listed ks ∩ listed ls = listed ls :=
  Formats.ext_mem fun f => by
    rw [Formats.mem_inter]
    exact and_iff_right_of_imp (listed_subset h f)

/-- The configurations from the first one on that lists a source of this kind. -/
def onFrom (kind : SourceKind) (ks : List Content) : List Content := ks.dropWhile fun k => !lists kind k

theorem onFrom_suffix (kind : SourceKind) (ks : List Content) : onFrom kind ks <:+ ks := List.dropWhile_suffix _

theorem onFrom_eq_nil_iff {kind : SourceKind} {ks : List Content} :
    onFrom kind ks = [] ↔ ¬ ∃ k ∈ ks, lists kind k = true := by
  simp [onFrom, List.dropWhile_eq_nil_iff]

theorem onFrom_snoc {kind : SourceKind} {ks : List Content} {k : Content}
    (h : (∃ k' ∈ ks, lists kind k' = true) ∨ lists kind k = true) :
    onFrom kind (ks ++ [k]) = onFrom kind ks ++ [k] := by
  have happend : onFrom kind (ks ++ [k]) =
      if (onFrom kind ks).isEmpty then onFrom kind [k] else onFrom kind ks ++ [k] := List.dropWhile_append
  rw [happend]
  split
  · rename_i hnil
    rw [List.isEmpty_iff] at hnil
    have hk : lists kind k = true := h.resolve_left (onFrom_eq_nil_iff.1 hnil)
    rw [hnil, List.nil_append, onFrom, List.dropWhile_cons_of_neg (by simp [hk])]
  · rfl

/-! ## One configuration after another -/

theorem formats_of_held {kind : SourceKind} {k : Content} {before : Option Source} {s : Source}
    (h : held kind k before = some s) : s.formats = before.elim ∅ Source.formats ∪ formatsIn k := by
  cases before with
  | some t =>
    cases h
    rfl
  | none =>
    rw [held_none] at h
    obtain ⟨t, -, rfl⟩ := Option.map_eq_some_iff.1 h
    exact (empty_union_formats _).symm

theorem heldDuplex_some {k : Content} {front duplex : Option Source} {d : Source}
    (h : heldDuplex k front duplex = some d) :
    ∃ f, held .adfSimplex k front = some f ∧ duplexSource f (held .adfDuplex k duplex) = some d := by
  unfold heldDuplex at h
  split at h
  · exact Option.bind_eq_some_iff.1 h
  · cases h

/-- What is known after some configurations, told by what they list. -/
structure Traced (ks : List Content) (c : Capabilities) : Prop where
  found : ∀ kind, kind ≠ .adfDuplex → ((c.source? kind).isSome = true ↔ ∃ k ∈ ks, lists kind k = true)
  formats : ∀ kind, kind ≠ .adfDuplex → ∀ s, c.source? kind = some s → s.formats = listed (onFrom kind ks)
  duplex : ∀ d, c.source? .adfDuplex = some d →
    ∃ since, since ≠ [] ∧ since <:+ onFrom .adfSimplex ks ∧ d.formats = listed since

theorem Traced.of_sameSlots {ks : List Content} {b c : Capabilities} (hb : Traced ks b) (h : SameSlots b c) :
    Traced ks c where
  found kind hkind := by rw [h kind]; exact hb.found kind hkind
  formats kind hkind := by rw [h kind]; exact hb.formats kind hkind
  duplex := by rw [h .adfDuplex]; exact hb.duplex

/-- Where there is no source there are no formats either, and where there was none before, no configuration. -/
theorem Traced.formats_before {ks : List Content} {c : Capabilities} (h : Traced ks c) {kind : SourceKind}
    (hkind : kind ≠ .adfDuplex) : (c.source? kind).elim ∅ Source.formats = listed (onFrom kind ks) := by
  cases hs : c.source? kind with
  | some s => exact h.formats kind hkind s hs
  | none =>
    have hnone : ¬ ∃ k ∈ ks, lists kind k = true := fun hex => by
      have hsome := (h.found kind hkind).2 hex
      rw [hs] at hsome
      cases hsome
    rw [onFrom_eq_nil_iff.2 hnone]
    rfl

theorem Traced.duplex_before {ks : List Content} {c : Capabilities} (h : Traced ks c) :
    ∃ since, since <:+ onFrom .adfSimplex ks ∧ (c.source? .adfDuplex).elim ∅ Source.formats = listed since := by
  cases hd : c.source? .adfDuplex with
  | some d =>
    obtain ⟨since, -, hsince, hformats⟩ := h.duplex d hd
    exact ⟨since, hsince, hformats⟩
  | none => exact ⟨[], List.nil_suffix, rfl⟩

section

variable {done : List Content} {k : Content} {b : Capabilities} (hk : (configurationReport k).result = .ok ())
  (h : Traced done b)

include hk h

theorem Traced.found_step {kind : SourceKind} (hkind : kind ≠ .adfDuplex) :
    (held kind k (b.source? kind)).isSome = true ↔ (∃ k' ∈ done, lists kind k' = true) ∨ lists kind k = true := by
  rw [isSome_held, ← lists_eq hk, Bool.or_eq_true, h.found kind hkind]

theorem Traced.formats_step {kind : SourceKind} (hkind : kind ≠ .adfDuplex) {s : Source}
    (hs : held kind k (b.source? kind) = some s) :
    onFrom kind (done ++ [k]) = onFrom kind done ++ [k] ∧ s.formats = listed (onFrom kind done ++ [k]) := by
  have hfound := (h.found_step hk hkind).1 (by rw [hs]; rfl)
  refine ⟨onFrom_snoc hfound, ?_⟩
  rw [formats_of_held hs, h.formats_before hkind, listed_snoc]

theorem Traced.duplex_step {d : Source} (hd : heldDuplex k b.adfSimplex b.adfDuplex = some d) :
    ∃ since, since ≠ [] ∧ since <:+ onFrom .adfSimplex (done ++ [k]) ∧ d.formats = listed since := by
  obtain ⟨front, hfront, hd⟩ := heldDuplex_some hd
  obtain ⟨hsnoc, hformats⟩ := h.formats_step hk (show SourceKind.adfSimplex ≠ .adfDuplex by decide) hfront
  rw [hsnoc]
  cases hback : held .adfDuplex k b.adfDuplex with
  | none =>
    -- the front was taken for both sides
    rw [hback] at hd
    cases hd
    exact ⟨_, List.append_ne_nil_of_right_ne_nil _ (List.cons_ne_nil _ _), List.suffix_rfl, hformats⟩
  | some back =>
    rw [hback] at hd
    obtain ⟨-, rfl⟩ := Source.merge_eq_some_iff.1 hd
    -- the source for both sides may have been dropped and made again, so its formats may start later than the front's
    obtain ⟨since, hsince, hbefore⟩ := h.duplex_before
    have hlonger : since ++ [k] <:+ onFrom .adfSimplex done ++ [k] :=
      (List.suffix_append_inj_of_length_eq rfl).2 ⟨hsince, rfl⟩
    refine ⟨since ++ [k], List.append_ne_nil_of_right_ne_nil _ (List.cons_ne_nil _ _), hlonger, ?_⟩
    show front.formats ∩ back.formats = _
    rw [hformats, formats_of_held hback, show b.adfDuplex.elim ∅ Source.formats = listed since from hbefore,
      ← listed_snoc, inter_listed hlonger.subset]

theorem Traced.settled : Traced (done ++ [k]) (settled k b).rebuildNames where
  found kind hkind := by
    rw [Capabilities.source?_rebuildNames, source?_settled hkind, h.found_step hk hkind]
    simp [or_and_right, exists_or]
  formats kind hkind s hs := by
    rw [Capabilities.source?_rebuildNames, source?_settled hkind] at hs
    obtain ⟨hsnoc, hformats⟩ := h.formats_step hk hkind hs
    rw [hformats, hsnoc]
  duplex d hd := by
    rw [Capabilities.source?_rebuildNames] at hd
    exact h.duplex_step hk hd

end

theorem traced_nothing (content : Content) : Traced [] (introduced content ∅) where
  found kind _ := by cases kind <;> simp [introduced] <;> rfl
  formats kind _ s hs := by cases kind <;> cases hs
  duplex d hd := by cases hd

/-- **What is known after an answer**, told by what its configurations list. -/
theorem traced_of_decode {document : Bytes} {content : Content}
    (hevents : Xml.Event.ofBytes document = ⟨content.events, none⟩) (h : (decode ∅ document).result = .ok ()) :
    Traced (content.contentsAt [] configurationPath) (decode ∅ document).caps := by
  obtain ⟨hr, c, hc, hcaps⟩ := settled_of_decode hevents h
  obtain ⟨-, -, hks⟩ := responseReport_result.1 hr
  have htraced := settledBy_keeps (I := Traced) (fun k => (configurationReport k).result = .ok ())
    (fun _ _ _ hk hb => hb.settled hk) _ [] _ c hks (traced_nothing content) hc
  rw [List.nil_append] at htraced
  exact htraced.of_sameSlots fun kind => by rw [hcaps, source?_complete, Capabilities.source?_rebuildNames]

/-! ## Sources -/

theorem mem_sourceNames {kind : SourceKind} {c : Capabilities} :
    kind.name ∈ c.sourceNames ↔ (c.source? kind).isSome = true := by
  obtain ⟨_, _, _, _, f, s, d, _⟩ := c
  cases kind <;> cases f <;> cases s <;> cases d <;> simp [sourceNames_eq, SourceKind.name, Capabilities.source?]

theorem sourceNames_sublist (c : Capabilities) : c.sourceNames.Sublist (SourceKind.all.map SourceKind.name) := by
  rw [sourceNames_eq]
  cases c.flatbed.isSome <;> cases c.adfSimplex.isSome <;> cases c.adfDuplex.isSome <;> decide

theorem names_of_decode {caps : Capabilities} {document : Bytes} (h : (decode caps document).result = .ok ()) :
    (decode caps document).caps.sourceNames ≠ [] ∧
      (decode caps document).caps.names = (decode caps document).caps.sourceNames := by
  obtain ⟨-, -, c, -, -, -, -, hcaps, hne⟩ := tree_of_decode h
  rw [hcaps]
  exact ⟨hne, rfl⟩

/-- **Sources are found wherever they are listed.**  An answer of which no configuration has a fault can be used exactly
if the first one lists a flatbed or a front.  Then every flatbed and every front that a configuration lists is named,
whichever it is, and the names are in order. -/
theorem sources_found {document : Bytes} {content first : Content} {later : List Content}
    (hevents : Xml.Event.ofBytes document = ⟨content.events, none⟩)
    (hconf : content.contentsAt [] configurationPath = first :: later) :
    ((decode ∅ document).result = .ok () ↔
      (∀ k ∈ first :: later, Faultless content k) ∧ (lists .flatbed first = true ∨ lists .adfSimplex first = true)) ∧
    ((decode ∅ document).result = .ok () →
      (decode ∅ document).caps.names ≠ [] ∧
      (decode ∅ document).caps.names.Sublist (SourceKind.all.map SourceKind.name) ∧
      ∀ kind, kind ≠ .adfDuplex →
        (kind.name ∈ (decode ∅ document).caps.names ↔ ∃ k ∈ first :: later, lists kind k = true)) := by
  refine ⟨decode_ok_iff_faultless hevents hconf, fun h => ?_⟩
  obtain ⟨hne, hnames⟩ := names_of_decode h
  rw [hnames, ← hconf]
  refine ⟨hne, sourceNames_sublist _, fun kind hkind => ?_⟩
  rw [mem_sourceNames]
  exact (traced_of_decode hevents h).found kind hkind

/-- The answer of a scanner that lists its flatbed and its feeder apart, and a format with the flatbed. -/
def dividedAnswer : Bytes :=
  writtenAnswer
    [.element "s:ScannerConfiguration" [] [formatElement "jfif", sourceElement "s:Platen" "Platen" "9"],
    .element "s:ScannerConfiguration" [] [.element "s:ADF" [] [sourceElement "s:ADFFront" "ADF" "9"]]]

theorem dividedAnswer_read :
    (Xml.elementPaths dividedAnswer).count configurationPath.toList = 2 ∧
      (decode ∅ dividedAnswer).result = .ok () ∧
      (decode ∅ dividedAnswer).caps.names = ["Flatbed", "ADF"] ∧
      (decode ∅ dividedAnswer).caps.flatbed.map Source.formats = some {.jpeg} ∧
      (decode ∅ dividedAnswer).caps.adfSimplex.map Source.formats = some ∅ := by
  decide +kernel

theorem divided_found :
    ∃ content first second, Xml.Event.ofBytes dividedAnswer = ⟨content.events, none⟩ ∧
      content.contentsAt [] configurationPath = [first, second] ∧
      (∀ k ∈ [first, second], Faultless content k) ∧ (∃ k ∈ [first, second], lists .flatbed k = true) ∧
      ∃ k ∈ [first, second], lists .adfSimplex k = true := by
  obtain ⟨hcount, hok, hnames, -⟩ := dividedAnswer_read
  obtain ⟨content, -, -, hevents, -⟩ := tree_of_decode hok
  rw [Xml.count_elementPaths (congrArg Xml.Stream.items hevents)] at hcount
  obtain ⟨first, second, hconf⟩ := List.length_eq_two.1 hcount
  obtain ⟨hiff, hfound⟩ := sources_found hevents hconf
  obtain ⟨-, -, hkinds⟩ := hfound hok
  rw [hnames] at hkinds
  exact ⟨content, first, second, hevents, hconf, (hiff.1 hok).1, (hkinds .flatbed (by decide)).1 (by decide),
    (hkinds .adfSimplex (by decide)).1 (by decide)⟩

/-- The feeder's answer with an empty configuration in front. -/
def lateAnswer : Bytes :=
  writtenAnswer
    [.element "s:ScannerConfiguration" [] [],
    .element "s:ScannerConfiguration" []
      [.element "s:ADF" [] [.leaf "s:ADFSupportsDuplex" "1", sourceElement "s:ADFFront" "ADF" "9"]]]

def lateTree : Content :=
  writtenTree (scanElement "ScannerConfiguration" .nil (scanElement "ScannerConfiguration" feederTree .nil))

/-- **Sources that come behind an empty configuration** are not found, although nothing is wrong with them. -/
theorem late_sources_lost :
    Xml.Event.ofBytes lateAnswer = ⟨lateTree.events, none⟩ ∧
      lateTree.contentsAt [] configurationPath = [.nil, feederTree] ∧
      (∀ k ∈ [.nil, feederTree], Faultless lateTree k) ∧ lists .adfSimplex feederTree = true ∧
      (decode ∅ lateAnswer).result = .error .noSources := by
  have hread : Xml.Event.ofBytes lateAnswer = ⟨lateTree.events, none⟩ ∧
      lateTree.contentsAt [] configurationPath = [.nil, feederTree] ∧ lists .adfSimplex feederTree = true ∧
      (walked lateAnswer).result = .ok () ∧ (decode ∅ lateAnswer).result = .error .noSources := by
    decide +kernel
  obtain ⟨hevents, hconf, hlists, hwalked, hdecode⟩ := hread
  obtain ⟨content, hevents', -, hr⟩ := walked_ok_iff.1 ⟨hwalked, rfl⟩
  obtain rfl : content = lateTree := Content.events_injective (congrArg Xml.Stream.items (hevents'.symm.trans hevents))
  exact ⟨hevents, hconf, (responseReport_faultless hconf).1 (congrArg Xml.Report.result hr), hlists, hdecode⟩

/-! ## Formats -/

theorem listed_of_last {ks since : List Content} {last : Content} (hlast : ks.getLast? = some last)
    (hall : listed ks ⊆ formatsIn last) (hne : since ≠ []) (hsince : since <:+ ks) : listed since = listed ks := by
  obtain ⟨before, rfl⟩ := hsince
  rw [List.getLast?_append_of_ne_nil _ hne] at hlast
  refine Formats.ext_mem fun f => ⟨listed_subset (List.subset_append_right _ _) f, fun hf => ?_⟩
  exact mem_listed.2 ⟨last, List.mem_of_getLast? hlast, hall f hf⟩

/-- **A source has the formats of the configurations from the one on that first listed it**, and a source for both sides
those of the last few of these.  They are all formats of the device where the last configuration lists them, and so if
there is only one. -/
theorem formats_from_source_on {document : Bytes} {content : Content}
    (hevents : Xml.Event.ofBytes document = ⟨content.events, none⟩) (h : (decode ∅ document).result = .ok ()) :
    let ks := content.contentsAt [] configurationPath
    let caps := (decode ∅ document).caps
    (∀ kind, kind ≠ .adfDuplex → ∀ s, caps.source? kind = some s → s.formats = listed (onFrom kind ks)) ∧
    (∀ d, caps.source? .adfDuplex = some d →
      ∃ since, since ≠ [] ∧ since <:+ onFrom .adfSimplex ks ∧ d.formats = listed since) ∧
    ∀ last, ks.getLast? = some last → listed ks ⊆ formatsIn last →
      ∀ kind s, caps.source? kind = some s → s.formats = listed ks := by
  have ht := traced_of_decode hevents h
  refine ⟨ht.formats, ht.duplex, fun last hlast hall kind s hs => ?_⟩
  by_cases hkind : kind = .adfDuplex
  · subst hkind
    obtain ⟨since, hne, hsince, hformats⟩ := ht.duplex s hs
    rw [hformats, listed_of_last hlast hall hne (hsince.trans (onFrom_suffix _ _))]
  · have hne : onFrom kind (content.contentsAt [] configurationPath) ≠ [] := by
      rw [ne_eq, onFrom_eq_nil_iff, not_not]
      exact (ht.found kind hkind).1 (by rw [hs]; rfl)
    rw [ht.formats kind hkind s hs, listed_of_last hlast hall hne (onFrom_suffix _ _)]

theorem two_sided_formats :
    ∃ content k front both, Answered twoSidedAnswer content k ∧
      (decode ∅ twoSidedAnswer).caps.source? .adfSimplex = some front ∧
      (decode ∅ twoSidedAnswer).caps.source? .adfDuplex = some both ∧
      front.formats = formatsIn k ∧ both.formats = formatsIn k := by
  obtain ⟨hcount, hok, hfront, hboth, -⟩ := twoSidedAnswer_read
  obtain ⟨content, k, ht⟩ := answered_of_decode hcount hok
  obtain ⟨front, hfront⟩ := Option.isSome_iff_exists.1 hfront
  obtain ⟨both, hboth⟩ := Option.isSome_iff_exists.1 hboth
  obtain ⟨-, -, hlast⟩ := formats_from_source_on ht.events hok
  have hone : listed [k] = formatsIn k := listed_snoc [] k ▸ empty_union_formats _
  have hall := hlast k (by rw [ht.configuration]; rfl) (by rw [ht.configuration, hone]; exact fun _ hf => hf)
  rw [ht.configuration, hone] at hall
  exact ⟨content, k, front, both, ht, hfront, hboth, hall .adfSimplex front hfront, hall .adfDuplex both hboth⟩

/-- **Formats that are listed before a source do not reach it.** -/
theorem feeder_without_formats :
    (decode ∅ dividedAnswer).result = .ok () ∧
      (decode ∅ dividedAnswer).caps.flatbed.map Source.formats = some {.jpeg} ∧
      (decode ∅ dividedAnswer).caps.adfSimplex.map Source.formats = some ∅ := by
  obtain ⟨-, hok, -, hflatbed, hfront⟩ := dividedAnswer_read
  exact ⟨hok, hflatbed, hfront⟩

end ScanDiscovery.Response
