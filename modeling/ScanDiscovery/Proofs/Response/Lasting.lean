import ScanDiscovery.Proofs.Response.Duplex
import ScanDiscovery.Proofs.Response.Prior
import ScanDiscovery.Proofs.Response.Reference
/-!
# Proofs.Response.Lasting — what is known of a scanner lasts

An answer that is read where something is known adds to it: a flatbed and a front that are there stay, with more formats
perhaps, and so do the names (`first_stays`).  Only double-sided scanning is settled anew by every configuration, from
the front and from what was there for both sides; a back that is listed then is not looked at.  Where the answer is the
one that was read before, what it settles is what it settled the first time (`decode_again`).  Specification only.
-/
namespace ScanDiscovery.Response

open Device
open Xml (Content)

/-! ## The same answer again -/

theorem dressed_of_held {kind : SourceKind} {k : Content} {before : Option Source} {s : Source}
    (h : held kind k before = some s) : formatsIn k ⊆ s.formats ∧ s.updateWindows Stated.units = s := by
  obtain ⟨t, -, rfl⟩ := Option.map_eq_some_iff.1 h
  exact ⟨fun f hf => Formats.mem_union.2 (.inr hf), rfl⟩

theorem held_some {kind : SourceKind} {k : Content} {s : Source} (hf : formatsIn k ⊆ s.formats)
    (hw : s.updateWindows Stated.units = s) : held kind k (some s) = some s :=
  congrArg some (Source.dress_eq_self hf hw)

theorem held_held (kind : SourceKind) (k : Content) (before : Option Source) :
    held kind k (held kind k before) = held kind k before := by
  cases h : held kind k before with
  | some s =>
    obtain ⟨hf, hw⟩ := dressed_of_held h
    exact held_some hf hw
  | none =>
    cases before with
    | some s => cases h
    | none => exact h

/-- **Double-sided scanning settled twice**: what front and back have in common, the front has in common with that. -/
theorem duplexSource_again {k : Content} {front : Source} (hs : held .adfSimplex k none = some front)
    (hfit : front.Fit 1000) :
    duplexSource front (held .adfDuplex k (duplexSource front (held .adfDuplex k none))) =
      duplexSource front (held .adfDuplex k none) := by
  obtain ⟨hfront, hwindows⟩ := dressed_of_held hs
  cases hd : held .adfDuplex k none with
  | none =>
    -- the front was taken for both sides, and it has all of itself in common with itself
    rw [duplexSource, held_some hfront hwindows]
    exact hfit.merge_self
  | some back =>
    obtain ⟨hback, -⟩ := dressed_of_held hd
    rw [duplexSource]
    cases hm : front.merge back Stated.units with
    | none => rw [hd, duplexSource, hm]
    | some m =>
      obtain ⟨-, rfl⟩ := Source.merge_eq_some_iff.1 hm
      have hformats : formatsIn k ⊆ (front.meet back Stated.units).formats := fun f hf =>
        Formats.mem_inter.2 ⟨hfront f hf, hback f hf⟩
      rw [held_some hformats rfl, duplexSource, Source.merge_merge hm]

theorem heldDuplex_again {k : Content} (hfit : ∀ front, held .adfSimplex k none = some front → front.Fit 1000) :
    heldDuplex k (held .adfSimplex k none) (heldDuplex k none none) = heldDuplex k none none := by
  unfold heldDuplex
  split
  · rw [held_held]
    cases hs : held .adfSimplex k none with
    | none => rfl
    | some front => exact duplexSource_again hs (hfit front hs)
  · rfl

theorem Sound.complete_eq {c : Capabilities} (h : Sound c) : complete c.rebuildNames = c := by
  obtain ⟨v, hv, -⟩ := h.vendor
  obtain ⟨m, hm, -⟩ := h.model
  have hnames : c.sourceNames = c.names := (sourceNames_eq c).trans h.names.symm
  obtain ⟨vendor, model, protocol, units, _, _, _, names⟩ := c
  obtain rfl : vendor = some v := hv
  obtain rfl : model = some m := hm
  obtain rfl : protocol = some "WSD" := h.protocol
  obtain rfl : units = 1000 := h.units
  simp only [complete, Capabilities.rebuildNames, hnames]
  rfl

/-- What a configuration has settled where nothing was known, it settles again. -/
theorem settled_again {k : Content} {c : Capabilities} (hflatbed : c.flatbed = held .flatbed k none)
    (hfront : c.adfSimplex = held .adfSimplex k none) (hduplex : c.adfDuplex = heldDuplex k none none)
    (hfit : ∀ front, c.adfSimplex = some front → front.Fit 1000) : settled k c = c := by
  rw [hfront] at hfit
  rw [settled, hflatbed, hfront, hduplex, held_held, held_held, heldDuplex_again hfit, ← hflatbed, ← hfront, ← hduplex]

theorem introduced_again {c : Capabilities} {name : String} (hm : c.model = some name) (content : Content) :
    introduced content c = c := by
  rw [introduced, foldl_orElseText, hm, Option.some_or, ← hm]

/-- Where nothing was known, an answer that can be used has a configuration. -/
theorem mem_elementPaths_of_decode {document : Bytes} (h : (decode ∅ document).result = .ok ()) :
    configurationPath.toList ∈ Xml.elementPaths document := by
  by_contra hnone
  obtain ⟨kind, s, hs⟩ := (sound_of_decode ready_empty h).source
  rw [sameSlots_of_decode hnone h kind] at hs
  cases kind <;> cases hs

/-- **The same answer again changes nothing**, as long as it has one configuration at most. -/
theorem decode_again {document : Bytes} (hone : (Xml.elementPaths document).count configurationPath.toList ≤ 1)
    (h : (decode ∅ document).result = .ok ()) :
    (decode (decode ∅ document).caps document).result = .ok () ∧
      (decode (decode ∅ document).caps document).caps = (decode ∅ document).caps := by
  have hagain := decode_ok_of_empty h (decode ∅ document).caps
  refine ⟨hagain, ?_⟩
  have hcount := le_antisymm hone (List.count_pos_iff.2 (mem_elementPaths_of_decode h))
  obtain ⟨content, k, ht⟩ := answered_of_decode hcount h
  have hsound : Sound (decode ∅ document).caps := sound_of_decode ready_empty h
  -- what the first reading left, as the configuration settles it, is all that is needed of it
  have hcaps := caps_of_tree ht h
  rw [caps_of_tree ht hagain]
  generalize (decode ∅ document).caps = c at hsound hcaps
  obtain ⟨m, hm, -⟩ := hsound.model
  have hsettled : settled k c = c := settled_again (congrArg Capabilities.flatbed hcaps)
    (congrArg Capabilities.adfSimplex hcaps) (congrArg Capabilities.adfDuplex hcaps) (hsound.fit .adfSimplex)
  rw [hsettled, introduced_again (show c.rebuildNames.model = some m from hm)]
  exact hsound.complete_eq

/-- The answer of a scanner that takes shorter paper where it scans both sides. -/
def twoSidedAnswer : Bytes :=
  writtenAnswer [.element "s:ScannerConfiguration" []
    [formatElement "jfif", .element "s:ADF" [] [.leaf "s:ADFSupportsDuplex" "1", sourceElement "s:ADFFront" "ADF" "9",
      sourceElement "s:ADFBack" "ADF" "8"]]]

theorem twoSidedAnswer_read :
    (Xml.elementPaths twoSidedAnswer).count configurationPath.toList = 1 ∧
      (decode ∅ twoSidedAnswer).result = .ok () ∧
      ((decode ∅ twoSidedAnswer).caps.source? .adfSimplex).isSome = true ∧
      ((decode ∅ twoSidedAnswer).caps.source? .adfDuplex).isSome = true ∧
      ((decode ∅ feederAnswer).caps.source? .adfSimplex).isSome = true := by
  decide +kernel

theorem two_sided_again :
    (decode (decode ∅ twoSidedAnswer).caps twoSidedAnswer).result = .ok () ∧
      (decode (decode ∅ twoSidedAnswer).caps twoSidedAnswer).caps = (decode ∅ twoSidedAnswer).caps := by
  obtain ⟨hcount, hok, -⟩ := twoSidedAnswer_read
  exact decode_again (le_of_eq hcount) hok

/-! ## Another answer -/

/-- **What configurations keep, and a name for the model, an answer keeps** that can be used. -/
theorem keeps_of_decode {I : Capabilities → Prop} {caps : Capabilities} {document : Bytes}
    (h : (decode caps document).result = .ok ()) (step : ∀ k b, I b → I (settled k b).rebuildNames)
    (hcaps : ∀ content, I (introduced content caps)) :
    ∃ c, I c ∧ (decode caps document).caps = complete c.rebuildNames := by
  obtain ⟨content, -, -, hevents, -⟩ := tree_of_decode h
  obtain ⟨-, c, hc, hdecoded⟩ := settled_of_decode hevents h
  have hkept := settledBy_keeps (I := fun _ c => I c) (fun _ => True) (fun _ k b _ hb => step k b hb) _ [] _ c
    (fun _ _ => trivial) (hcaps content) hc
  exact ⟨c, hkept, hdecoded⟩

theorem slot_stays {caps : Capabilities} {document : Bytes} (h : (decode caps document).result = .ok ())
    {kind : SourceKind} (hkind : kind ≠ .adfDuplex) {s : Source} (hs : caps.source? kind = some s) :
    ∃ t, (decode caps document).caps.source? kind = some t ∧ s.Grown t := by
  have step : ∀ k b, (∃ t, b.source? kind = some t ∧ s.Grown t) →
      ∃ t, (settled k b).rebuildNames.source? kind = some t ∧ s.Grown t := by
    rintro k b ⟨t, ht, hgrown⟩
    rw [Capabilities.source?_rebuildNames, source?_settled hkind, ht]
    exact ⟨_, rfl, hgrown.dress _⟩
  obtain ⟨c, ⟨t, ht, hgrown⟩, hc⟩ := keeps_of_decode (I := fun c => ∃ t, c.source? kind = some t ∧ s.Grown t) h step
    fun content => ⟨s, (source?_introduced ..).trans hs, .refl s⟩
  refine ⟨t, ?_, hgrown⟩
  rw [hc, source?_complete, Capabilities.source?_rebuildNames, ht]

theorem vendor_stays {caps : Capabilities} {document : Bytes} (h : (decode caps document).result = .ok ())
    {name : String} (hn : caps.vendor = some name) : (decode caps document).caps.vendor = some name := by
  obtain ⟨c, hv, hc⟩ := keeps_of_decode (I := fun c => c.vendor = some name) h (fun _ _ hb => hb) fun _ => hn
  rw [hc, complete, Capabilities.rebuildNames, hv]
  rfl

theorem model_stays {caps : Capabilities} {document : Bytes} (h : (decode caps document).result = .ok ())
    {name : String} (hn : caps.model = some name) : (decode caps document).caps.model = some name := by
  obtain ⟨c, hm, hc⟩ := keeps_of_decode (I := fun c => c.model = some name) h (fun _ _ hb => hb) fun content => by
    rw [introduced, foldl_orElseText, hn, Option.some_or]
  rw [hc, complete, Capabilities.rebuildNames, hm]
  rfl

/-- Double-sided scanning that was known as `d`, after a configuration: as far as the front and `d`, with the formats of
the configuration, both go, where a front is listed and double-sided scanning is said to be there. -/
def SettledAnew (k : Content) (d : Source) (after : Capabilities) : Prop :=
  if lists .adfSimplex k && duplexIn k then
    ∃ front, after.adfSimplex = some front ∧ after.adfDuplex = front.merge (d.addFormats (formatsIn k)) 1000
  else after.adfDuplex = none

theorem settledAnew_of_decode {caps : Capabilities} {document : Bytes} {content k : Content}
    (ht : Answered document content k) (h : (decode caps document).result = .ok ()) {d : Source}
    (hd : caps.adfDuplex = some d) : SettledAnew k d (decode caps document).caps := by
  obtain ⟨-, -, hconf⟩ := responseReport_result.1 (settled_of_decode ht.events h).1
  have hlists : lists .adfSimplex k = _ := lists_eq (hconf k ht.mem)
  rw [caps_of_tree ht h]
  show if _ then ∃ front, held .adfSimplex k caps.adfSimplex = some front ∧
      heldDuplex k caps.adfSimplex caps.adfDuplex = _ else heldDuplex k caps.adfSimplex caps.adfDuplex = none
  rw [heldDuplex, ← hlists, hd]
  split
  · rename_i hboth
    obtain ⟨front, hfront⟩ : ∃ front, held .adfSimplex k caps.adfSimplex = some front :=
      Option.isSome_iff_exists.1 (by rw [isSome_held, ← hlists, (Bool.and_eq_true_iff.1 hboth).1, Bool.or_true])
    rw [hfront]
    exact ⟨front, rfl, rfl⟩
  · rfl

/-- **What is known of a scanner is not replaced.**  An answer that can be used leaves every flatbed and every front as
it was, into more formats perhaps, and the names too.  With one configuration at most it leaves double-sided scanning,
if that was known, as it was, or settled anew from what was known. -/
theorem first_stays {caps : Capabilities} {document : Bytes} (h : (decode caps document).result = .ok ()) :
    (∀ kind, kind ≠ .adfDuplex → ∀ s, caps.source? kind = some s →
      ∃ t, (decode caps document).caps.source? kind = some t ∧ s.Grown t) ∧
    (∀ name, caps.vendor = some name → (decode caps document).caps.vendor = some name) ∧
    (∀ name, caps.model = some name → (decode caps document).caps.model = some name) ∧
    ((Xml.elementPaths document).count configurationPath.toList ≤ 1 → ∀ d, caps.adfDuplex = some d →
      (configurationPath.toList ∉ Xml.elementPaths document ∧ (decode caps document).caps.adfDuplex = some d) ∨
      ∃ content k, Answered document content k ∧ SettledAnew k d (decode caps document).caps) := by
  refine ⟨fun kind hkind s hs => slot_stays h hkind hs, fun name hn => vendor_stays h hn,
    fun name hn => model_stays h hn, fun hone d hd => ?_⟩
  by_cases hconf : configurationPath.toList ∈ Xml.elementPaths document
  · obtain ⟨content, k, ht⟩ := answered_of_decode (le_antisymm hone (List.count_pos_iff.2 hconf)) h
    exact .inr ⟨content, k, ht, settledAnew_of_decode ht h hd⟩
  · exact .inl ⟨hconf, (sameSlots_of_decode hconf h .adfDuplex).trans hd⟩

/-- The feeder's answer, and then the one that lists both sides and formats. -/
theorem feeder_stays :
    (∃ s t, (decode ∅ feederAnswer).caps.source? .adfSimplex = some s ∧
      (decode (decode ∅ feederAnswer).caps twoSidedAnswer).caps.source? .adfSimplex = some t ∧ s.Grown t) ∧
    (∃ name, (decode ∅ feederAnswer).caps.vendor = some name ∧
      (decode (decode ∅ feederAnswer).caps twoSidedAnswer).caps.vendor = some name) ∧
    (∃ name, (decode ∅ feederAnswer).caps.model = some name ∧
      (decode (decode ∅ feederAnswer).caps twoSidedAnswer).caps.model = some name) ∧
    ∃ d content k, (decode ∅ feederAnswer).caps.adfDuplex = some d ∧ Answered twoSidedAnswer content k ∧
      SettledAnew k d (decode (decode ∅ feederAnswer).caps twoSidedAnswer).caps := by
  obtain ⟨-, hfeeder, hduplex, -⟩ := feederAnswer_read
  obtain ⟨hcount, hok, -, -, hfront⟩ := twoSidedAnswer_read
  have hsound := sound_of_decode ready_empty hfeeder
  obtain ⟨hslot, hvendor, hmodel, hboth⟩ := first_stays (decode_ok_of_empty hok (decode ∅ feederAnswer).caps)
  obtain ⟨s, hs⟩ := Option.isSome_iff_exists.1 hfront
  obtain ⟨t, hst⟩ := hslot .adfSimplex (by decide) s hs
  obtain ⟨vendor, hv, -⟩ := hsound.vendor
  obtain ⟨model, hm, -⟩ := hsound.model
  obtain ⟨d, hd⟩ := Option.isSome_iff_exists.1 hduplex
  refine ⟨⟨s, t, hs, hst⟩, ⟨vendor, hv, hvendor vendor hv⟩, ⟨model, hm, hmodel model hm⟩, ?_⟩
  rcases hboth (le_of_eq hcount) d hd with ⟨hnone, -⟩ | ⟨content, k, ht, hanew⟩
  · exact absurd (List.count_pos_iff.1 (by rw [hcount]; exact Nat.one_pos)) hnone
  · exact ⟨d, content, k, hd, ht, hanew⟩

end ScanDiscovery.Response
