import ScanDiscovery.Proofs.Response.Configuration
/-!
# Proofs.Response.Settled — what a configuration leaves in the slots

A configuration may come first of all, behind another one in the same answer, or after answers that have filled the
slots.  What it leaves is in each case the same function of itself and of what the slots held (`absorb_settled`): the
flatbed and the front that were there, or else the first ones it lists, with its formats added; and double-sided
scanning only where it lists a front and says so, as far as the front and what the slot held, or else the first back,
both go.  Specification only.
-/
namespace ScanDiscovery.Response

open Device
open Xml (Content Path isPart)

/-- What a configuration leaves in the slot of a kind: the source that was there, or else the first one listed. -/
def held (kind : SourceKind) (k : Content) (before : Option Source) : Option Source :=
  (before.or (sourcesIn kind k).head?).map (·.dress (formatsIn k) Stated.units)

theorem isSome_held (kind : SourceKind) (k : Content) (before : Option Source) :
    (held kind k before).isSome = (before.isSome || !(sourcesIn kind k).isEmpty) := by
  rw [held, Option.isSome_map, Option.isSome_or]
  cases sourcesIn kind k <;> rfl

/-- What a configuration leaves for double-sided scanning, by what was there for the front and for both sides. -/
def heldDuplex (k : Content) (front duplex : Option Source) : Option Source :=
  if !(sourcesIn .adfSimplex k).isEmpty && duplexIn k then
    (held .adfSimplex k front).bind fun f => duplexSource f (held .adfDuplex k duplex)
  else none

/-- **What is known at the end of a configuration**, but for the list of names. -/
def settled (k : Content) (c : Capabilities) : Capabilities :=
  { c with
    flatbed := held .flatbed k c.flatbed
    adfSimplex := held .adfSimplex k c.adfSimplex
    adfDuplex := heldDuplex k c.adfSimplex c.adfDuplex }

theorem source?_settled {kind : SourceKind} (hk : kind ≠ .adfDuplex) (k : Content) (c : Capabilities) :
    (settled k c).source? kind = held kind k (c.source? kind) := by
  cases kind with
  | flatbed => rfl
  | adfSimplex => rfl
  | adfDuplex => exact absurd rfl hk

theorem sourcesIn_eq_nil_iff {kind : SourceKind} {k : Content}
    (h : ∀ e ∈ k.contentsAt configurationPath.toList (ConfigurationPart.source kind).path,
      ∃ s, sourceIn kind e = .ok s) :
    sourcesIn kind k = [] ↔ k.contentsAt configurationPath.toList (ConfigurationPart.source kind).path = [] := by
  rw [sourcesIn, List.filterMap_eq_nil_iff, List.eq_nil_iff_forall_not_mem]
  refine forall_congr' fun e => ⟨fun hnone he => ?_, fun hno he => absurd he hno⟩
  obtain ⟨s, hs⟩ := h e he
  cases (hnone he).symm.trans (by rw [hs]; rfl : _ = some s)

/-- A configuration lists a source of this kind. -/
def lists (kind : SourceKind) (k : Content) : Bool :=
  !(k.contentsAt configurationPath.toList (ConfigurationPart.source kind).path).isEmpty

theorem lists_iff {kind : SourceKind} {k : Content} :
    lists kind k = true ↔ k.contentsAt configurationPath.toList (ConfigurationPart.source kind).path ≠ [] := by
  rw [lists, Bool.not_eq_true', List.isEmpty_eq_false_iff]

theorem configurationReport_result {k : Content} :
    (configurationReport k).result = .ok () ↔
      k.Clear (isPart configurationPath.toList ConfigurationPart.ofPath?) configurationPath.toList ∧
        ∀ x ∈ k.parts configurationPath.toList ConfigurationPart.ofPath?,
          ∃ said, (partItem x.1 x.2).result = .ok said := by
  rw [configurationReport, Xml.Report.andThen_result]
  simp only [Xml.Report.result_eq_ok, overviewReport_eq_ok]
  constructor
  · rintro ⟨_, ⟨_, hc, hx, -⟩, -⟩
    exact ⟨hc, hx⟩
  · rintro ⟨hc, hx⟩
    exact ⟨_, ⟨_, hc, hx, rfl, rfl⟩, trivial⟩

theorem absorb_configured (c : Capabilities) (o : Overview) : absorb c [.configured o] = (settle o c).toExcept := by
  rw [absorb, show (Finding.configured o).apply c = settle o c from rfl]
  cases (settle o c).toExcept <;> rfl

theorem duplexSlot_eq {o : Overview} {k : Content} (hfeeder : o.feeder = true ↔ sourcesIn .adfSimplex k ≠ [])
    (hduplex : o.duplex = duplexIn k) {c : Capabilities} {front duplex : Option Source}
    (hs : c.adfSimplex = held .adfSimplex k front) (hd : c.adfDuplex = held .adfDuplex k duplex) :
    duplexSlot o c = .ok (heldDuplex k front duplex) := by
  unfold duplexSlot heldDuplex
  rw [hs, hd, hduplex]
  cases hl : sourcesIn .adfSimplex k with
  | nil =>
    have hf : o.feeder = false := Bool.eq_false_iff.2 fun h => hfeeder.1 h hl
    rw [hf]
    rfl
  | cons s l =>
    have hf : o.feeder = true := hfeeder.2 (by rw [hl]; exact List.cons_ne_nil _ _)
    obtain ⟨f, hsome⟩ : ∃ f, held .adfSimplex k front = some f :=
      Option.isSome_iff_exists.1 (by rw [isSome_held, hl]; exact Bool.or_true _)
    rw [hf, hsome]
    cases duplexIn k <;> rfl

/-- **What a configuration does**, whatever was known before it. -/
theorem absorb_settled {k : Content} (hok : (configurationReport k).result = .ok ()) (c : Capabilities) :
    absorb c (configurationReport k).findings = (requireSources (settled k c)).toExcept := by
  obtain ⟨-, hparts⟩ := configurationReport_result.1 hok
  obtain ⟨fs, hfs⟩ := Xml.Report.result_eq_ok.1 hok
  obtain ⟨gs, o, ho, rfl⟩ := configurationReport_eq_ok.1 hfs
  obtain ⟨-, -, rfl, hheard⟩ := overviewReport_eq_ok.1 ho
  obtain ⟨hfeeder, hduplex, hformats⟩ := overview_of_parts hparts hheard
  have hdress : dressed o { c with
      flatbed := c.flatbed.or (sourcesIn .flatbed k).head?
      adfSimplex := c.adfSimplex.or (sourcesIn .adfSimplex k).head?
      adfDuplex := c.adfDuplex.or (sourcesIn .adfDuplex k).head? } = { c with
      flatbed := held .flatbed k c.flatbed
      adfSimplex := held .adfSimplex k c.adfSimplex
      adfDuplex := held .adfDuplex k c.adfDuplex } := by
    rw [dressed, Capabilities.mapSources, hformats]
    rfl
  rw [hfs, absorb_append, fill_of_parts hparts]
  simp only [Except.bind]
  rw [absorb_configured, settle_eq, hdress, duplexSlot_eq hfeeder hduplex rfl rfl]
  rfl

theorem sourceNames_settled_ne {k : Content} {c : Capabilities} :
    (settled k c).sourceNames ≠ [] ↔
      (held .flatbed k c.flatbed).isSome = true ∨ (held .adfSimplex k c.adfSimplex).isSome = true := by
  rw [ne_eq, sourceNames_eq_nil_iff, settled]
  cases hf : held .flatbed k c.flatbed with
  | some s => simp
  | none =>
    cases hs : held .adfSimplex k c.adfSimplex with
    | some s => simp
    | none =>
      -- with no front there is nothing for both sides either
      simp [heldDuplex, hs]

/-! ## One configuration after another -/

/-- What is known after several configurations, each of which must leave a source. -/
def settledBy (ks : List Content) (c : Capabilities) : Except DecodeError Capabilities :=
  ks.foldlM (fun c k => (requireSources (settled k c)).toExcept) c

theorem settledBy_cons_ok {k : Content} {ks : List Content} {b c : Capabilities} :
    settledBy (k :: ks) b = .ok c ↔
      (settled k b).sourceNames ≠ [] ∧ settledBy ks (settled k b).rebuildNames = .ok c := by
  have hcons : settledBy (k :: ks) b = (requireSources (settled k b)).toExcept.bind (settledBy ks) := by
    rw [settledBy, List.foldlM_cons]
    rfl
  rw [hcons, Xml.bind_eq_ok]
  simp only [requireSources_ok_iff]
  constructor
  · rintro ⟨_, ⟨hne, rfl⟩, h⟩
    exact ⟨hne, h⟩
  · rintro ⟨hne, h⟩
    exact ⟨_, ⟨hne, rfl⟩, h⟩

/-- **What one configuration keeps, several keep**; the configurations that are done come along. -/
theorem settledBy_keeps {I : List Content → Capabilities → Prop} (good : Content → Prop)
    (step : ∀ done k b, good k → I done b → I (done ++ [k]) (settled k b).rebuildNames) :
    ∀ (ks done : List Content) (b c : Capabilities), (∀ k ∈ ks, good k) → I done b → settledBy ks b = .ok c →
      I (done ++ ks) c
  | [], done, b, c, _, hb, h => by
    cases h
    rw [List.append_nil]
    exact hb
  | k :: ks, done, b, c, hg, hb, h => by
    obtain ⟨-, h⟩ := settledBy_cons_ok.1 h
    have ih := settledBy_keeps good step ks (done ++ [k]) _ c (fun k' hk => hg k' (List.mem_cons_of_mem _ hk))
      (step done k b (hg k List.mem_cons_self) hb) h
    rwa [List.append_assoc, List.singleton_append] at ih

/-- **Once there is a flatbed or a front**, no configuration is refused, and there is one at the end. -/
theorem settledBy_ok : ∀ (ks : List Content) (c : Capabilities),
    (c.flatbed.isSome = true ∨ c.adfSimplex.isSome = true) →
      ∃ b, settledBy ks c = .ok b ∧ (b.flatbed.isSome = true ∨ b.adfSimplex.isSome = true)
  | [], c, hc => ⟨c, rfl, hc⟩
  | k :: ks, c, hc => by
    have hkept : (held .flatbed k c.flatbed).isSome = true ∨ (held .adfSimplex k c.adfSimplex).isSome = true := by
      simp only [isSome_held, Bool.or_eq_true]
      exact hc.imp .inl .inl
    obtain ⟨b, hb, hlast⟩ := settledBy_ok ks (settled k c).rebuildNames hkept
    exact ⟨b, settledBy_cons_ok.2 ⟨sourceNames_settled_ne.2 hkept, hb⟩, hlast⟩

end ScanDiscovery.Response
