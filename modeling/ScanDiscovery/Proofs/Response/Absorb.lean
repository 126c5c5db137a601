import ScanDiscovery.Proofs.Xml.Report
import ScanDiscovery.Response.Decode
/-!
# Proofs.Response.Absorb — what findings make of what was known

An answer is decoded by applying its findings, one after the other, until one is refused.  `absorb` is that fold with
the log left out, and `decode_eq` says that an answer is decoded by it: a refused finding comes before the failure of
the walk, and that before the lack of sources.  `settle_eq` says all that the end of a configuration does.
Specification only.
-/
namespace ScanDiscovery.Response

open Device

namespace Update

/-- What is known after an update, unless it was refused. -/
def toExcept (u : Update) : Except DecodeError Capabilities :=
  match u.refusal with
  | some e => .error e
  | none => .ok u.caps

@[simp] theorem toExcept_accepted (caps : Capabilities) (log : List Log.Entry) :
    (accepted caps log).toExcept = .ok caps := rfl

theorem toExcept_andThen (u : Update) (f : Capabilities → Update) :
    (u.andThen f).toExcept = u.toExcept.bind fun c => (f c).toExcept := by
  obtain ⟨caps, log, _ | e⟩ := u <;> rfl

end Update

/-- What some findings make of what was known, unless one of them is refused. -/
def absorb (caps : Capabilities) : List Finding → Except DecodeError Capabilities
  | [] => .ok caps
  | f :: fs => (f.apply caps).toExcept.bind fun c => absorb c fs

theorem absorb_append : ∀ (fs gs : List Finding) (caps : Capabilities),
    absorb caps (fs ++ gs) = (absorb caps fs).bind fun c => absorb c gs
  | [], gs, caps => rfl
  | f :: fs, gs, caps => by
    rw [List.cons_append, absorb, absorb]
    cases (f.apply caps).toExcept with
    | error e => rfl
    | ok c => exact absorb_append fs gs c

/-- **Findings that are accepted, taken apart.** -/
theorem absorb_append_ok {fs gs : List Finding} {caps c : Capabilities} :
    absorb caps (fs ++ gs) = .ok c ↔ ∃ b, absorb caps fs = .ok b ∧ absorb b gs = .ok c := by
  rw [absorb_append, Xml.bind_eq_ok]

theorem absorb_cons_ok {f : Finding} {fs : List Finding} {caps c : Capabilities} :
    absorb caps (f :: fs) = .ok c ↔ ∃ b, (f.apply caps).toExcept = .ok b ∧ absorb b fs = .ok c := by
  rw [absorb, Xml.bind_eq_ok]

/-- **What every accepted finding keeps, all of them keep.** -/
theorem absorb_keeps {I : Capabilities → Prop} (good : Finding → Prop)
    (step : ∀ f b c, good f → I b → (f.apply b).toExcept = .ok c → I c) : ∀ (fs : List Finding) (b c : Capabilities),
    (∀ f ∈ fs, good f) → I b → absorb b fs = .ok c → I c
  | [], b, c, _, hb, h => by
    cases h
    exact hb
  | f :: fs, b, c, hg, hb, h => by
    obtain ⟨d, hd, hc⟩ := absorb_cons_ok.1 h
    exact absorb_keeps good step fs d c (fun g hm => hg g (List.mem_cons_of_mem _ hm))
      (step f b d (hg f List.mem_cons_self) hb hd) hc

theorem applyAll_toExcept : ∀ (marks : List (Xml.Mark Finding)) (caps : Capabilities),
    (applyAll caps marks).toExcept = absorb caps (Xml.Mark.findings marks)
  | [], caps => rfl
  | .visited path :: marks, caps => applyAll_toExcept marks caps
  | .noted f :: marks, caps => by
    rw [applyAll, Update.toExcept_andThen, Xml.Mark.findings, absorb]
    congr 1
    funext c
    exact applyAll_toExcept marks c

/-! ## An answer -/

/-- The walk through an answer. -/
abbrev walked (document : Bytes) : Xml.Walk.Outcome Finding DecodeError Unit :=
  Xml.Walk.runDocument .malformedXml readResponse document

/-- What an answer makes of what was known, before the names that it does not give are filled in. -/
def learn (caps : Capabilities) (document : Bytes) : Except DecodeError Capabilities :=
  (absorb caps (Xml.Mark.findings (walked document).trace)).bind fun c =>
    (walked document).result.bind fun _ => (requireSources c).toExcept

theorem update_toExcept (caps : Capabilities) (document : Bytes) :
    (update readResponse document caps).toExcept =
      (absorb caps (Xml.Mark.findings (walked document).trace)).bind fun c =>
        (walked document).result.map fun _ => c := by
  rw [← applyAll_toExcept]
  unfold update
  dsimp only [walked]
  generalize Xml.Walk.runDocument DecodeError.malformedXml readResponse document = w
  obtain ⟨c, log, refusal⟩ := applyAll caps w.trace
  obtain ⟨result, trace, s, p⟩ := w
  cases refusal <;> cases result <;> rfl

/-- **An answer is decoded by its findings.**  One that cannot be used leaves nothing of what was known. -/
theorem decode_eq (caps : Capabilities) (document : Bytes) :
    (decode caps document).result = (learn caps document).map (fun _ => ()) ∧
      (decode caps document).caps = match learn caps document with
        | .ok c => complete c
        | .error _ => ∅ := by
  have h : learn caps document =
      ((update readResponse document caps).andThen requireSources).toExcept := by
    rw [Update.toExcept_andThen, update_toExcept, learn]
    cases absorb caps (Xml.Mark.findings (walked document).trace) with
    | error e => rfl
    | ok c => cases (walked document).result <;> rfl
  rw [h]
  unfold decode
  dsimp only
  generalize (update readResponse document caps).andThen requireSources = u
  obtain ⟨c, log, _ | e⟩ := u <;> exact ⟨rfl, rfl⟩

theorem decode_congr {caps : Capabilities} {document document' : Bytes}
    (h : learn caps document = learn caps document') :
    (decode caps document).result = (decode caps document').result ∧
      (decode caps document).caps = (decode caps document').caps := by
  obtain ⟨hr, hc⟩ := decode_eq caps document
  obtain ⟨hr', hc'⟩ := decode_eq caps document'
  rw [hr, hc, hr', hc', h]
  exact ⟨rfl, rfl⟩

theorem requireSources_ok_iff {b c : Capabilities} :
    (requireSources b).toExcept = .ok c ↔ b.sourceNames ≠ [] ∧ c = b.rebuildNames := by
  rw [← List.isEmpty_eq_false_iff]
  unfold requireSources Update.toExcept Capabilities.rebuildNames
  dsimp only
  by_cases h : b.sourceNames.isEmpty = true
  · simp [h]
  · simp [h, eq_comm]

theorem decode_of_absorb {caps c : Capabilities} {document : Bytes}
    (hc : absorb caps (Xml.Mark.findings (walked document).trace) = .ok c) (hw : (walked document).result = .ok ())
    (hne : c.sourceNames ≠ []) :
    (decode caps document).result = .ok () ∧ (decode caps document).caps = complete c.rebuildNames := by
  have hl : learn caps document = .ok c.rebuildNames := by
    rw [learn, hc, hw]
    exact requireSources_ok_iff.2 ⟨hne, rfl⟩
  obtain ⟨h1, h2⟩ := decode_eq caps document
  rw [h1, h2, hl]
  exact ⟨rfl, rfl⟩

/-- **An answer that can be used**: its walk does not fail, all its findings are accepted, and there is a source. -/
theorem decode_ok_iff {caps : Capabilities} {document : Bytes} :
    (decode caps document).result = .ok () ↔
      ∃ c, absorb caps (Xml.Mark.findings (walked document).trace) = .ok c ∧ (walked document).result = .ok () ∧
        c.sourceNames ≠ [] := by
  constructor
  · intro h
    rw [(decode_eq caps document).1] at h
    cases hl : learn caps document with
    | error e =>
      rw [hl] at h
      cases h
    | ok b =>
      obtain ⟨c, hc, hw⟩ := Xml.bind_eq_ok.1 hl
      obtain ⟨u, hu, hr⟩ := Xml.bind_eq_ok.1 hw
      exact ⟨c, hc, hu, (requireSources_ok_iff.1 hr).1⟩
  · rintro ⟨c, hc, hw, hne⟩
    exact (decode_of_absorb hc hw hne).1

/-- **An answer that cannot be used leaves nothing.** -/
theorem caps_of_error {caps : Capabilities} {document : Bytes} {e : DecodeError}
    (h : (decode caps document).result = .error e) : (decode caps document).caps = ∅ := by
  obtain ⟨h1, h2⟩ := decode_eq caps document
  rw [h2]
  rw [h] at h1
  cases hl : learn caps document with
  | error e' => rfl
  | ok c =>
    rw [hl] at h1
    cases h1

/-! ## The end of a configuration -/

/-- The sources with the formats of the device and windows that fit their sizes. -/
def dressed (o : Overview) (caps : Capabilities) : Capabilities :=
  caps.mapSources fun s => (s.addFormats o.formats).updateWindows Stated.units

/-- What the slot for double-sided scanning is to hold. -/
def duplexSlot (o : Overview) (caps : Capabilities) : Except DecodeError (Option Source) :=
  if o.feeder && o.duplex then
    match caps.adfSimplex with
    | none => .error .duplexWithoutFront
    | some front => .ok (duplexSource front caps.adfDuplex)
  else .ok none

/-- **What the end of a configuration does.** -/
theorem settle_eq (o : Overview) (caps : Capabilities) :
    (settle o caps).toExcept = (duplexSlot o (dressed o caps)).bind fun d =>
      (requireSources ((dressed o caps).replace .adfDuplex d)).toExcept := by
  rw [settle, Update.toExcept_andThen]
  show (resolveDuplex o (dressed o caps)).toExcept.bind _ = _
  generalize dressed o caps = c
  unfold resolveDuplex duplexSlot
  split
  · simp only [Capabilities.source?]
    cases c.adfSimplex <;> rfl
  · rfl

theorem settle_ok_iff {o : Overview} {b c : Capabilities} :
    (settle o b).toExcept = .ok c ↔ ∃ d, duplexSlot o (dressed o b) = .ok d ∧
      ((dressed o b).replace .adfDuplex d).sourceNames ≠ [] ∧
      c = ((dressed o b).replace .adfDuplex d).rebuildNames := by
  rw [settle_eq, Xml.bind_eq_ok]
  simp only [requireSources_ok_iff]

theorem commitSource_toExcept (kind : SourceKind) (s : Source) (caps : Capabilities) :
    (commitSource kind s caps).toExcept = .ok (caps.insert kind s) := by
  unfold commitSource Capabilities.insert
  cases caps.source? kind <;> simp

theorem sourceNames_eq_nil_iff {c : Capabilities} :
    c.sourceNames = [] ↔ c.flatbed = none ∧ c.adfSimplex = none ∧ c.adfDuplex = none := by
  obtain ⟨_, _, _, _, f, s, d, _⟩ := c
  cases f <;> cases s <;> cases d <;>
    simp [Capabilities.sourceNames, Capabilities.sources, SourceKind.all, Capabilities.source?]

end ScanDiscovery.Response
