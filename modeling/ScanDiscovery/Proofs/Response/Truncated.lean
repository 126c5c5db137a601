import ScanDiscovery.Proofs.Response.Soundness
import ScanDiscovery.Proofs.Xml.Cut
/-!
# Proofs.Response.Truncated — an answer that was cut short is never used

What is refused is refused for a source that is missing, so findings that are accepted where nothing was known are
accepted where something was (`Covers.absorb`).  The beginning of an answer gives the first of its findings and then
fails for a fault of the document: no finding is refused before that, and no answer is used without its end
(`truncated_is_malformed`).  Specification only.
-/
namespace ScanDiscovery.Response

open Device
open Xml (EndsRoot)

/-- Where there is a flatbed or a front in the one, there is in the other. -/
def Covers (b c : Capabilities) : Prop :=
  ∀ kind, kind ≠ .adfDuplex → (b.source? kind).isSome = true → (c.source? kind).isSome = true

theorem covers_empty (c : Capabilities) : Covers ∅ c := fun kind _ h => by cases kind <;> cases h

theorem isSome_insert (c : Capabilities) (kind other : SourceKind) (s : Source) :
    ((c.insert kind s).source? other).isSome = true ↔ other = kind ∨ (c.source? other).isSome = true := by
  by_cases he : other = kind
  · rw [he, Capabilities.source?_insert_self]
    exact ⟨fun _ => .inl rfl, fun _ => rfl⟩
  · have hother : (c.insert kind s).source? other = c.source? other := by
      unfold Capabilities.insert
      split
      · rfl
      · exact Capabilities.source?_replace_of_ne _ _ he
    rw [hother]
    exact ⟨.inr, fun h => h.resolve_left he⟩

namespace Covers

variable {b c : Capabilities}

theorem insert (h : Covers b c) (kind : SourceKind) (s : Source) : Covers (b.insert kind s) (c.insert kind s) :=
  fun other hne hb => (isSome_insert c kind other s).2 (((isSome_insert b kind other s).1 hb).imp_right (h other hne))

theorem dressed (h : Covers b c) (o : Overview) : Covers (dressed o b) (dressed o c) := fun kind hne hb => by
  rw [Response.dressed, Capabilities.source?_mapSources, Option.isSome_map] at hb ⊢
  exact h kind hne hb

theorem replace (h : Covers b c) (d d' : Option Source) :
    Covers (b.replace .adfDuplex d).rebuildNames (c.replace .adfDuplex d').rebuildNames := fun kind hne hb => by
  rw [Capabilities.source?_rebuildNames, Capabilities.source?_replace_of_ne _ _ hne] at hb ⊢
  exact h kind hne hb

theorem duplexSlot {o : Overview} {d : Option Source} (h : Covers b c) (hd : duplexSlot o b = .ok d) :
    ∃ d', Response.duplexSlot o c = .ok d' := by
  unfold Response.duplexSlot at hd ⊢
  split at hd
  · rename_i hboth
    rw [if_pos hboth]
    cases hf : b.adfSimplex with
    | none =>
      rw [hf] at hd
      cases hd
    | some front =>
      have hsome : (b.source? .adfSimplex).isSome = true := by rw [Capabilities.source?, hf]; rfl
      obtain ⟨front', hf'⟩ := Option.isSome_iff_exists.1 (h .adfSimplex (by decide) hsome)
      rw [show c.adfSimplex = some front' from hf']
      exact ⟨_, rfl⟩
  · rename_i hboth
    rw [if_neg hboth]
    exact ⟨none, rfl⟩

/-- There is a source other than the double-sided one, which takes a front. -/
theorem exists_source {o : Overview} {d : Option Source} (hd : Response.duplexSlot o b = .ok d)
    (hne : (b.replace .adfDuplex d).sourceNames ≠ []) : ∃ kind, kind ≠ .adfDuplex ∧ (b.source? kind).isSome = true := by
  cases d with
  | some s =>
    obtain ⟨front, hf, -⟩ := duplexSlot_some hd
    exact ⟨.adfSimplex, by decide, by rw [Capabilities.source?, hf]; rfl⟩
  | none =>
    by_cases hf : b.flatbed = none
    · by_cases hs : b.adfSimplex = none
      · have hnil : (b.replace .adfDuplex none).sourceNames = [] := sourceNames_eq_nil_iff.2 ⟨hf, hs, rfl⟩
        exact absurd hnil hne
      · exact ⟨.adfSimplex, by decide, Option.isSome_iff_ne_none.2 hs⟩
    · exact ⟨.flatbed, by decide, Option.isSome_iff_ne_none.2 hf⟩

/-- **The end of a configuration.** -/
theorem settle {o : Overview} {b' : Capabilities} (h : Covers b c) (hb : (settle o b).toExcept = .ok b') :
    ∃ c', (Response.settle o c).toExcept = .ok c' ∧ Covers b' c' := by
  obtain ⟨d, hd, hne, rfl⟩ := settle_ok_iff.1 hb
  have hdr := h.dressed o
  obtain ⟨d', hd'⟩ := hdr.duplexSlot hd
  obtain ⟨kind, hk, hsome⟩ := exists_source hd hne
  refine ⟨_, settle_ok_iff.2 ⟨d', hd', fun hnil => ?_, rfl⟩, hdr.replace d d'⟩
  obtain ⟨hf, hs, -⟩ := sourceNames_eq_nil_iff.1 hnil
  have hc := hdr kind hk hsome
  cases kind with
  | flatbed =>
    rw [Capabilities.source?, show (Response.dressed o c).flatbed = none from hf] at hc
    cases hc
  | adfSimplex =>
    rw [Capabilities.source?, show (Response.dressed o c).adfSimplex = none from hs] at hc
    cases hc
  | adfDuplex => exact hk rfl

/-- **One finding.** -/
theorem apply {f : Finding} {b' : Capabilities} (h : Covers b c) (hb : (f.apply b).toExcept = .ok b') :
    ∃ c', (f.apply c).toExcept = .ok c' ∧ Covers b' c' := by
  cases f with
  | named name =>
    cases hb
    exact ⟨_, rfl, fun kind hne hk => by cases kind <;> exact h _ hne hk⟩
  | unknownFormat tag =>
    cases hb
    exact ⟨c, rfl, h⟩
  | unknownColor kind tag =>
    cases hb
    exact ⟨c, rfl, h⟩
  | source kind s =>
    rw [Finding.apply, commitSource_toExcept] at hb ⊢
    cases hb
    exact ⟨_, rfl, h.insert kind s⟩
  | configured o => exact h.settle hb

/-- **Findings that are accepted, are accepted where more is known**, and leave more known there. -/
theorem absorb : ∀ (fs : List Finding) {b c b' : Capabilities}, Covers b c → absorb b fs = .ok b' →
    ∃ c', Response.absorb c fs = .ok c' ∧ Covers b' c'
  | [], b, c, b', h, hb => by
    cases hb
    exact ⟨c, rfl, h⟩
  | f :: fs, b, c, b', h, hb => by
    obtain ⟨d, hd, hrest⟩ := absorb_cons_ok.1 hb
    obtain ⟨d', hd', hcov⟩ := h.apply hd
    obtain ⟨c', hc', hcov'⟩ := absorb fs hcov hrest
    exact ⟨c', absorb_cons_ok.2 ⟨d', hd', hc'⟩, hcov'⟩

end Covers

theorem walked_beginning {p s : Bytes} (hp : ¬ Xml.ClosesRoot p) (hw : (walked (p ++ s)).result = .ok ()) :
    ∃ e, (walked p).result = .error (.malformedXml e) ∧
      Xml.Mark.findings (walked p).trace <+: Xml.Mark.findings (walked (p ++ s)).trace :=
  Xml.Walk.run_beginning hp hw

theorem decode_beginning {caps : Capabilities} {p s : Bytes} (h : (decode ∅ (p ++ s)).result = .ok ())
    (hp : ¬ Xml.ClosesRoot p) :
    ∃ e, (decode caps p).result = .error (.malformedXml e) ∧ (decode caps p).caps = ∅ := by
  obtain ⟨c, hc, hw, -⟩ := decode_ok_iff.1 h
  obtain ⟨e, he, more, hmore⟩ := walked_beginning hp hw
  rw [← hmore] at hc
  obtain ⟨d, hd, -⟩ := absorb_append_ok.1 hc
  obtain ⟨c', hc', -⟩ := (covers_empty caps).absorb _ hd
  have hl : learn caps p = .error (.malformedXml e) := by
    rw [learn, hc', he]
    rfl
  have hr : (decode caps p).result = .error (.malformedXml e) := by
    rw [(decode_eq caps p).1, hl]
    rfl
  exact ⟨e, hr, caps_of_error hr⟩

/-- **An answer that was cut short is never used.**  An answer that can be used, where nothing was known, has a `>` that
ends its root; cut anywhere before that it is malformed, whatever was known, and leaves nothing of it. -/
theorem truncated_is_malformed (document : Bytes) (h : (decode ∅ document).result = .ok ()) :
    (∃ a z, document = a ++ 0x3E :: z ∧ EndsRoot a) ∧
      ∀ a z, document = a ++ 0x3E :: z → EndsRoot a → ∀ p, p <+: a → ∀ caps,
        ∃ e, (decode caps p).result = .error (.malformedXml e) ∧ (decode caps p).caps = ∅ := by
  constructor
  · obtain ⟨c, -, hw, -⟩ := decode_ok_iff.1 h
    exact Xml.exists_endsRoot (Xml.Walk.closesRoot_of_run hw)
  · rintro a z rfl ha p ⟨q, rfl⟩ caps
    have hp : ¬ Xml.ClosesRoot p := fun hp => ha.1 (hp.append q)
    rw [List.append_assoc] at h
    exact decode_beginning h hp

theorem feeder_truncated :
    (decode ∅ feederAnswer).result = .ok () ∧ EndsRoot feederAnswer.dropLast ∧
      ∀ p, p <+: feederAnswer.dropLast → ∀ caps,
        ∃ e, (decode caps p).result = .error (.malformedXml e) ∧ (decode caps p).caps = ∅ := by
  have hok : (decode ∅ feederAnswer).result = .ok () := feederAnswer_read.2.1
  have hcut : feederAnswer = feederAnswer.dropLast ++ 0x3E :: [] ∧ EndsRoot feederAnswer.dropLast := by decide +kernel
  exact ⟨hok, hcut.2, (truncated_is_malformed feederAnswer hok).2 _ [] hcut.1 hcut.2⟩

end ScanDiscovery.Response
