import ScanDiscovery.Proofs.Response.Soundness
/-!
# Proofs.Response.Duplex — double-sided scanning offers nothing that the front does not

While a configuration is read the slot for double-sided scanning holds the back as it was stated, or what an earlier
answer left; whatever it holds, the end of the configuration puts it below the front (`within_of_settle`), and nothing
that comes later in the answer touches a slot.  Specification only.
-/
namespace ScanDiscovery.Response

open Device
open Xml (Content)

/-- Double-sided scanning offers nothing that the front does not. -/
def DuplexWithin (c : Capabilities) : Prop :=
  ∀ s, c.adfDuplex = some s → ∃ front, c.adfSimplex = some front ∧ s.Within front

theorem duplexWithin_empty : DuplexWithin ∅ := fun s h => by cases h

/-- **The end of a configuration** puts double-sided scanning below the front, whatever the slots held before. -/
theorem within_of_settle {o : Overview} {b c : Capabilities} (h : (settle o b).toExcept = .ok c) : DuplexWithin c := by
  obtain ⟨d, hd, -, rfl⟩ := settle_ok_iff.1 h
  intro s hs
  obtain rfl : d = some s := hs
  obtain ⟨front, hfront, rfl | ⟨back, -, hm⟩⟩ := duplexSlot_some hd
  · exact ⟨s, hfront, .refl s⟩
  · exact ⟨front, hfront, Source.merge_within hm⟩

theorem within_of_configuration {k : Content} (hk : (configurationReport k).result = .ok ()) {b c : Capabilities}
    (h : absorb b (configurationReport k).findings = .ok c) : DuplexWithin c := by
  obtain ⟨gs, o, hgs, -, -⟩ := configuration_findings (show configurationReport k = ⟨_, .ok ()⟩ by rw [← hk])
  rw [hgs] at h
  obtain ⟨d, -, hc⟩ := absorb_append_ok.1 h
  obtain ⟨e, he, hec⟩ := absorb_cons_ok.1 hc
  cases hec
  exact within_of_settle he

/-- **A configuration anywhere in an answer** puts double-sided scanning below the front. -/
theorem within_of_decode {caps : Capabilities} {document : Bytes}
    (hconf : configurationPath.toList ∈ Xml.elementPaths document) (h : (decode caps document).result = .ok ()) :
    DuplexWithin (decode caps document).caps := by
  obtain ⟨k, fs, c, hd, -, hk, habs, hcaps, -⟩ := tree_of_decode h
  obtain ⟨-, hparts, rfl⟩ := responseReport_eq_ok.1 hk
  rw [hcaps]
  refine absorb_parts_reaches (I := DuplexWithin) (fun c name hc => hc) _ caps c (fun x hx he b c hbc => ?_)
    ((mem_elementPaths_iff hd .configuration).1 hconf) habs
  obtain ⟨part, k⟩ := x
  cases he
  exact within_of_configuration (hparts _ hx) hbc

/-- The three slots are the same. -/
def SameSlots (b c : Capabilities) : Prop := ∀ kind, c.source? kind = b.source? kind

/-- **Without a configuration the slots stay as they are.** -/
theorem sameSlots_of_decode {caps : Capabilities} {document : Bytes}
    (hconf : configurationPath.toList ∉ Xml.elementPaths document) (h : (decode caps document).result = .ok ()) :
    SameSlots caps (decode caps document).caps := by
  obtain ⟨k, fs, c, hd, -, hk, habs, hcaps, -⟩ := tree_of_decode h
  obtain ⟨-, -, rfl⟩ := responseReport_eq_ok.1 hk
  have hno : ∀ x ∈ k.parts [] AnswerPart.ofPath?, x.1 ≠ .configuration := fun x hx he =>
    hconf ((mem_elementPaths_iff hd .configuration).2 ⟨x, hx, he⟩)
  have hsame : SameSlots caps c :=
    absorb_parts_keeps (fun c name hc kind => by rw [← hc kind]; cases kind <;> rfl) _ caps c
      (fun x hx he => absurd he (hno x hx)) (fun _ => rfl) habs
  intro kind
  rw [hcaps, ← hsame kind]
  cases kind <;> rfl

theorem DuplexWithin.of_sameSlots {b c : Capabilities} (hb : DuplexWithin b) (h : SameSlots b c) : DuplexWithin c := by
  intro s hs
  obtain ⟨front, hfront, hw⟩ := hb s ((h .adfDuplex).symm.trans hs)
  exact ⟨front, (h .adfSimplex).trans hfront, hw⟩

theorem DuplexWithin.decode {caps : Capabilities} (hc : DuplexWithin caps) (document : Bytes) :
    DuplexWithin (decode caps document).caps := by
  cases h : (Response.decode caps document).result with
  | error e =>
    rw [caps_of_error h]
    exact duplexWithin_empty
  | ok u =>
    by_cases hconf : configurationPath.toList ∈ Xml.elementPaths document
    · exact within_of_decode hconf h
    · exact hc.of_sameSlots (sameSlots_of_decode hconf h)

theorem DuplexWithin.foldl_decode (documents : List Bytes) : ∀ caps, DuplexWithin caps →
    DuplexWithin (documents.foldl (fun c d => (Response.decode c d).caps) caps) := by
  induction documents with
  | nil => exact fun caps hc => hc
  | cons d documents ih => exact fun caps hc => ih _ (hc.decode d)

/-- **Double-sided scanning offers nothing that the front does not**: after every answer that has a configuration and
can be used, whatever was known before; an answer without one leaves the slots as they are, if it can be used, and
nothing otherwise; and so after any run of answers from nothing. -/
theorem duplex_below_front :
    (∀ caps document, configurationPath.toList ∈ Xml.elementPaths document → (decode caps document).result = .ok () →
      ∀ s, (decode caps document).caps.adfDuplex = some s →
        ∃ front, (decode caps document).caps.adfSimplex = some front ∧ s.Within front) ∧
    (∀ caps document, configurationPath.toList ∉ Xml.elementPaths document →
      match (decode caps document).result with
      | .ok () => ∀ kind, (decode caps document).caps.source? kind = caps.source? kind
      | .error _ => (decode caps document).caps = ∅) ∧
    ∀ documents : List Bytes, DuplexWithin (documents.foldl (fun c d => (decode c d).caps) ∅) := by
  refine ⟨fun _ _ hconf h => within_of_decode hconf h, fun caps document hconf => ?_, fun documents =>
    DuplexWithin.foldl_decode documents ∅ duplexWithin_empty⟩
  cases h : (decode caps document).result with
  | error e => exact caps_of_error h
  | ok u => exact sameSlots_of_decode hconf h

theorem feeder_duplex_below_front :
    (∃ s front, (decode ∅ feederAnswer).caps.adfDuplex = some s ∧
      (decode ∅ feederAnswer).caps.adfSimplex = some front ∧ s.Within front) ∧
    ∀ kind, (decode (decode ∅ feederAnswer).caps (writtenAnswer [])).caps.source? kind =
      (decode ∅ feederAnswer).caps.source? kind := by
  obtain ⟨hconf, hok, hduplex, hnone, hnext⟩ := feederAnswer_read
  constructor
  · obtain ⟨s, hs⟩ := Option.isSome_iff_exists.1 hduplex
    have hmem : configurationPath.toList ∈ Xml.elementPaths feederAnswer :=
      List.count_pos_iff.1 (by rw [hconf]; exact Nat.one_pos)
    obtain ⟨front, hfront, hw⟩ := duplex_below_front.1 ∅ feederAnswer hmem hok s hs
    exact ⟨s, front, hs, hfront, hw⟩
  · -- as variables, since elaboration would evaluate these closed terms
    generalize (decode ∅ feederAnswer).caps = caps, writtenAnswer [] = document at hnone hnext
    have h := duplex_below_front.2.1 caps document (List.count_eq_zero.1 hnone)
    rw [hnext] at h
    exact h

end ScanDiscovery.Response
