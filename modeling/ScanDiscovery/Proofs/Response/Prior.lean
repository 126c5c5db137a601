import ScanDiscovery.Proofs.Response.Front
import ScanDiscovery.Proofs.Response.Truncated
/-!
# Proofs.Response.Prior — what was known before does not spoil an answer

One answer is read twice, where nothing was known and where something was.  The walk is the same, since it looks at
nothing that is known, and the findings are applied side by side: where the first run has a flatbed or a front, the
second has one too (`Covers`).  So the second accepts every finding that the first does, and has a source at the end if
the first has one (`result_whatever_known`).  Specification only.
-/
namespace ScanDiscovery.Response

open Device

/-- **More known, and still a source**: one for double-sided scanning does not come without a front. -/
theorem Covers.sourceNames_ne {b c : Capabilities} (h : Covers b c) (hb : Ready b) (hne : b.sourceNames ≠ []) :
    c.sourceNames ≠ [] := by
  intro hnil
  obtain ⟨hflatbed, hsimplex, -⟩ := sourceNames_eq_nil_iff.1 hnil
  refine hne (sourceNames_eq_nil_iff.2 ?_)
  have flatbed : b.flatbed = none := by
    by_contra hsome
    have hc := h .flatbed (by decide) (Option.isSome_iff_ne_none.2 hsome)
    rw [Capabilities.source?, hflatbed] at hc
    cases hc
  have simplex : b.adfSimplex = none := by
    by_contra hsome
    have hc := h .adfSimplex (by decide) (Option.isSome_iff_ne_none.2 hsome)
    rw [Capabilities.source?, hsimplex] at hc
    cases hc
  have duplex : b.adfDuplex = none := by
    by_contra hsome
    have hfront := hb.front (Option.isSome_iff_ne_none.2 hsome)
    rw [simplex] at hfront
    cases hfront
  exact ⟨flatbed, simplex, duplex⟩

/-- An answer that can be used where nothing was known can be used. -/
theorem decode_ok_of_empty {document : Bytes} (h : (decode ∅ document).result = .ok ()) (caps : Capabilities) :
    (decode caps document).result = .ok () := by
  obtain ⟨k, fs, b, hk, hroot, hfs, hb, -, hne⟩ := tree_of_decode h
  have hready : Ready b := Ready.response hfs ready_empty hb
  obtain ⟨hw, hfindings⟩ := walked_ok_iff.2 ⟨k, hk, hroot, hfs⟩
  obtain ⟨c, hc, hcov⟩ := (covers_empty caps).absorb fs hb
  exact decode_ok_iff.2 ⟨c, by rw [hfindings, hc], hw, hcov.sourceNames_ne hready hne⟩

/-- **What was known before neither spoils an answer nor changes what is wrong with it.**  Only an answer that has no
sources of its own may be read with other ones. -/
theorem result_whatever_known (caps : Capabilities) (document : Bytes) :
    (decode ∅ document).result = .error .noSources ∨ (decode caps document).result = (decode ∅ document).result := by
  cases h : (decode ∅ document).result with
  | ok u => exact .inr (decode_ok_of_empty h caps)
  | error e =>
    rcases decode_error h with rfl | ⟨hw, b, hb⟩
    · exact .inl rfl
    · -- the findings before the fault are accepted in either run, so both come to the fault
      obtain ⟨c, hc, -⟩ := (covers_empty caps).absorb _ hb
      have hl : learn caps document = .error e := by
        rw [learn, hc, hw]
        rfl
      rw [(decode_eq caps document).1, hl]
      exact .inr rfl

end ScanDiscovery.Response
