import ScanDiscovery.Proofs.Device.Sources
/-!
# Proofs.Device.Meet — what two sources can both do is the greatest source within both

Sources are ordered by what they offer (`Contained`).  `meet` is the greatest lower bound of two of them
(`contained_meet_iff`), whose windows are derived; two sources that contain each other and have derived windows are
the same record.  A source that contains one of use is of use, so `merge` refuses just where nothing of use is within
both: its laws (`merge_is_meet`) come from these facts alone.  Specification only.
-/
namespace ScanDiscovery.Device

namespace Source

/-- `s` is contained in `t`: what it offers `t` offers, and where it offers only what is listed so does `t`. -/
structure Contained (s t : Source) : Prop extends Within s t where
  discrete : s.discrete = true → t.discrete = true

/-- Something can be scanned. -/
structure Usable (s : Source) : Prop where
  resolution : ∃ r, r ∈ s.resolutions
  colorMode : ∃ c, c ∈ s.colorModes
  width : s.width.min ≤ s.width.max
  height : s.height.min ≤ s.height.max

/-- The windows are those of the largest size. -/
structure Derived (units : UInt32) (s : Source) : Prop where
  xWindow : s.xWindow = ⟨0.0, pxToMm s.width.max units⟩
  yWindow : s.yWindow = ⟨0.0, pxToMm s.height.max units⟩

/-- What sources can both do, where both are known and what they can do is of use. -/
def merge? (units : UInt32) (s t : Option Source) : Option Source := s.bind fun s => t.bind fun t => s.merge t units

variable {units : UInt32} {s t u m c : Source}

theorem Contained.refl (s : Source) : s.Contained s := ⟨.refl s, id⟩

theorem Contained.trans (h : s.Contained t) (h' : t.Contained u) : s.Contained u where
  resolutions r hr := h'.resolutions r (h.resolutions r hr)
  colorModes c hc := h'.colorModes c (h.colorModes c hc)
  formats f hf := h'.formats f (h.formats f hf)
  minWidth := UInt32.le_trans h'.minWidth h.minWidth
  minHeight := UInt32.le_trans h'.minHeight h.minHeight
  maxWidth := UInt32.le_trans h.maxWidth h'.maxWidth
  maxHeight := UInt32.le_trans h.maxHeight h'.maxHeight
  discrete hd := h'.discrete (h.discrete hd)

theorem Derived.updateWindows (h : s.Derived units) : s.updateWindows units = s :=
  updateWindows_eq_self h.xWindow h.yWindow

theorem derived_meet (s t : Source) (units : UInt32) : (s.meet t units).Derived units := ⟨rfl, rfl⟩

theorem ext_extent {e f : Extent} (hmin : e.min = f.min) (hmax : e.max = f.max) : e = f := by
  cases e
  cases f
  subst hmin hmax
  rfl

theorem ext_offer (hr : s.resolutions = t.resolutions) (hd : s.discrete = t.discrete)
    (hc : s.colorModes = t.colorModes) (hf : s.formats = t.formats) (hw : s.width = t.width)
    (hh : s.height = t.height) : s.updateWindows units = t.updateWindows units := by
  unfold Source.updateWindows
  rw [hr, hd, hc, hf, hw, hh]

/-- **Sources that contain each other** differ in their windows at most. -/
theorem Contained.antisymm (h : s.Contained t) (h' : t.Contained s) (hs : s.Derived units) (ht : t.Derived units) :
    s = t := by
  have hmodes : s.colorModes = t.colorModes := ColorModes.ext_mem fun c => ⟨h.colorModes c, h'.colorModes c⟩
  have hformats : s.formats = t.formats := Formats.ext_mem fun f => ⟨h.formats f, h'.formats f⟩
  have hwidth : s.width = t.width :=
    ext_extent (UInt32.le_antisymm h'.minWidth h.minWidth) (UInt32.le_antisymm h.maxWidth h'.maxWidth)
  have hheight : s.height = t.height :=
    ext_extent (UInt32.le_antisymm h'.minHeight h.minHeight) (UInt32.le_antisymm h.maxHeight h'.maxHeight)
  calc s = s.updateWindows units := hs.updateWindows.symm
    _ = t.updateWindows units :=
        ext_offer (Resolutions.ext_mem fun r => ⟨h.resolutions r, h'.resolutions r⟩)
          (Bool.eq_iff_iff.2 ⟨h.discrete, h'.discrete⟩) hmodes hformats hwidth hheight
    _ = t := ht.updateWindows

/-! ## The greatest source within both -/

theorem min_inter_le_iff {e f : Extent} {x : UInt32} : (e ∩ f).min ≤ x ↔ e.min ≤ x ∧ f.min ≤ x := by
  show (if e.min < f.min then f.min else e.min) ≤ x ↔ _
  by_cases h : e.min < f.min
  · rw [if_pos h]
    constructor
    · intro hf
      exact ⟨UInt32.le_trans (UInt32.le_of_lt h) hf, hf⟩
    · exact And.right
  · rw [if_neg h]
    constructor
    · intro he
      exact ⟨he, UInt32.le_trans (UInt32.not_lt.1 h) he⟩
    · exact And.left

theorem le_max_inter_iff {e f : Extent} {x : UInt32} : x ≤ (e ∩ f).max ↔ x ≤ e.max ∧ x ≤ f.max := by
  show x ≤ (if f.max < e.max then f.max else e.max) ↔ _
  by_cases h : f.max < e.max
  · rw [if_pos h]
    constructor
    · intro hf
      exact ⟨UInt32.le_trans hf (UInt32.le_of_lt h), hf⟩
    · exact And.right
  · rw [if_neg h]
    constructor
    · intro he
      exact ⟨he, UInt32.le_trans he (UInt32.not_lt.1 h)⟩
    · exact And.left

/-- **A source is within what two have in common** where it is within both. -/
theorem contained_meet_iff : c.Contained (s.meet t units) ↔ c.Contained s ∧ c.Contained t := by
  have hd : (s.meet t units).discrete = true ↔ s.discrete = true ∧ t.discrete = true := Bool.and_eq_true_iff
  constructor
  · intro h
    have hleft : (s.meet t units).Contained s := ⟨meet_within s t units, fun h => (hd.1 h).1⟩
    refine ⟨h.trans hleft, h.trans ?_⟩
    exact {
      resolutions := fun _ hr => (Resolutions.mem_inter.1 hr).2
      colorModes := fun _ hc => (ColorModes.mem_inter.1 hc).2
      formats := fun _ hf => (Formats.mem_inter.1 hf).2
      minWidth := (min_inter_le_iff.1 (UInt32.le_refl _)).2
      minHeight := (min_inter_le_iff.1 (UInt32.le_refl _)).2
      maxWidth := (le_max_inter_iff.1 (UInt32.le_refl _)).2
      maxHeight := (le_max_inter_iff.1 (UInt32.le_refl _)).2
      discrete := fun h => (hd.1 h).2 }
  · rintro ⟨hs, ht⟩
    exact {
      resolutions := fun r hr => Resolutions.mem_inter.2 ⟨hs.resolutions r hr, ht.resolutions r hr⟩
      colorModes := fun m hm => ColorModes.mem_inter.2 ⟨hs.colorModes m hm, ht.colorModes m hm⟩
      formats := fun f hf => Formats.mem_inter.2 ⟨hs.formats f hf, ht.formats f hf⟩
      minWidth := min_inter_le_iff.2 ⟨hs.minWidth, ht.minWidth⟩
      minHeight := min_inter_le_iff.2 ⟨hs.minHeight, ht.minHeight⟩
      maxWidth := le_max_inter_iff.2 ⟨hs.maxWidth, ht.maxWidth⟩
      maxHeight := le_max_inter_iff.2 ⟨hs.maxHeight, ht.maxHeight⟩
      discrete := fun h => hd.2 ⟨hs.discrete h, ht.discrete h⟩ }

theorem meet_contained (s t : Source) (units : UInt32) :
    (s.meet t units).Contained s ∧ (s.meet t units).Contained t := contained_meet_iff.1 (.refl _)

theorem meet_comm (s t : Source) (units : UInt32) : s.meet t units = t.meet s units := by
  have h := meet_contained s t units
  have h' := meet_contained t s units
  exact Contained.antisymm (contained_meet_iff.2 h.symm) (contained_meet_iff.2 h'.symm) (derived_meet ..)
    (derived_meet ..)

theorem meet_assoc (s t u : Source) (units : UInt32) :
    (s.meet t units).meet u units = s.meet (t.meet u units) units := by
  refine Contained.antisymm ?_ ?_ (derived_meet ..) (derived_meet ..)
  · obtain ⟨hst, hu⟩ := meet_contained (s.meet t units) u units
    obtain ⟨hs, ht⟩ := contained_meet_iff.1 hst
    exact contained_meet_iff.2 ⟨hs, contained_meet_iff.2 ⟨ht, hu⟩⟩
  · obtain ⟨hs, htu⟩ := meet_contained s (t.meet u units) units
    obtain ⟨ht, hu⟩ := contained_meet_iff.1 htu
    exact contained_meet_iff.2 ⟨contained_meet_iff.2 ⟨hs, ht⟩, hu⟩

/-! ## What is of use -/

theorem isUsable_iff : s.isUsable = true ↔ s.Usable := by
  have hres : s.resolutions.isEmpty = false ↔ ∃ r, r ∈ s.resolutions := by
    obtain ⟨l, hl⟩ := s.resolutions
    cases l with
    | nil => simp [Resolutions.isEmpty, Resolutions.mem_iff]
    | cons r l => exact iff_of_true rfl ⟨r, List.mem_cons_self⟩
  have hmodes : s.colorModes ≠ ∅ ↔ ∃ c, c ∈ s.colorModes := by
    constructor
    · intro hne
      refine Classical.byContradiction fun h => hne (ColorModes.ext_mem fun c => ?_)
      exact iff_of_false (fun hc => h ⟨c, hc⟩) ColorModes.not_mem_empty
    · rintro ⟨c, hc⟩ he
      rw [he] at hc
      exact ColorModes.not_mem_empty hc
  have hextent : ∀ e : Extent, e.isInverted = false ↔ e.min ≤ e.max := fun e => by
    simp [Extent.isInverted, UInt32.not_lt]
  simp only [isUsable, Bool.and_eq_true, Bool.not_eq_true', decide_eq_true_eq, hres, hmodes, hextent]
  constructor
  · rintro ⟨⟨⟨hr, hc⟩, hw⟩, hh⟩
    exact ⟨hr, hc, hw, hh⟩
  · intro h
    exact ⟨⟨⟨h.resolution, h.colorMode⟩, h.width⟩, h.height⟩

/-- **What contains something of use is of use.** -/
theorem Usable.mono (h : s.Usable) (hst : s.Contained t) : t.Usable where
  resolution := h.resolution.imp hst.resolutions
  colorMode := h.colorMode.imp hst.colorModes
  width := UInt32.le_trans hst.minWidth (UInt32.le_trans h.width hst.maxWidth)
  height := UInt32.le_trans hst.minHeight (UInt32.le_trans h.height hst.maxHeight)

theorem merge_eq_some : s.merge t units = some m ↔ (s.meet t units).Usable ∧ s.meet t units = m := by
  rw [merge_eq_some_iff, isUsable_iff, eq_comm]

theorem usable_meet_iff : (s.meet t units).Usable ↔ ∃ c : Source, c.Usable ∧ c.Contained s ∧ c.Contained t := by
  constructor
  · intro h
    exact ⟨_, h, meet_contained s t units⟩
  · rintro ⟨c, hc, hst⟩
    exact hc.mono (contained_meet_iff.2 hst)

theorem merge_eq_none : s.merge t units = none ↔ ¬ ∃ c : Source, c.Usable ∧ c.Contained s ∧ c.Contained t := by
  have hmeet : (s.meet t units).Usable ↔ ∃ c : Source, c.Usable ∧ c.Contained s ∧ c.Contained t := usable_meet_iff
  rw [← hmeet, Option.eq_none_iff_forall_ne_some]
  constructor
  · intro h hu
    exact h _ (merge_eq_some.2 ⟨hu, rfl⟩)
  · intro h m hm
    exact h (merge_eq_some.1 hm).1

theorem merge_comm (s t : Source) (units : UInt32) : s.merge t units = t.merge s units := by
  rw [merge, merge, meet_comm s t]

theorem merge?_none (units : UInt32) (s : Option Source) : merge? units s none = none := by cases s <;> rfl

theorem merge?_comm (units : UInt32) (s t : Option Source) : merge? units s t = merge? units t s := by
  cases s with
  | none => exact (merge?_none units t).symm
  | some s =>
    cases t with
    | none => rfl
    | some t => exact merge_comm s t units

/-- **Three sources merged** are of use where what all three have in common is: a part that is refused on the way
would have been refused by the whole. -/
theorem merge?_merge? : merge? units (merge? units (some s) (some t)) (some u) = some m ↔
    ((s.meet t units).meet u units).Usable ∧ (s.meet t units).meet u units = m := by
  show ((s.merge t units).bind fun st => st.merge u units) = some m ↔ _
  rw [Option.bind_eq_some_iff]
  constructor
  · rintro ⟨st, hst, hm⟩
    obtain ⟨-, rfl⟩ := merge_eq_some.1 hst
    exact merge_eq_some.1 hm
  · rintro ⟨hu, rfl⟩
    have hst : (s.meet t units).Usable := hu.mono (meet_contained _ u units).1
    exact ⟨_, merge_eq_some.2 ⟨hst, rfl⟩, merge_eq_some.2 ⟨hu, rfl⟩⟩

theorem merge?_assoc (units : UInt32) (s t u : Option Source) :
    merge? units (merge? units s t) u = merge? units s (merge? units t u) := by
  cases s with
  | none => rfl
  | some s =>
    cases t with
    | none => rfl
    | some t =>
      cases u with
      | none => exact merge?_none units _
      | some u =>
        refine Option.ext fun m => ?_
        have hright := merge?_comm units (some s) (merge? units (some t) (some u))
        rw [hright, merge?_merge?, merge?_merge?, meet_assoc, meet_comm s (t.meet u units)]

theorem merge_self : s.merge s units = some s ↔ s.Usable ∧ s.Derived units := by
  have hself : s.Derived units → s.meet s units = s := fun hd =>
    Contained.antisymm (meet_contained s s units).1 (contained_meet_iff.2 ⟨.refl s, .refl s⟩) (derived_meet ..) hd
  rw [merge_eq_some]
  constructor
  · rintro ⟨hu, he⟩
    have hd : s.Derived units := he ▸ derived_meet s s units
    exact ⟨he ▸ hu, hd⟩
  · rintro ⟨hu, hd⟩
    rw [hself hd]
    exact ⟨hu, rfl⟩

/-- **Merging is the meet of two sources**, where something of use is within both, and refuses where nothing is.  So
as whole records, windows included, it is commutative, associative with nothing absorbing, and gives a source back for
just those of use whose windows are derived. -/
theorem merge_is_meet (units : UInt32) :
    (∀ s t m : Source, s.merge t units = some m →
      m.Usable ∧ m.Contained s ∧ m.Contained t ∧
      (∀ c : Source, c.Usable → c.Contained s → c.Contained t → c.Contained m) ∧
      m.xWindow = ⟨0.0, pxToMm m.width.max units⟩ ∧ m.yWindow = ⟨0.0, pxToMm m.height.max units⟩) ∧
    (∀ s t : Source, s.merge t units = none ↔ ¬ ∃ c : Source, c.Usable ∧ c.Contained s ∧ c.Contained t) ∧
    (∀ s t : Source, s.merge t units = t.merge s units) ∧
    (∀ s t u : Option Source, merge? units (merge? units s t) u = merge? units s (merge? units t u)) ∧
    (∀ s : Option Source, merge? units s none = none ∧ merge? units none s = none) ∧
    (∀ s : Source, s.merge s units = some s ↔ s.Usable ∧ s.updateWindows units = s) := by
  refine ⟨fun s t m h => ?_, fun s t => merge_eq_none, fun s t => merge_comm s t units, merge?_assoc units,
    fun s => ⟨merge?_none units s, rfl⟩, fun s => merge_self.trans (and_congr_right fun _ => ?_)⟩
  · obtain ⟨hu, rfl⟩ := merge_eq_some.1 h
    obtain ⟨hs, ht⟩ := meet_contained s t units
    exact ⟨hu, hs, ht, fun c _ hcs hct => contained_meet_iff.2 ⟨hcs, hct⟩, rfl, rfl⟩
  · constructor
    · exact Derived.updateWindows
    · intro h
      exact h ▸ ⟨rfl, rfl⟩

/-- A bed that scans in all modes. -/
def bedSample : Source :=
  ⟨.ofList [300, 600], true, ⟨true, true, true⟩, ⟨true, true, false⟩, ⟨100, 2550⟩, ⟨100, 3510⟩, .zero, .zero⟩

/-- A feeder of gray sheets, longer than the bed. -/
def feederSample : Source :=
  ⟨.ofList [200, 300], true, ⟨false, true, false⟩, ⟨true, false, true⟩, ⟨200, 2500⟩, ⟨50, 4200⟩, .zero, .zero⟩

theorem merge_is_meet_of_samples :
    bedSample.merge feederSample 300 = some (bedSample.meet feederSample 300) ∧
    (bedSample.meet feederSample 300).Usable ∧ (bedSample.meet feederSample 300).Contained feederSample ∧
    (bedSample.meet feederSample 300).merge (bedSample.meet feederSample 300) 300 =
      some (bedSample.meet feederSample 300) := by
  have hm : bedSample.merge feederSample 300 = some (bedSample.meet feederSample 300) :=
    merge_eq_some_iff.2 ⟨by decide +kernel, rfl⟩
  obtain ⟨hsome, -, -, -, -, hself⟩ := merge_is_meet 300
  obtain ⟨hu, -, ht, -⟩ := hsome _ _ _ hm
  exact ⟨hm, hu, ht, (hself _).2 ⟨hu, rfl⟩⟩

end Source

end ScanDiscovery.Device
