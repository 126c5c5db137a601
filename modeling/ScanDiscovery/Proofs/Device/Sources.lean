import ScanDiscovery.Device.Source
/-!
# Proofs.Device.Sources — sources that can be scanned from, and what two of them have in common

`Source.Fit` is what scanning software relies on; dressing a source with formats and windows keeps it, and so does
taking what two sources have in common, where that is of use.  `Source.Within` says that one source offers nothing
that another does not.  Specification only.
-/
namespace ScanDiscovery.Device

namespace Source

/-- The source with these formats as well, and windows, at `units`, that fit its largest size. -/
def dress (s : Source) (formats : Formats) (units : UInt32) : Source := (s.addFormats formats).updateWindows units

/-- Something can be scanned, and the windows, at `units`, are those of the largest size. -/
structure Fit (units : UInt32) (s : Source) : Prop where
  resolutions : s.resolutions ≠ ∅
  discrete : s.discrete = true
  colorModes : s.colorModes ≠ ∅
  supported : ∀ m ∈ s.colorModes, m = .grayscale ∨ m = .color
  width : s.width.min ≤ s.width.max
  height : s.height.min ≤ s.height.max
  xWindow : s.xWindow = ⟨0.0, pxToMm s.width.max units⟩
  yWindow : s.yWindow = ⟨0.0, pxToMm s.height.max units⟩

/-- What `s` offers `t` offers too. -/
structure Within (s t : Source) : Prop where
  resolutions : s.resolutions ⊆ t.resolutions
  colorModes : s.colorModes ⊆ t.colorModes
  formats : s.formats ⊆ t.formats
  minWidth : t.width.min ≤ s.width.min
  minHeight : t.height.min ≤ s.height.min
  maxWidth : s.width.max ≤ t.width.max
  maxHeight : s.height.max ≤ t.height.max

/-- `t` is what `s` was, into more formats perhaps. -/
structure Grown (s t : Source) : Prop where
  resolutions : t.resolutions = s.resolutions
  discrete : t.discrete = s.discrete
  colorModes : t.colorModes = s.colorModes
  formats : s.formats ⊆ t.formats
  width : t.width = s.width
  height : t.height = s.height

variable {units : UInt32} {s t m : Source}

theorem Grown.refl (s : Source) : s.Grown s := ⟨rfl, rfl, rfl, fun _ h => h, rfl, rfl⟩

theorem Grown.dress (h : s.Grown t) (formats : Formats) : s.Grown (t.dress formats units) where
  resolutions := h.resolutions
  discrete := h.discrete
  colorModes := h.colorModes
  formats f hf := Formats.mem_union.2 (.inl (h.formats f hf))
  width := h.width
  height := h.height

theorem Within.refl (s : Source) : s.Within s where
  resolutions := fun _ h => h
  colorModes := fun _ h => h
  formats := fun _ h => h
  minWidth := UInt32.le_refl _
  minHeight := UInt32.le_refl _
  maxWidth := UInt32.le_refl _
  maxHeight := UInt32.le_refl _

theorem le_of_not_inverted {e : Extent} (h : e.isInverted = false) : e.min ≤ e.max := by
  unfold Extent.isInverted at h
  exact UInt32.not_lt.1 (of_decide_eq_false h)

/-- **A source that has the formats already**, and windows that fit, is dressed. -/
theorem dress_eq_self {formats : Formats} (hf : formats ⊆ s.formats) (hw : s.updateWindows units = s) :
    s.dress formats units = s := by
  have hunion : s.formats ∪ formats = s.formats :=
    Formats.ext_mem fun f => by rw [Formats.mem_union]; exact or_iff_left_of_imp (hf f)
  rw [dress, addFormats, hunion]
  exact hw

theorem Fit.dress (h : s.Fit units) (formats : Formats) : (s.dress formats units).Fit units where
  resolutions := h.resolutions
  discrete := h.discrete
  colorModes := h.colorModes
  supported := h.supported
  width := h.width
  height := h.height
  xWindow := rfl
  yWindow := rfl

theorem le_min_inter (e f : Extent) : e.min ≤ (e ∩ f).min := by
  show e.min ≤ if e.min < f.min then f.min else e.min
  split
  · rename_i h
    exact UInt32.le_of_lt h
  · exact UInt32.le_refl _

theorem max_inter_le (e f : Extent) : (e ∩ f).max ≤ e.max := by
  show (if f.max < e.max then f.max else e.max) ≤ e.max
  split
  · rename_i h
    exact UInt32.le_of_lt h
  · exact UInt32.le_refl _

/-- **What two sources have in common, the first one offers.** -/
theorem meet_within (s t : Source) (units : UInt32) : (s.meet t units).Within s where
  resolutions := fun _ h => (Resolutions.mem_inter.1 h).1
  colorModes := fun _ h => (ColorModes.mem_inter.1 h).1
  formats := fun _ h => (Formats.mem_inter.1 h).1
  minWidth := le_min_inter _ _
  minHeight := le_min_inter _ _
  maxWidth := max_inter_le _ _
  maxHeight := max_inter_le _ _

theorem merge_eq_some_iff : s.merge t units = some m ↔ (s.meet t units).isUsable = true ∧ m = s.meet t units := by
  unfold merge
  by_cases h : (s.meet t units).isUsable = true
  · simp [h, eq_comm]
  · simp [h]

theorem merge_within (h : s.merge t units = some m) : m.Within s := by
  obtain ⟨-, rfl⟩ := merge_eq_some_iff.1 h
  exact meet_within s t units

theorem inter_eq_right {e f : Extent} (hmin : e.min ≤ f.min) (hmax : f.max ≤ e.max) : e ∩ f = f := by
  have hlow : (if e.min < f.min then f.min else e.min) = f.min := by
    split
    · rfl
    · rename_i h
      exact UInt32.le_antisymm hmin (UInt32.not_lt.1 h)
  have hhigh : (if f.max < e.max then f.max else e.max) = f.max := by
    split
    · rfl
    · rename_i h
      exact UInt32.le_antisymm (UInt32.not_lt.1 h) hmax
  show Extent.mk _ _ = f
  rw [hlow, hhigh]

/-- **What one source offers of another is all of the one**, if that offers nothing else. -/
theorem meet_eq_right (h : m.Within s) (hd : m.discrete = true → s.discrete = true)
    (hw : m.updateWindows units = m) : s.meet m units = m := by
  have hres : s.resolutions ∩ m.resolutions = m.resolutions :=
    Resolutions.ext_mem fun r => by rw [Resolutions.mem_inter]; exact and_iff_right_of_imp (h.resolutions r)
  have hmodes : s.colorModes ∩ m.colorModes = m.colorModes :=
    ColorModes.ext_mem fun c => by rw [ColorModes.mem_inter]; exact and_iff_right_of_imp (h.colorModes c)
  have hformats : s.formats ∩ m.formats = m.formats :=
    Formats.ext_mem fun f => by rw [Formats.mem_inter]; exact and_iff_right_of_imp (h.formats f)
  have hdiscrete : (s.discrete && m.discrete) = m.discrete := by
    cases hm : m.discrete with
    | false => exact Bool.and_false _
    | true => rw [hd hm]; rfl
  rw [meet, hres, hmodes, hformats, hdiscrete, inter_eq_right h.minWidth h.maxWidth,
    inter_eq_right h.minHeight h.maxHeight]
  exact hw

theorem merge_eq_right (h : m.Within s) (hd : m.discrete = true → s.discrete = true)
    (hw : m.updateWindows units = m) (hu : m.isUsable = true) : s.merge m units = some m := by
  have hm := meet_eq_right h hd hw
  exact merge_eq_some_iff.2 ⟨by rw [hm, hu], hm.symm⟩

/-- **Taking what two sources have in common once more** changes nothing. -/
theorem merge_merge (h : s.merge t units = some m) : s.merge m units = some m := by
  obtain ⟨hu, rfl⟩ := merge_eq_some_iff.1 h
  refine merge_eq_right (meet_within s t units) (fun hd => ?_) rfl hu
  exact (Bool.and_eq_true_iff.1 hd).1

/-- **What two fit sources have in common is fit**, where it is of use. -/
theorem Fit.merge (hs : s.Fit units) (ht : t.Fit units) (h : s.merge t units = some m) : m.Fit units := by
  obtain ⟨hu, rfl⟩ := merge_eq_some_iff.1 h
  unfold isUsable at hu
  simp only [Bool.and_eq_true, Bool.not_eq_true', decide_eq_true_eq] at hu
  obtain ⟨⟨⟨hr, hc⟩, hw⟩, hh⟩ := hu
  exact {
    resolutions := fun he => by rw [Resolutions.isEmpty_iff.2 he] at hr; cases hr
    discrete := by
      show (s.discrete && t.discrete) = true
      rw [hs.discrete, ht.discrete]
      rfl
    colorModes := hc
    supported := fun c hm => hs.supported c (ColorModes.mem_inter.1 hm).1
    width := le_of_not_inverted hw
    height := le_of_not_inverted hh
    xWindow := rfl
    yWindow := rfl }

theorem updateWindows_eq_self (hx : s.xWindow = .upTo s.width.max units) (hy : s.yWindow = .upTo s.height.max units) :
    s.updateWindows units = s := by
  rw [Source.updateWindows, ← hx, ← hy]

theorem Fit.updateWindows (h : s.Fit units) : s.updateWindows units = s := updateWindows_eq_self h.xWindow h.yWindow

theorem Fit.isUsable (h : s.Fit units) : s.isUsable = true := by
  have hres : s.resolutions.isEmpty = false :=
    Bool.eq_false_iff.2 fun he => h.resolutions (Resolutions.isEmpty_iff.1 he)
  have hwidth : s.width.isInverted = false := decide_eq_false (UInt32.not_lt.2 h.width)
  have hheight : s.height.isInverted = false := decide_eq_false (UInt32.not_lt.2 h.height)
  simp [Source.isUsable, hres, h.colorModes, hwidth, hheight]

/-- **A fit source has all of itself in common with itself.** -/
theorem Fit.merge_self (h : s.Fit units) : s.merge s units = some s :=
  merge_eq_right (.refl s) id h.updateWindows h.isUsable

end Source

end ScanDiscovery.Device
