/-!
# Device.Resolutions — sets of resolutions, kept in ascending order

The list of a set's members ascends strictly, so two sets with the same members are equal.
-/
namespace ScanDiscovery.Device

/-- A set of resolutions. -/
structure Resolutions where
  toList : List UInt32
  ascending : toList.Pairwise (· < ·)
  deriving DecidableEq

namespace Resolutions

/-- Puts a number into its place in an ascending list. -/
def place (r : UInt32) : List UInt32 → List UInt32
  | [] => [r]
  | s :: ss => if r < s then r :: s :: ss else if r = s then s :: ss else s :: place r ss

theorem mem_place {r x : UInt32} {l : List UInt32} : x ∈ place r l ↔ x = r ∨ x ∈ l := by
  induction l with
  | nil => simp [place]
  | cons s ss ih =>
    rw [place]
    split
    · simp
    · split
      · rename_i h; subst h; simp
      · simp [ih, or_left_comm]

theorem place_ascending {r : UInt32} {l : List UInt32} (h : l.Pairwise (· < ·)) : (place r l).Pairwise (· < ·) := by
  induction l with
  | nil => simp [place]
  | cons s ss ih =>
    rw [List.pairwise_cons] at h
    rw [place]
    split
    · rename_i hlt
      refine List.pairwise_cons.2 ⟨fun x hx => ?_, List.pairwise_cons.2 h⟩
      rcases List.mem_cons.1 hx with rfl | hx
      · exact hlt
      · exact UInt32.lt_trans hlt (h.1 x hx)
    · split
      · exact List.pairwise_cons.2 h
      · rename_i hlt hne
        refine List.pairwise_cons.2 ⟨fun x hx => ?_, ih h.2⟩
        rcases mem_place.1 hx with rfl | hx
        · exact UInt32.lt_of_le_of_ne (UInt32.not_lt.1 hlt) fun e => hne e.symm
        · exact h.1 x hx

def empty : Resolutions := ⟨[], List.Pairwise.nil⟩

instance : EmptyCollection Resolutions := ⟨empty⟩
instance : Membership UInt32 Resolutions := ⟨fun s r => r ∈ s.toList⟩
instance (r : UInt32) (s : Resolutions) : Decidable (r ∈ s) := inferInstanceAs (Decidable (r ∈ s.toList))
instance : HasSubset Resolutions := ⟨fun s t => ∀ r, r ∈ s → r ∈ t⟩

def insert (r : UInt32) (s : Resolutions) : Resolutions := ⟨place r s.toList, place_ascending s.ascending⟩

/-- The members of a list, in any order and number. -/
def ofList (l : List UInt32) : Resolutions := l.foldr insert ∅

def inter (s t : Resolutions) : Resolutions := ⟨s.toList.filter (· ∈ t), s.ascending.filter _⟩

instance : Inter Resolutions := ⟨inter⟩

def isEmpty (s : Resolutions) : Bool := s.toList.isEmpty

def size (s : Resolutions) : Nat := s.toList.length

theorem mem_iff {r : UInt32} {s : Resolutions} : r ∈ s ↔ r ∈ s.toList := Iff.rfl

@[simp] theorem not_mem_empty {r : UInt32} : ¬ r ∈ (∅ : Resolutions) := List.not_mem_nil

@[simp] theorem mem_insert {r x : UInt32} {s : Resolutions} : x ∈ s.insert r ↔ x = r ∨ x ∈ s := mem_place

@[simp] theorem mem_ofList {r : UInt32} {l : List UInt32} : r ∈ ofList l ↔ r ∈ l := by
  induction l with
  | nil => simp [ofList]
  | cons s ss ih =>
    have : ofList (s :: ss) = (ofList ss).insert s := rfl
    rw [this, mem_insert, ih, List.mem_cons]

@[simp] theorem mem_inter {r : UInt32} {s t : Resolutions} : r ∈ s ∩ t ↔ r ∈ s ∧ r ∈ t := by
  show r ∈ s.toList.filter _ ↔ _
  simp [List.mem_filter, mem_iff]

/-- Ascending lists with the same members are equal. -/
theorem eq_of_mem_iff {l m : List UInt32} (hl : l.Pairwise (· < ·)) (hm : m.Pairwise (· < ·))
    (h : ∀ r, r ∈ l ↔ r ∈ m) : l = m := by
  induction l generalizing m with
  | nil =>
    cases m with
    | nil => rfl
    | cons b m => exact absurd ((h b).2 (by simp)) (by simp)
  | cons a l ih =>
    cases m with
    | nil => exact absurd ((h a).1 (by simp)) (by simp)
    | cons b m =>
      rw [List.pairwise_cons] at hl hm
      have hab : a = b := by
        rcases List.mem_cons.1 ((h a).1 (by simp)) with e | e
        · exact e
        · rcases List.mem_cons.1 ((h b).2 (by simp)) with e' | e'
          · exact e'.symm
          · exact absurd (UInt32.lt_trans (hl.1 b e') (hm.1 a e)) (UInt32.lt_irrefl a)
      subst hab
      congr 1
      refine ih hl.2 hm.2 fun r => ?_
      have hr := h r
      rw [List.mem_cons, List.mem_cons] at hr
      constructor
      · intro x
        rcases hr.1 (Or.inr x) with e | e
        · subst e; exact absurd (hl.1 r x) (UInt32.lt_irrefl r)
        · exact e
      · intro x
        rcases hr.2 (Or.inr x) with e | e
        · subst e; exact absurd (hm.1 r x) (UInt32.lt_irrefl r)
        · exact e

/-- A set is known by its members. -/
theorem ext_mem {s t : Resolutions} (h : ∀ r, r ∈ s ↔ r ∈ t) : s = t := by
  obtain ⟨l, hl⟩ := s
  obtain ⟨m, hm⟩ := t
  have : l = m := eq_of_mem_iff hl hm h
  subst this
  rfl

theorem isEmpty_iff {s : Resolutions} : s.isEmpty = true ↔ s = ∅ := by
  obtain ⟨l, hl⟩ := s
  constructor
  · intro h
    have : l = [] := List.isEmpty_iff.1 h
    subst this
    rfl
  · intro h
    rw [h]
    rfl

end Resolutions
end ScanDiscovery.Device
