/-!
# Device.Modes — color modes and file formats, and sets of them

Both kinds of set have three possible members. A set has a mask, the sum of its members' masks, by which it is
exchanged, and lists its members in the order of those masks.
-/
namespace ScanDiscovery.Device

/-- Among things that all have tags of their own, a tag finds the thing that has it. -/
theorem find?_tag_eq_some_iff {α : Type} {all : List α} {tag : α → String} (hall : ∀ a, a ∈ all)
    (hinj : ∀ a b, tag a = tag b → a = b) {t : String} {a : α} :
    all.find? (fun b => decide (tag b = t)) = some a ↔ t = tag a := by
  constructor
  · intro h
    have htag := List.find?_some h
    exact (of_decide_eq_true htag).symm
  · rintro rfl
    cases h : all.find? fun b => decide (tag b = tag a) with
    | none => exact absurd (decide_eq_true rfl) (List.find?_eq_none.1 h a (hall a))
    | some b =>
      have htag := List.find?_some h
      rw [hinj b a (of_decide_eq_true htag)]

inductive ColorMode where
  | blackAndWhite
  | grayscale
  | color
  deriving DecidableEq, Repr

namespace ColorMode

def all : List ColorMode := [.blackAndWhite, .grayscale, .color]

def mask : ColorMode → Nat
  | .blackAndWhite => 1
  | .grayscale => 2
  | .color => 4

def name : ColorMode → String
  | .blackAndWhite => "BW1"
  | .grayscale => "GRAYSCALE"
  | .color => "COLOR"

/-- What a scanner calls the mode. -/
def tag : ColorMode → String
  | .blackAndWhite => "BlackAndWhite1"
  | .grayscale => "Grayscale8"
  | .color => "RGB24"

def ofTag? (tag : String) : Option ColorMode := all.find? (·.tag = tag)

theorem mem_all (m : ColorMode) : m ∈ all := by cases m <;> decide

theorem tag_injective (m n : ColorMode) : m.tag = n.tag → m = n := by cases m <;> cases n <;> decide

theorem ofTag?_eq_some_iff {tag : String} {m : ColorMode} : ofTag? tag = some m ↔ tag = m.tag :=
  find?_tag_eq_some_iff mem_all tag_injective

end ColorMode

inductive Format where
  | jpeg
  | pdf
  | png
  deriving DecidableEq, Repr

namespace Format

def all : List Format := [.jpeg, .pdf, .png]

def mask : Format → Nat
  | .jpeg => 1
  | .pdf => 2
  | .png => 4

def name : Format → String
  | .jpeg => "JPEG"
  | .pdf => "PDF"
  | .png => "PNG"

/-- What a scanner calls the format. -/
def tag : Format → String
  | .jpeg => "jfif"
  | .pdf => "pdf-a"
  | .png => "png"

def ofTag? (tag : String) : Option Format := all.find? (·.tag = tag)

theorem mem_all (f : Format) : f ∈ all := by cases f <;> decide

theorem tag_injective (f g : Format) : f.tag = g.tag → f = g := by cases f <;> cases g <;> decide

theorem ofTag?_eq_some_iff {tag : String} {f : Format} : ofTag? tag = some f ↔ tag = f.tag :=
  find?_tag_eq_some_iff mem_all tag_injective

end Format

structure ColorModes where
  blackAndWhite : Bool
  grayscale : Bool
  color : Bool
  deriving DecidableEq, Repr

namespace ColorModes

def has (s : ColorModes) : ColorMode → Bool
  | .blackAndWhite => s.blackAndWhite
  | .grayscale => s.grayscale
  | .color => s.color

/-- The set of the modes that satisfy `p`. -/
def ofPred (p : ColorMode → Bool) : ColorModes := ⟨p .blackAndWhite, p .grayscale, p .color⟩

instance : Membership ColorMode ColorModes := ⟨fun s m => s.has m = true⟩
instance (m : ColorMode) (s : ColorModes) : Decidable (m ∈ s) := inferInstanceAs (Decidable (s.has m = true))
instance : EmptyCollection ColorModes := ⟨ofPred fun _ => false⟩
instance : Singleton ColorMode ColorModes := ⟨fun m => ofPred (· = m)⟩
instance : Union ColorModes := ⟨fun s t => ofPred fun m => s.has m || t.has m⟩
instance : Inter ColorModes := ⟨fun s t => ofPred fun m => s.has m && t.has m⟩
instance : HasSubset ColorModes := ⟨fun s t => ∀ m, m ∈ s → m ∈ t⟩

/-- The members, in order. -/
def toList (s : ColorModes) : List ColorMode := ColorMode.all.filter s.has

def mask (s : ColorModes) : Nat := s.toList.foldl (fun n m => n + m.mask) 0

def ofMask (n : Nat) : ColorModes := ofPred fun m => n.land m.mask ≠ 0

/-- The modes that a scan can ask for. -/
def supported : ColorModes := ⟨false, true, true⟩

@[simp] theorem has_ofPred (p : ColorMode → Bool) (m : ColorMode) : (ofPred p).has m = p m := by cases m <;> rfl

theorem mem_iff {m : ColorMode} {s : ColorModes} : m ∈ s ↔ s.has m = true := Iff.rfl

theorem mem_supported {m : ColorMode} : m ∈ supported ↔ m = .grayscale ∨ m = .color := by cases m <;> decide

@[simp] theorem mem_union {m : ColorMode} {s t : ColorModes} : m ∈ s ∪ t ↔ m ∈ s ∨ m ∈ t := by
  simp [mem_iff, Union.union]

@[simp] theorem mem_inter {m : ColorMode} {s t : ColorModes} : m ∈ s ∩ t ↔ m ∈ s ∧ m ∈ t := by
  simp [mem_iff, Inter.inter]

@[simp] theorem not_mem_empty {m : ColorMode} : ¬ m ∈ (∅ : ColorModes) := by
  simp [mem_iff, EmptyCollection.emptyCollection]

@[simp] theorem mem_singleton {m n : ColorMode} : m ∈ ({n} : ColorModes) ↔ m = n := by
  simp [mem_iff, Singleton.singleton]

theorem ext_mem {s t : ColorModes} (h : ∀ m, m ∈ s ↔ m ∈ t) : s = t := by
  obtain ⟨a, b, c⟩ := s
  obtain ⟨a', b', c'⟩ := t
  have h1 := h .blackAndWhite
  have h2 := h .grayscale
  have h3 := h .color
  simp only [mem_iff, has] at h1 h2 h3
  rw [Bool.eq_iff_iff.2 h1, Bool.eq_iff_iff.2 h2, Bool.eq_iff_iff.2 h3]

end ColorModes

structure Formats where
  jpeg : Bool
  pdf : Bool
  png : Bool
  deriving DecidableEq, Repr

namespace Formats

def has (s : Formats) : Format → Bool
  | .jpeg => s.jpeg
  | .pdf => s.pdf
  | .png => s.png

/-- The set of the formats that satisfy `p`. -/
def ofPred (p : Format → Bool) : Formats := ⟨p .jpeg, p .pdf, p .png⟩

instance : Membership Format Formats := ⟨fun s f => s.has f = true⟩
instance (f : Format) (s : Formats) : Decidable (f ∈ s) := inferInstanceAs (Decidable (s.has f = true))
instance : EmptyCollection Formats := ⟨ofPred fun _ => false⟩
instance : Singleton Format Formats := ⟨fun f => ofPred (· = f)⟩
instance : Union Formats := ⟨fun s t => ofPred fun f => s.has f || t.has f⟩
instance : Inter Formats := ⟨fun s t => ofPred fun f => s.has f && t.has f⟩
instance : HasSubset Formats := ⟨fun s t => ∀ f, f ∈ s → f ∈ t⟩

/-- The members, in order. -/
def toList (s : Formats) : List Format := Format.all.filter s.has

def mask (s : Formats) : Nat := s.toList.foldl (fun n f => n + f.mask) 0

def ofMask (n : Nat) : Formats := ofPred fun f => n.land f.mask ≠ 0

@[simp] theorem has_ofPred (p : Format → Bool) (f : Format) : (ofPred p).has f = p f := by cases f <;> rfl

theorem mem_iff {f : Format} {s : Formats} : f ∈ s ↔ s.has f = true := Iff.rfl

@[simp] theorem mem_union {f : Format} {s t : Formats} : f ∈ s ∪ t ↔ f ∈ s ∨ f ∈ t := by
  simp [mem_iff, Union.union]

@[simp] theorem mem_inter {f : Format} {s t : Formats} : f ∈ s ∩ t ↔ f ∈ s ∧ f ∈ t := by
  simp [mem_iff, Inter.inter]

@[simp] theorem not_mem_empty {f : Format} : ¬ f ∈ (∅ : Formats) := by
  simp [mem_iff, EmptyCollection.emptyCollection]

@[simp] theorem mem_singleton {f g : Format} : f ∈ ({g} : Formats) ↔ f = g := by
  simp [mem_iff, Singleton.singleton]

theorem ext_mem {s t : Formats} (h : ∀ f, f ∈ s ↔ f ∈ t) : s = t := by
  obtain ⟨a, b, c⟩ := s
  obtain ⟨a', b', c'⟩ := t
  have h1 := h .jpeg
  have h2 := h .pdf
  have h3 := h .png
  simp only [mem_iff, has] at h1 h2 h3
  rw [Bool.eq_iff_iff.2 h1, Bool.eq_iff_iff.2 h2, Bool.eq_iff_iff.2 h3]

end Formats
end ScanDiscovery.Device
