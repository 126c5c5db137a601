import ScanDiscovery.Proofs.Xml.Reading
/-!
# Proofs.Xml.Trail — the paths of all open elements as one text

The path of the innermost element can be kept as one text, which every beginning of an element lengthens and every end
cuts back to the length recorded for it.  As every path begins with that of the element around (`Chained`), the lengths
recorded are those of its beginnings (`Chained.prefix_of_recorded`), and an end can cut (`Cursor.trail_pop`).  Scopes
that were entered one inside the other (`Stacked`) can be cut out of it in the same way (`Frame.Holds.cut`).
Specification only.
-/
namespace ScanDiscovery.Xml

namespace Path

/-- The first `n` bytes of a path, if a character ends there. -/
def takeBytes? : Nat → Path → Option Path
  | 0, _ => some []
  | _ + 1, [] => none
  | n + 1, c :: p =>
    if c.utf8Size ≤ n + 1 then (takeBytes? (n + 1 - c.utf8Size) p).map (c :: ·) else none

/-- The path cut back to `n` bytes; one that is not longer stays. -/
def truncate? (n : Nat) (p : Path) : Option Path :=
  if p.size ≤ n then some p else p.takeBytes? n

theorem takeBytes?_append (p q : Path) : takeBytes? (size p) (p ++ q) = some p := by
  induction p with
  | nil => simp [takeBytes?]
  | cons c p ih =>
    obtain ⟨n, hn⟩ : ∃ n, size (c :: p) = n + 1 :=
      ⟨size (c :: p) - 1, by have := c.utf8Size_pos; simp; omega⟩
    have h : c.utf8Size + size p = n + 1 := by simpa using hn
    rw [hn, List.cons_append, takeBytes?, if_pos (by omega), show n + 1 - c.utf8Size = size p by omega, ih]
    rfl

theorem eq_nil_of_size {p : Path} (h : p.size = 0) : p = [] := by
  cases p with
  | nil => rfl
  | cons c p =>
    have := c.utf8Size_pos
    rw [size_cons] at h
    omega

theorem truncate?_append (p q : Path) : truncate? (size p) (p ++ q) = some p := by
  rw [truncate?, size_append]
  split
  · -- nothing is cut off, and so nothing stands behind
    have hq : q = [] := eq_nil_of_size (by omega)
    rw [hq, List.append_nil]
  · exact takeBytes?_append p q

theorem size_le_of_prefix {p q : Path} (h : p <+: q) : p.size ≤ q.size := by
  obtain ⟨r, rfl⟩ := h
  rw [size_append]
  exact Nat.le_add_right _ _

end Path

/-! ## One text for the paths of all open elements -/

/-- The path of the innermost element as one text, and how long it was before each open element was added, innermost
first. -/
structure Trail where
  path : Path
  lengths : List Nat
  deriving DecidableEq, Repr

namespace Trail

def push (t : Trail) (qualifier : Option (List Char)) (localPart : List Char) : Trail :=
  ⟨t.path.child qualifier localPart, t.path.size :: t.lengths⟩

/-- An element ends, if the text can be cut where it began. -/
def pop? (t : Trail) : Option Trail :=
  match t.lengths with
  | [] => some t
  | n :: outer => (t.path.truncate? n).map (⟨·, outer⟩)

end Trail

/-- How long the path around each of some open elements is. -/
def recorded : List Path → List Nat
  | [] => []
  | _ :: outer => (outer.headD []).size :: recorded outer

/-- Every path begins with the paths of the elements around it. -/
abbrev Chained (opened : List Path) : Prop :=
  opened.Pairwise fun inner outer => outer <+: inner

theorem Chained.headD_prefix {p : Path} {outer : List Path} (h : Chained (p :: outer)) : outer.headD [] <+: p := by
  cases outer with
  | nil => exact List.nil_prefix
  | cons q outer => exact (List.pairwise_cons.1 h).1 q List.mem_cons_self

/-- **What is recorded ends a path on the way**, and so a character of the innermost one. -/
theorem Chained.prefix_of_recorded : ∀ {opened : List Path}, Chained opened → ∀ n ∈ recorded opened,
    ∃ q : Path, q <+: opened.headD [] ∧ q.size = n
  | [], _, n, hn => by cases hn
  | p :: outer, h, n, hn => by
    rcases List.mem_cons.1 hn with rfl | hn
    · exact ⟨outer.headD [], h.headD_prefix, rfl⟩
    · obtain ⟨q, hq, rfl⟩ := prefix_of_recorded (List.pairwise_cons.1 h).2 n hn
      exact ⟨q, hq.trans h.headD_prefix, rfl⟩

theorem Chained.recorded_descends : ∀ {opened : List Path}, Chained opened →
    (recorded opened).Pairwise (· ≥ ·)
  | [], _ => List.Pairwise.nil
  | p :: outer, h => by
    have houter : Chained outer := (List.pairwise_cons.1 h).2
    refine List.pairwise_cons.2 ⟨fun n hn => ?_, houter.recorded_descends⟩
    obtain ⟨q, hq, rfl⟩ := houter.prefix_of_recorded n hn
    exact Path.size_le_of_prefix hq

theorem Chained.child {opened : List Path} (h : Chained opened) (qualifier : Option (List Char))
    (localPart : List Char) : Chained ((opened.headD []).child qualifier localPart :: opened) := by
  obtain ⟨rest, hrest⟩ := Path.child_eq_append (opened.headD []) qualifier localPart
  refine List.pairwise_cons.2 ⟨fun q hq => ?_, h⟩
  rw [hrest]
  cases opened with
  | nil => cases hq
  | cons p outer =>
    rcases List.mem_cons.1 hq with rfl | hq
    · exact List.prefix_append _ _
    · exact ((List.pairwise_cons.1 h).1 q hq).trans (List.prefix_append _ _)

theorem Chained.tail {opened : List Path} (h : Chained opened) : Chained opened.tail := by
  cases opened with
  | nil => exact h
  | cons p outer => exact (List.pairwise_cons.1 h).2

/-- The path of an open element is the beginning of that of the innermost. -/
theorem Chained.prefix_of_suffix {opened entered : List Path} (h : Chained opened) (hs : entered <:+ opened) :
    entered.headD [] <+: opened.headD [] := by
  cases entered with
  | nil => exact List.nil_prefix
  | cons q entered =>
    obtain ⟨inner, rfl⟩ := hs
    cases inner with
    | nil => exact List.prefix_refl _
    | cons p inner => exact (List.pairwise_cons.1 h).1 q (List.mem_append_right _ List.mem_cons_self)

namespace Cursor

/-- What a reader keeps of the elements that are open. -/
def trail (c : Cursor) : Trail := ⟨c.path, recorded c.opened⟩

/-- **An end cuts the text back** to the path of the element around. -/
theorem trail_pop {c : Cursor} (h : Chained c.opened) : c.trail.pop? = some c.leave.trail := by
  obtain ⟨rest, fault, opened, rooted⟩ := c
  cases opened with
  | nil => rfl
  | cons p outer =>
    obtain ⟨added, hadded⟩ : outer.headD [] <+: p := h.headD_prefix
    have hcut : p.truncate? (outer.headD []).size = some (outer.headD []) := by
      rw [← hadded]
      exact Path.truncate?_append _ _
    show (p.truncate? (outer.headD []).size).map _ = _
    rw [hcut]
    rfl

end Cursor

/-! ## Scopes, one inside the other -/

/-- A scope, and where it was entered. -/
structure Frame where
  entry : Cursor
  scope : Scope
  deriving DecidableEq, Repr

namespace Frame

def document (document : Bytes) : Frame := ⟨.ofBytes document, .document⟩

def within (c : Cursor) : Frame := ⟨c, .within c⟩

def finish (f : Frame) : Frame := ⟨f.entry, { f.scope with finished := true }⟩

/-- The scope is as it was entered, and the elements that were open then are open. -/
structure Holds (f : Frame) (opened : List Path) : Prop where
  scope : f.scope = .within f.entry
  suffix : f.entry.opened <:+ opened

variable {f : Frame} {opened : List Path}

theorem Holds.depth_le (h : f.Holds opened) : f.entry.depth ≤ opened.length := h.suffix.length_le

theorem Holds.push (h : f.Holds opened) (p : Path) : f.Holds (p :: opened) :=
  ⟨h.scope, h.suffix.trans (List.suffix_cons p opened)⟩

/-- **The path begins with that of the scope's element**, and can be cut behind it. -/
theorem Holds.cut (h : f.Holds opened) (hc : Chained opened) :
    ∃ rel, f.entry.path ++ rel = opened.headD [] ∧ Path.dropBytes? f.scope.skipped (opened.headD []) = some rel := by
  obtain ⟨rel, hrel⟩ : f.entry.path <+: opened.headD [] := hc.prefix_of_suffix h.suffix
  refine ⟨rel, hrel, ?_⟩
  rw [h.scope, ← hrel]
  exact Path.dropBytes?_append _ _

theorem Holds.pop (h : f.Holds opened) (hd : f.entry.depth < opened.length) : f.Holds opened.tail := by
  refine ⟨h.scope, ?_⟩
  -- what ends was not open yet when the scope was entered
  cases opened with
  | nil => exact h.suffix
  | cons p opened =>
    rcases List.suffix_cons_iff.1 h.suffix with heq | hs
    · rw [Cursor.depth, heq] at hd
      exact absurd hd (Nat.lt_irrefl _)
    · exact hs

end Frame

/-- **How scopes stand one inside the other** while some elements are open. -/
structure Stacked (inner : Frame) (outer : List Frame) (opened : List Path) : Prop where
  chained : Chained opened
  nested : (inner :: outer).Pairwise fun i o => o.entry.depth < i.entry.depth
  around : ∀ f ∈ outer, f.Holds opened
  inside : inner.scope.finished = false → inner.Holds opened

namespace Stacked

variable {inner f : Frame} {outer : List Frame} {opened : List Path}

theorem push (h : Stacked inner outer opened) (n : Option (List Char) × List Char) :
    Stacked inner outer (Path.child (opened.headD []) n.1 n.2 :: opened) :=
  ⟨h.chained.child n.1 n.2, h.nested, fun g hg => (h.around g hg).push _, fun hf => (h.inside hf).push _⟩

/-- The scopes around one that is not at its end were entered further out than the next element to end. -/
theorem outer_depth (h : Stacked inner outer opened) (hf : inner.scope.finished = false) :
    ∀ g ∈ outer, g.entry.depth < opened.length := fun g hg =>
  Nat.lt_of_lt_of_le ((List.pairwise_cons.1 h.nested).1 g hg) (h.inside hf).depth_le

/-- An end that is not that of the scope is inside it. -/
theorem depth_lt (h : Stacked inner outer opened) (hf : inner.scope.finished = false)
    (hd : opened.length ≠ inner.scope.depth) : inner.entry.depth < opened.length := by
  refine Nat.lt_of_le_of_ne (h.inside hf).depth_le fun he => hd ?_
  rw [(h.inside hf).scope]
  exact he.symm

theorem pop (h : Stacked inner outer opened) (hf : inner.scope.finished = false)
    (hd : inner.entry.depth < opened.length) : Stacked inner outer opened.tail :=
  ⟨h.chained.tail, h.nested, fun g hg => (h.around g hg).pop (h.outer_depth hf g hg), fun hf => (h.inside hf).pop hd⟩

/-- The end of the scope itself. -/
theorem popLast (h : Stacked inner outer opened) (hf : inner.scope.finished = false) :
    Stacked inner.finish outer opened.tail :=
  ⟨h.chained.tail, List.pairwise_cons.2 (List.pairwise_cons.1 h.nested),
    fun g hg => (h.around g hg).pop (h.outer_depth hf g hg), fun hf => by cases hf⟩

theorem finish (h : Stacked inner outer opened) :
    Stacked inner.finish outer opened :=
  ⟨h.chained, List.pairwise_cons.2 (List.pairwise_cons.1 h.nested), h.around, fun hf => by cases hf⟩

theorem enter {c : Cursor} (h : Stacked inner outer c.opened) (hf : inner.scope.finished = false)
    (hd : inner.entry.depth < c.depth) : Stacked (.within c) (inner :: outer) c.opened where
  chained := h.chained
  nested := List.pairwise_cons.2 ⟨fun g hg => by
    rcases List.mem_cons.1 hg with rfl | hg
    · exact hd
    · exact h.outer_depth hf g hg, h.nested⟩
  around := fun g hg => by
    rcases List.mem_cons.1 hg with rfl | hg
    · exact h.inside hf
    · exact h.around g hg
  inside := fun _ => ⟨rfl, List.suffix_refl _⟩

theorem leave (h : Stacked inner (f :: outer) opened) : Stacked f outer opened :=
  ⟨h.chained, (List.pairwise_cons.1 h.nested).2, fun g hg => h.around g (List.mem_cons_of_mem _ hg),
    fun _ => h.around f List.mem_cons_self⟩

theorem document (h : Stacked inner outer opened) (document : Bytes) : Stacked (.document document) [] opened :=
  ⟨h.chained, List.pairwise_singleton _ _, fun _ hg => (List.not_mem_nil hg).elim, fun _ => ⟨rfl, List.nil_suffix⟩⟩

end Stacked

end ScanDiscovery.Xml
