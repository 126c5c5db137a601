import Mathlib.Data.Multiset.Filter
import ScanDiscovery.Proofs.Xml.Visiting
/-!
# Proofs.Xml.Rearranged — trees that differ in the order of siblings

In an element at a loose path, siblings may come in any order and with any text between them (`Rearranged`); all other
content stays as it is.  Such trees have the same elements at wanted paths, up to the order of the elements and again up
to the order of siblings inside them (`Rearranged.elements`), their names are texts in both or in neither, and where a
path is not loose the element there has the same text (`Rearranged.value_iff`).  Specification only.
-/
namespace ScanDiscovery.Xml

namespace Content

/-- The elements that stand directly in an element, in document order. -/
def children : Content → List (Name × Option Bytes × Content)
  | .nil => []
  | .text _ rest => rest.children
  | .cdata _ rest => rest.children
  | .element name uri inside rest => (name, uri, inside) :: rest.children

/-- **The same tree, but for the order of siblings** in elements at loose paths.  `parent` is the path of the element
that the contents stand in. -/
inductive Rearranged (loose : Path → Bool) : Path → Content → Content → Prop
  | refl (parent : Path) (k : Content) : Rearranged loose parent k k
  | text {parent : Path} (t : Bytes) {rest rest' : Content} (h : Rearranged loose parent rest rest') :
    Rearranged loose parent (.text t rest) (.text t rest')
  | cdata {parent : Path} (t : Bytes) {rest rest' : Content} (h : Rearranged loose parent rest rest') :
    Rearranged loose parent (.cdata t rest) (.cdata t rest')
  | behind {parent : Path} (name : Name) (uri : Option Bytes) (inside : Content) {rest rest' : Content}
    (h : Rearranged loose parent rest rest') :
    Rearranged loose parent (.element name uri inside rest) (.element name uri inside rest')
  | inside {parent p : Path} {name : Name} {uri : Option Bytes} {inside inside' : Content} (rest : Content)
    (hp : pathBelow parent name uri = .ok p) (h : Rearranged loose p inside inside') :
    Rearranged loose parent (.element name uri inside rest) (.element name uri inside' rest)
  | shuffle {parent : Path} {k k' : Content} (hloose : loose parent = true) (h : k.children.Perm k'.children) :
    Rearranged loose parent k k'
  | trans {parent : Path} {k k' k'' : Content} (h : Rearranged loose parent k k')
    (h' : Rearranged loose parent k' k'') : Rearranged loose parent k k''

/-! ## By the children -/

theorem clear_iff {want : Path → Bool} {parent : Path} : ∀ {k : Content},
    k.Clear want parent ↔ ∀ c ∈ k.children, ∃ p, pathBelow parent c.1 c.2.1 = .ok p ∧
      (want p = true ∨ c.2.2.Clear want p)
  | .nil => ⟨fun _ _ hc => (List.not_mem_nil hc).elim, fun _ => trivial⟩
  | .text _ rest => clear_iff (k := rest)
  | .cdata _ rest => clear_iff (k := rest)
  | .element name uri inside rest => by
    rw [Clear, children, List.forall_mem_cons, clear_iff (k := rest)]

/-- The wanted elements that a child is or has in it. -/
def elementsOf (want : Path → Bool) (parent : Path) (c : Name × Option Bytes × Content) : List (Path × Content) :=
  match pathBelow parent c.1 c.2.1 with
  | .ok p => (if want p then [(p, c.2.2)] else []) ++ elements want p c.2.2
  | .error _ => []

theorem elements_eq_flatMap {want : Path → Bool} {parent : Path} : ∀ {k : Content},
    k.elements want parent = k.children.flatMap (elementsOf want parent)
  | .nil => rfl
  | .text _ rest => elements_eq_flatMap (k := rest)
  | .cdata _ rest => elements_eq_flatMap (k := rest)
  | .element name uri inside rest => by
    rw [elements, children, List.flatMap_cons, elements_eq_flatMap (k := rest)]
    rfl

theorem named_iff : ∀ {k : Content},
    k.named = .ok () ↔ ∀ c ∈ k.children, (∃ n, Cursor.nameParts none c.1 = .ok n) ∧ c.2.2.named = .ok ()
  | .nil => ⟨fun _ _ hc => (List.not_mem_nil hc).elim, fun _ => rfl⟩
  | .text _ rest => named_iff (k := rest)
  | .cdata _ rest => named_iff (k := rest)
  | .element name uri inside rest => by
    rw [named, children, List.forall_mem_cons, ← named_iff (k := rest), bind_eq_ok]
    simp only [bind_eq_ok]
    constructor
    · rintro ⟨n, hn, _, hi, hr⟩
      exact ⟨⟨⟨n, hn⟩, hi⟩, hr⟩
    · rintro ⟨⟨⟨n, hn⟩, hi⟩, hr⟩
      exact ⟨n, hn, (), hi, hr⟩

theorem want_of_mem_elements {want : Path → Bool} {parent : Path} {k : Content} {x : Path × Content}
    (h : x ∈ k.elements want parent) : want x.1 = true := by
  rw [elements_filter want fun _ hp => hp] at h
  exact (List.mem_filter.1 h).2

end Content

/-! ## Lists up to the order of their members -/

section

variable {α β : Type} {r : α → α → Prop} {l l' : List α}

/-- **What related members have in common, the lists have in common** up to its order. -/
theorem filterMap_perm_of_rel {f g : α → Option β} (h : Multiset.Rel r (l : Multiset α) l')
    (hfg : ∀ x y, r x y → f x = g y) : (l.filterMap f).Perm (l'.filterMap g) := by
  have hrel : ∀ {s t : Multiset α}, Multiset.Rel r s t → s.filterMap f = t.filterMap g := by
    intro s t hst
    induction hst with
    | zero => rfl
    | cons hxy _ ih => rw [Multiset.filterMap_cons, Multiset.filterMap_cons, hfg _ _ hxy, ih]
  exact Multiset.coe_eq_coe.1 (hrel h)

theorem forall_mem_iff_of_rel {P Q : α → Prop} (h : Multiset.Rel r (l : Multiset α) l')
    (hpq : ∀ x y, r x y → (P x ↔ Q y)) : (∀ x ∈ l, P x) ↔ ∀ y ∈ l', Q y := by
  constructor
  · intro hp y hy
    obtain ⟨x, hx, hxy⟩ := Multiset.exists_mem_of_rel_of_mem (Multiset.rel_flip.2 h) (Multiset.mem_coe.2 hy)
    exact (hpq x y hxy).1 (hp x (Multiset.mem_coe.1 hx))
  · intro hq x hx
    obtain ⟨y, hy, hxy⟩ := Multiset.exists_mem_of_rel_of_mem h (Multiset.mem_coe.2 hx)
    exact (hpq x y hxy).2 (hq y (Multiset.mem_coe.1 hy))

theorem length_eq_of_rel (h : Multiset.Rel r (l : Multiset α) l') : l.length = l'.length := by
  simpa using Multiset.card_eq_card_of_rel h

/-- Lists of one member at most are related member by member. -/
theorem forall₂_of_rel (h : Multiset.Rel r (l : Multiset α) l') (hone : l.length ≤ 1) : List.Forall₂ r l l' := by
  have hlen := length_eq_of_rel h
  match l, l', hone, hlen, h with
  | [], [], _, _, _ => exact .nil
  | [x], [y], _, _, h =>
    obtain ⟨y', hy', hxy⟩ := Multiset.exists_mem_of_rel_of_mem h (Multiset.mem_coe.2 List.mem_cons_self)
    obtain rfl : y' = y := List.mem_singleton.1 (Multiset.mem_coe.1 hy')
    exact .cons hxy .nil

end

/-! ## Rearranged trees -/

namespace Content

variable {loose : Path → Bool}

/-- Two elements at one path that differ in the order of siblings. -/
def Alike (loose : Path → Bool) (x y : Path × Content) : Prop := x.1 = y.1 ∧ Rearranged loose x.1 x.2 y.2

instance : IsTrans (Path × Content) (Alike loose) where
  trans := by
    rintro ⟨p, a⟩ ⟨q, b⟩ ⟨s, c⟩ ⟨hpq, hab⟩ ⟨hqs, hbc⟩
    obtain rfl : p = q := hpq
    exact ⟨hqs, hab.trans hbc⟩

theorem Alike.refl (x : Path × Content) : Alike loose x x := ⟨rfl, .refl x.1 x.2⟩

namespace Rearranged

variable {parent : Path} {k k' : Content}

theorem symm (h : Rearranged loose parent k k') : Rearranged loose parent k' k := by
  induction h with
  | refl parent k => exact .refl parent k
  | text t _ ih => exact .text t ih
  | cdata t _ ih => exact .cdata t ih
  | behind name uri inside _ ih => exact .behind name uri inside ih
  | inside rest hp _ ih => exact .inside rest hp ih
  | shuffle hloose h => exact .shuffle hloose h.symm
  | trans _ _ ih ih' => exact ih'.trans ih

theorem clear_iff (h : Rearranged loose parent k k') (want : Path → Bool) :
    k.Clear want parent ↔ k'.Clear want parent := by
  induction h with
  | refl => exact Iff.rfl
  | text t _ ih => exact ih
  | cdata t _ ih => exact ih
  | behind name uri inside _ ih => exact and_congr_right fun _ => ih
  | inside rest hp _ ih =>
    simp only [Clear, hp, Except.ok.injEq, exists_eq_left']
    exact and_congr_left fun _ => or_congr_right ih
  | shuffle _ h =>
    rw [Content.clear_iff, Content.clear_iff]
    exact forall_congr' fun c => by rw [h.mem_iff]
  | trans _ _ ih ih' => exact ih.trans ih'

/-- **Rearranged trees have the same elements**, up to their order and up to the order of siblings inside them. -/
theorem elements (h : Rearranged loose parent k k') (want : Path → Bool) :
    Multiset.Rel (Alike loose) (k.elements want parent : Multiset (Path × Content)) (k'.elements want parent) := by
  have hrefl : ∀ l : List (Path × Content), Multiset.Rel (Alike loose) (l : Multiset (Path × Content)) l := fun l =>
    Multiset.rel_refl_of_refl_on fun x _ => .refl x
  induction h with
  | refl => exact hrefl _
  | text t _ ih => exact ih
  | cdata t _ ih => exact ih
  | behind name uri inside _ ih =>
    simp only [Content.elements, ← Multiset.coe_add]
    exact (hrefl _).add ih
  | inside rest hp h ih =>
    simp only [Content.elements, hp, ← Multiset.coe_add]
    refine (Multiset.Rel.add ?_ ih).add (hrefl _)
    split
    · exact .cons ⟨rfl, h⟩ .zero
    · exact .zero
  | shuffle _ h =>
    rw [elements_eq_flatMap, elements_eq_flatMap, Multiset.coe_eq_coe.2 (h.flatMap_right _)]
    exact hrefl _
  | trans _ _ ih ih' => exact ih.trans _ ih'

/-- The parts of rearranged elements, each again up to the order of siblings inside it. -/
theorem parts {ρ : Type} {base : Path} (h : Rearranged loose base k k') (part? : Path → Option ρ) :
    Multiset.Rel (fun x y : ρ × Content => x.1 = y.1 ∧ ∃ rel, part? rel = some x.1 ∧
        Rearranged loose (base ++ rel) x.2 y.2)
      (k.parts base part? : Multiset (ρ × Content)) (k'.parts base part?) := by
  have hparts : ∀ {s t : Multiset (Path × Content)}, Multiset.Rel (Alike loose) s t →
      Multiset.Rel (fun x y : ρ × Content => x.1 = y.1 ∧ ∃ rel, part? rel = some x.1 ∧
          Rearranged loose (base ++ rel) x.2 y.2)
        (s.filterMap fun x => (partAt base part? x.1).map (·, x.2))
        (t.filterMap fun x => (partAt base part? x.1).map (·, x.2)) := by
    intro s t hst
    induction hst with
    | zero => exact .zero
    | @cons x y _ _ hxy _ ih =>
      obtain ⟨p, a⟩ := x
      obtain ⟨q, b⟩ := y
      obtain ⟨hpq, hab⟩ := hxy
      obtain rfl : p = q := hpq
      cases hp : partAt base part? p with
      | none => rwa [Multiset.filterMap_cons_none _ _ (by rw [hp]; rfl), Multiset.filterMap_cons_none _ _ (by rw [hp]; rfl)]
      | some part =>
        rw [Multiset.filterMap_cons_some _ _ _ (by rw [hp]; rfl), Multiset.filterMap_cons_some _ _ _ (by rw [hp]; rfl)]
        obtain ⟨rel, rfl, hrel⟩ := partAt_eq_some.1 hp
        exact ih.cons ⟨rfl, rel, hrel, hab⟩
  exact hparts (h.elements _)

theorem contentsAt {base : Path} (h : Rearranged loose base k k') (path : String) :
    Multiset.Rel (Rearranged loose (base ++ path.toList)) (k.contentsAt base path : Multiset Content)
      (k'.contentsAt base path) := by
  rw [Content.contentsAt, Content.contentsAt, ← Multiset.map_coe, ← Multiset.map_coe, Multiset.rel_map]
  refine (h.elements _).mono fun x hx y _ hxy => ?_
  have hpath := want_of_mem_elements (Multiset.mem_coe.1 hx)
  exact of_decide_eq_true hpath ▸ hxy.2

/-- The names in an element are texts, whatever the order of the siblings in it. -/
theorem named_iff (h : Rearranged loose parent k k') : k.named = .ok () ↔ k'.named = .ok () := by
  induction h with
  | refl => exact Iff.rfl
  | text t _ ih => exact ih
  | cdata t _ ih => exact ih
  | behind name uri inside _ ih =>
    simp only [Content.named, bind_eq_ok]
    exact exists_congr fun _ => and_congr_right fun _ => exists_congr fun _ => and_congr_right fun _ => ih
  | inside rest hp _ ih =>
    simp only [Content.named, bind_eq_ok]
    exact exists_congr fun _ => and_congr_right fun _ => exists_congr fun _ => and_congr_left fun _ => ih
  | shuffle _ h =>
    rw [Content.named_iff, Content.named_iff]
    exact forall_congr' fun c => by rw [h.mem_iff]
  | trans _ _ ih ih' => exact ih.trans ih'

theorem ownText_iff (h : Rearranged loose parent k k') (hp : loose parent = false) :
    ∀ t, k.ownText = .ok t ↔ k'.ownText = .ok t := by
  induction h with
  | refl => exact fun t => Iff.rfl
  | text s _ ih => simp only [ownText, bind_eq_ok, map_eq_ok, ih hp, implies_true]
  | cdata s _ ih => simp only [ownText, map_eq_ok, ih hp, implies_true]
  | behind name uri inside _ ih => simp only [ownText, bind_eq_ok, ih hp, implies_true]
  | inside rest hpath h ih =>
    simp only [ownText, bind_eq_ok]
    exact fun t => exists_congr fun _ => and_congr_right fun _ => exists_congr fun _ =>
      and_congr_left fun _ => h.named_iff
  | shuffle hloose h => rw [hp] at hloose; cases hloose
  | trans _ _ ih ih' => exact fun t => (ih hp t).trans (ih' hp t)

/-- **The text of an element at a path that is not loose** stays. -/
theorem value_iff (h : Rearranged loose parent k k') (hp : loose parent = false) (t : List Char) :
    k.value = .ok t ↔ k'.value = .ok t := by
  simp only [value, map_eq_ok, h.ownText_iff hp]

/-! ## What stays in order -/

/-- Below a path that has no loose path at it or below it nothing differs. -/
theorem eq_of_tight (h : Rearranged loose parent k k') (hne : parent ≠ []) (hat : loose parent = false)
    (hbelow : ∀ rel, loose (parent ++ '/' :: rel) = false) : k = k' := by
  induction h with
  | refl => rfl
  | text t _ ih => rw [ih hne hat hbelow]
  | cdata t _ ih => rw [ih hne hat hbelow]
  | behind name uri inside _ ih => rw [ih hne hat hbelow]
  | inside rest hp _ ih =>
    obtain ⟨rel, rfl⟩ := pathBelow_ne hne hp
    rw [ih (List.append_ne_nil_of_left_ne_nil hne _) (hbelow rel) fun more => by
      rw [List.append_assoc]; exact hbelow (rel ++ '/' :: more)]
  | shuffle hloose h => rw [hat] at hloose; cases hloose
  | trans _ _ ih ih' => rw [ih hne hat hbelow, ih' hne hat hbelow]

/-- **Elements that have nothing loose around them or inside** are the same, in the same order. -/
theorem elements_eq (h : Rearranged loose parent k k') {want : Path → Bool}
    (hloose : ∀ p, loose p = true → p ≠ [] ∧ ∀ rel, want (p ++ '/' :: rel) = false)
    (hwant : ∀ p, want p = true → p ≠ [] ∧ loose p = false ∧ ∀ rel, loose (p ++ '/' :: rel) = false) :
    k.elements want parent = k'.elements want parent := by
  induction h with
  | refl => rfl
  | text t _ ih => exact ih
  | cdata t _ ih => exact ih
  | behind name uri inside _ ih => rw [Content.elements, Content.elements, ih]
  | @inside parent p name uri inside inside' rest hp h ih =>
    simp only [Content.elements, hp]
    rw [ih]
    by_cases hw : want p = true
    · obtain ⟨hne, hat, hbelow⟩ := hwant p hw
      rw [h.eq_of_tight hne hat hbelow]
    · rw [if_neg hw, if_neg hw]
  | @shuffle parent k k' hp h =>
    obtain ⟨hne, hnone⟩ := hloose parent hp
    have hnil : ∀ k : Content, k.elements want parent = [] := by
      intro k
      refine List.eq_nil_iff_forall_not_mem.2 fun x hx => ?_
      obtain ⟨rel, hrel, hw⟩ := elements_below hne k parent (.inl rfl) x hx
      rw [hrel, hnone rel] at hw
      cases hw
    rw [hnil, hnil]
  | trans _ _ ih ih' => rw [ih, ih']

end Rearranged

end Content

end ScanDiscovery.Xml
