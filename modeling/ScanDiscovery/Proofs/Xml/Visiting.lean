import Mathlib.Data.List.Basic
import ScanDiscovery.Proofs.Xml.Reading
/-!
# Proofs.Xml.Visiting — the report of a tree is that of the elements that are taken, one after the other

Where no taken element stands inside another, a visit comes to an end without failing if, and only if, the names it
passes are texts and the elements it takes are read without failing, in document order (`report_eq_ok`).  If what an
element says has nothing to do with what was said before it, the elements can be judged one by one (`each_eq_ok`).
Specification only.
-/
namespace ScanDiscovery.Xml

namespace Content

/-- The names of the elements on the way to the wanted ones are texts. -/
def Clear (want : Path → Bool) : Path → Content → Prop
  | _, .nil => True
  | parent, .text _ rest => rest.Clear want parent
  | parent, .cdata _ rest => rest.Clear want parent
  | parent, .element name uri inside rest =>
    (∃ p, pathBelow parent name uri = .ok p ∧ (want p = true ∨ inside.Clear want p)) ∧ rest.Clear want parent

/-- No element at a wanted path stands inside another one. -/
def Apart (want : Path → Bool) : Prop := ∀ p, want p = true → p ≠ [] ∧ ∀ rel, want (p ++ '/' :: rel) = false

theorem elements_filter {want : Path → Bool} (more : Path → Bool) (h : ∀ p, want p = true → more p = true) :
    ∀ (k : Content) (parent : Path),
    k.elements want parent = (k.elements more parent).filter fun x => want x.1
  | .nil, parent => rfl
  | .text _ rest, parent => elements_filter more h rest parent
  | .cdata _ rest, parent => elements_filter more h rest parent
  | .element name uri inside rest, parent => by
    rw [elements, elements, List.filter_append, elements_filter more h rest parent]
    congr 1
    cases pathBelow parent name uri with
    | error e => rfl
    | ok p =>
      simp only [List.filter_append, ← elements_filter more h inside p]
      congr 1
      by_cases hw : want p = true
      · simp [hw, h p hw]
      · by_cases hm : more p = true <;> simp [hw, hm]

/-- The path of an element below another begins with the other's and a slash. -/
theorem pathBelow_ne {parent p : Path} (hne : parent ≠ []) {name : Name} {uri : Option Bytes}
    (h : pathBelow parent name uri = .ok p) : ∃ rel, p = parent ++ '/' :: rel := by
  rw [pathBelow, Cursor.enteredPath_eq] at h
  cases hn : Cursor.nameParts (uri.bind Vocabulary.prefixOf?) name with
  | error e => rw [hn] at h; cases h
  | ok n =>
    rw [hn] at h
    cases h
    exact ⟨Path.qualified n.1 n.2, by simp [Path.child, hne]⟩

theorem elements_below {want : Path → Bool} {p : Path} (hp : p ≠ []) : ∀ (k : Content) (parent : Path),
    (parent = p ∨ ∃ rel, parent = p ++ '/' :: rel) →
      ∀ x ∈ k.elements want parent, ∃ rel, x.1 = p ++ '/' :: rel ∧ want x.1 = true
  | .nil, parent, _, x, hx => by cases hx
  | .text _ rest, parent, hpar, x, hx => elements_below hp rest parent hpar x hx
  | .cdata _ rest, parent, hpar, x, hx => elements_below hp rest parent hpar x hx
  | .element name uri inside rest, parent, hpar, x, hx => by
    rw [elements, List.mem_append] at hx
    rcases hx with hx | hx
    · have hne : parent ≠ [] := by
        rcases hpar with rfl | ⟨rel, rfl⟩
        · exact hp
        · exact List.append_ne_nil_of_left_ne_nil hp _
      cases hq : pathBelow parent name uri with
      | error e => rw [hq] at hx; cases hx
      | ok q =>
        have hq' : ∃ rel, q = p ++ '/' :: rel := by
          obtain ⟨rel, rfl⟩ := pathBelow_ne hne hq
          rcases hpar with rfl | ⟨rel', rfl⟩
          · exact ⟨rel, rfl⟩
          · exact ⟨rel' ++ '/' :: rel, by rw [List.append_assoc, List.cons_append]⟩
        rw [hq] at hx
        simp only [List.mem_append] at hx
        rcases hx with hx | hx
        · split at hx
          · rename_i hw
            obtain rfl := List.mem_singleton.1 hx
            obtain ⟨rel, rfl⟩ := hq'
            exact ⟨rel, rfl, hw⟩
          · cases hx
        · exact elements_below hp inside q (.inr hq') x hx
    · exact elements_below hp rest parent hpar x hx

/-- Inside a wanted element there is no other. -/
theorem elements_inside {want : Path → Bool} (h : Apart want) {p : Path} (hp : want p = true) (k : Content) :
    k.elements want p = [] := by
  refine List.eq_nil_iff_forall_not_mem.2 fun x hx => ?_
  obtain ⟨rel, hrel, hw⟩ := elements_below (h p hp).1 k p (.inl rfl) x hx
  rw [hrel, (h p hp).2 rel] at hw
  cases hw

end Content

namespace Report

variable {φ ε σ ν τ : Type}

/-- The reports of some elements, one after the other. -/
def each (read : τ → σ → Report φ ε σ) : List τ → σ → Report φ ε σ
  | [], a => .done a
  | x :: xs, a => (read x a).andThen (each read xs)

theorem each_append (read : τ → σ → Report φ ε σ) : ∀ (xs ys : List τ) (a : σ),
    each read (xs ++ ys) a = (each read xs a).andThen (each read ys)
  | [], ys, a => rfl
  | x :: xs, ys, a => by
    rw [List.cons_append, each, each, andThen_assoc]
    congr 1
    funext b
    exact each_append read xs ys b

theorem each_filterMap {ω : Type} {read : τ → σ → Report φ ε σ} (part : ω → σ → Report φ ε σ) (f : τ → Option ω)
    (h : ∀ x a, read x a = match f x with | some y => part y a | none => .done a) : ∀ (xs : List τ) (a : σ),
    each read xs a = each part (xs.filterMap f) a
  | [], a => rfl
  | x :: xs, a => by
    rw [each, h]
    cases hx : f x with
    | none =>
      rw [List.filterMap_cons_none hx]
      exact each_filterMap part f h xs a
    | some y =>
      rw [List.filterMap_cons_some hx, each]
      congr 1
      funext b
      exact each_filterMap part f h xs b

/-- **Elements that speak for themselves are judged one by one**: `item` is what an element says, and `step` what that
changes. -/
theorem each_eq_ok {item : τ → Report φ ε ν} {step : σ → ν → σ} : ∀ {xs : List τ} {a b : σ} {fs : List φ},
    each (fun x a => (item x).andThen fun v => .done (step a v)) xs a = ⟨fs, .ok b⟩ ↔
      (∀ x ∈ xs, ∃ v, (item x).result = .ok v) ∧ fs = xs.flatMap (fun x => (item x).findings) ∧
        b = (xs.filterMap fun x => (item x).result.toOption).foldl step a
  | [], a, b, fs => by
    constructor
    · intro h
      cases h
      exact ⟨fun x hx => (List.not_mem_nil hx).elim, rfl, rfl⟩
    · rintro ⟨-, rfl, rfl⟩
      rfl
  | x :: xs, a, b, fs => by
    rw [each, andThen_eq_ok, List.flatMap_cons]
    rcases hx : item x with ⟨gs, e | v⟩
    · constructor
      · rintro ⟨_, _, _, h, -⟩
        cases h
      · rintro ⟨h, -⟩
        obtain ⟨v, hv⟩ := h x List.mem_cons_self
        rw [hx] at hv
        cases hv
    · rw [List.filterMap_cons_some (show _ = some v by rw [hx]; rfl), List.foldl_cons]
      simp only [andThen_ok, after, done, List.append_nil]
      constructor
      · rintro ⟨gs', c, hs, h, hxs, rfl⟩
        cases h
        obtain ⟨hall, rfl, rfl⟩ := each_eq_ok.1 hxs
        refine ⟨fun y hy => ?_, rfl, rfl⟩
        rcases List.mem_cons.1 hy with rfl | hy
        · exact ⟨v, by rw [hx]⟩
        · exact hall y hy
      · rintro ⟨hall, rfl, rfl⟩
        exact ⟨gs, step a v, _, rfl, each_eq_ok.2 ⟨fun y hy => hall y (List.mem_cons_of_mem _ hy), rfl, rfl⟩, rfl⟩

end Report

namespace Content

variable {φ ε σ : Type} {lift : Error → ε} {handle : Path → Option (σ → Content → Report φ ε σ)}

/-- The paths that a visit takes. -/
abbrev taken (handle : Path → Option (σ → Content → Report φ ε σ)) (p : Path) : Bool := (handle p).isSome

/-- What a visit makes of an element that it takes. -/
def reading (handle : Path → Option (σ → Content → Report φ ε σ)) (x : Path × Content) (a : σ) : Report φ ε σ :=
  match handle x.1 with
  | some read => read a x.2
  | none => .done a

/-- **The report of a tree, taken apart**: it is no failure exactly if the names on the way are texts and the elements
that are taken are read without failing. -/
theorem report_eq_ok (hap : Apart (taken handle)) : ∀ {k : Content} {parent : Path} {a b : σ} {fs : List φ},
    k.report lift handle parent a = ⟨fs, .ok b⟩ ↔
      k.Clear (taken handle) parent ∧ Report.each (reading handle) (k.elements (taken handle) parent) a = ⟨fs, .ok b⟩
  | .nil, parent, a, b, fs => by
    simp only [report, Clear, elements, Report.each, true_and]
  | .text _ rest, parent, a, b, fs => report_eq_ok hap (k := rest)
  | .cdata _ rest, parent, a, b, fs => report_eq_ok hap (k := rest)
  | .element name uri inside rest, parent, a, b, fs => by
    rw [report, Clear, elements]
    cases hp : pathBelow parent name uri with
    | error e =>
      constructor
      · intro h
        cases h
      · rintro ⟨⟨⟨p, h, -⟩, -⟩, -⟩
        cases h
    | ok p =>
      simp only [Except.ok.injEq, exists_eq_left']
      rw [Report.each_append, Report.andThen_eq_ok, Report.andThen_eq_ok]
      cases hh : handle p with
      | some read =>
        have ht : taken handle p = true := by rw [taken, hh]; rfl
        have hr : Report.each (reading handle) ([(p, inside)] ++ inside.elements (taken handle) p) a =
            read a inside := by
          rw [elements_inside hap ht, List.append_nil, Report.each]
          simp only [reading, hh]
          exact Report.andThen_done _
        rw [if_pos ht, hr]
        simp only [show taken handle p = true from ht, true_or, true_and]
        constructor
        · rintro ⟨gs, c, hs, h1, h2, h3⟩
          obtain ⟨hc, he⟩ := (report_eq_ok hap).1 h2
          exact ⟨hc, gs, c, hs, h1, he, h3⟩
        · rintro ⟨hc, gs, c, hs, h1, he, h3⟩
          exact ⟨gs, c, hs, h1, (report_eq_ok hap).2 ⟨hc, he⟩, h3⟩
      | none =>
        have ht : ¬ taken handle p = true := by rw [taken, hh]; exact Bool.false_ne_true
        rw [if_neg ht, List.nil_append]
        simp only [show taken handle p = false from Bool.eq_false_iff.2 ht, Bool.false_eq_true, false_or]
        constructor
        · rintro ⟨gs, c, hs, h1, h2, h3⟩
          obtain ⟨hc1, he1⟩ := (report_eq_ok hap).1 h1
          obtain ⟨hc2, he2⟩ := (report_eq_ok hap).1 h2
          exact ⟨⟨hc1, hc2⟩, gs, c, hs, he1, he2, h3⟩
        · rintro ⟨⟨hc1, hc2⟩, gs, c, hs, he1, he2, h3⟩
          exact ⟨gs, c, hs, (report_eq_ok hap).2 ⟨hc1, he1⟩, (report_eq_ok hap).2 ⟨hc2, he2⟩, h3⟩

end Content

/-! ## The parts of an element -/

section

variable {φ ε ρ σ ν : Type}

/-- The part that an element at a path is, of the element at `base`. -/
def partAt (base : Path) (part? : Path → Option ρ) (p : Path) : Option ρ := (base.isPrefixOf? p).bind part?

@[simp] theorem partAt_append (base rel : Path) (part? : Path → Option ρ) :
    partAt base part? (base ++ rel) = part? rel := by
  rw [partAt, List.isPrefixOf?_eq_some_iff_append_eq.2 rfl, Option.bind_some]

theorem partAt_eq_some {base p : Path} {part? : Path → Option ρ} {part : ρ} :
    partAt base part? p = some part ↔ ∃ rel, p = base ++ rel ∧ part? rel = some part := by
  rw [partAt, Option.bind_eq_some_iff]
  constructor
  · rintro ⟨rel, hrel, hp⟩
    exact ⟨rel, (List.isPrefixOf?_eq_some_iff_append_eq.1 hrel).symm, hp⟩
  · rintro ⟨rel, rfl, hp⟩
    exact ⟨rel, List.isPrefixOf?_eq_some_iff_append_eq.2 rfl, hp⟩

/-- Whether an element at a path is a part. -/
abbrev isPart (base : Path) (part? : Path → Option ρ) (p : Path) : Bool := (partAt base part? p).isSome

/-- How a visit reads the parts of the element at `base`: `item` is what a part says, and `step` what that changes. -/
def handling (base : Path) (part? : Path → Option ρ) (item : ρ → Content → Report φ ε ν) (step : σ → ν → σ) (p : Path) :
    Option (σ → Content → Report φ ε σ) :=
  (partAt base part? p).map fun part a k => (item part k).andThen fun v => .done (step a v)

/-- The parts of an element, in document order. -/
def Content.parts (base : Path) (part? : Path → Option ρ) (k : Content) : List (ρ × Content) :=
  (k.elements (isPart base part?) base).filterMap fun x => (partAt base part? x.1).map (·, x.2)

theorem Content.apart_isPart {base : Path} {part? : Path → Option ρ}
    (h : ∀ p part, part? p = some part → p ≠ [] ∧ ∀ rel, part? (p ++ '/' :: rel) = none) :
    Apart (isPart base part?) := by
  intro p hp
  obtain ⟨part, hpart⟩ := Option.isSome_iff_exists.1 hp
  obtain ⟨rel, rfl, hrel⟩ := partAt_eq_some.1 hpart
  refine ⟨List.append_ne_nil_of_right_ne_nil _ (h rel part hrel).1, fun more => ?_⟩
  rw [isPart, List.append_assoc, partAt_append, (h rel part hrel).2 more]
  rfl

/-- **The report of an element, by its parts**: it is no failure exactly if the names on the way are texts and every
part is read without failing; the findings are those of the parts, and what the parts say is taken in their order. -/
theorem Content.report_handling_eq_ok {lift : Error → ε} {base : Path} {part? : Path → Option ρ}
    {item : ρ → Content → Report φ ε ν} {step : σ → ν → σ} (hap : Apart (isPart base part?)) {k : Content} {a b : σ}
    {fs : List φ} :
    k.report lift (handling base part? item step) base a = ⟨fs, .ok b⟩ ↔
      k.Clear (isPart base part?) base ∧ (∀ x ∈ k.parts base part?, ∃ v, (item x.1 x.2).result = .ok v) ∧
        fs = (k.parts base part?).flatMap (fun x => (item x.1 x.2).findings) ∧
        b = ((k.parts base part?).filterMap fun x => (item x.1 x.2).result.toOption).foldl step a := by
  have ht : taken (handling base part? item step) = isPart base part? := by
    funext p
    rw [taken, handling, Option.isSome_map]
  rw [report_eq_ok (by rw [ht]; exact hap), ht]
  refine and_congr_right fun _ => ?_
  rw [Report.each_filterMap (fun x a => (item x.1 x.2).andThen fun v => .done (step a v))
    (fun x => (partAt base part? x.1).map (·, x.2))]
  · exact Report.each_eq_ok
  · intro x a
    rw [reading, handling]
    cases partAt base part? x.1 <;> rfl

theorem Walk.follows_handling {lift : Error → ε} {visit : σ → Path → Walk φ ε σ} {base : Path} {part? : Path → Option ρ}
    {item : ρ → Content → Report φ ε ν} {step : σ → ν → σ} (hnone : ∀ a rel, part? rel = none → visit a rel = .done a)
    (hsome : ∀ a rel part, part? rel = some part →
      Reads lift (visit a rel) (base ++ rel) fun k => (item part k).andThen fun v => .done (step a v)) :
    Follows lift visit (handling base part? item step) base := by
  refine ⟨fun a rel => ?_⟩
  rw [handling, partAt_append]
  cases hr : part? rel with
  | none => exact hnone a rel hr
  | some part => exact hsome a rel part hr

theorem Content.contentsAt_eq_parts [DecidableEq ρ] {base : Path} {part? : Path → Option ρ} {path : String} {part : ρ}
    (h : ∀ rel, part? rel = some part ↔ rel = path.toList) (k : Content) :
    k.contentsAt base path = ((k.parts base part?).filter (·.1 = part)).map (·.2) := by
  have hmore : ∀ p, (decide (p = base ++ path.toList)) = true → isPart base part? p = true := by
    intro p hp
    obtain rfl := of_decide_eq_true hp
    rw [isPart, partAt_append, (h _).2 rfl]
    rfl
  rw [contentsAt, elements_filter _ hmore, parts]
  generalize k.elements (isPart base part?) base = xs
  induction xs with
  | nil => rfl
  | cons x xs ih =>
    have hx : partAt base part? x.1 = some part ↔ x.1 = base ++ path.toList := by
      rw [partAt_eq_some]
      constructor
      · rintro ⟨rel, hrel, hp⟩
        rw [hrel, (h rel).1 hp]
      · exact fun hp => ⟨_, hp, (h _).2 rfl⟩
    by_cases hp : x.1 = base ++ path.toList
    · rw [List.filterMap_cons_some (by rw [hx.2 hp]; rfl)]
      simpa [hp] using ih
    · rw [List.filter_cons_of_neg (by simpa using hp), ih]
      cases hq : partAt base part? x.1 with
      | none => rw [List.filterMap_cons_none (by rw [hq]; rfl)]
      | some other =>
        have hne : other ≠ part := fun he => hp (hx.1 (he ▸ hq))
        rw [List.filterMap_cons_some (by rw [hq]; rfl), List.filter_cons_of_neg (by simpa using hne)]

/-- What holds of all parts holds of the elements at the path of each. -/
theorem Content.forall_parts_iff [DecidableEq ρ] {base : Path} {part? : Path → Option ρ} {path : ρ → String}
    (h : ∀ rel part, part? rel = some part ↔ rel = (path part).toList) {k : Content} {P : ρ → Content → Prop} :
    (∀ x ∈ k.parts base part?, P x.1 x.2) ↔ ∀ part, ∀ e ∈ k.contentsAt base (path part), P part e := by
  have hmem : ∀ part e, e ∈ k.contentsAt base (path part) ↔ (part, e) ∈ k.parts base part? := by
    intro part e
    rw [contentsAt_eq_parts (fun rel => h rel part), List.mem_map]
    constructor
    · rintro ⟨x, hx, rfl⟩
      obtain ⟨hx, hp⟩ := List.mem_filter.1 hx
      exact of_decide_eq_true hp ▸ hx
    · exact fun h => ⟨_, List.mem_filter.2 ⟨h, decide_eq_true rfl⟩, rfl⟩
  constructor
  · exact fun hall part e he => hall _ ((hmem part e).1 he)
  · exact fun hall x hx => hall x.1 x.2 ((hmem x.1 x.2).2 hx)

/-- A path occurs in a document as often as the document has elements there. -/
theorem count_elementPaths {document : Bytes} {k : Content} (h : (Event.ofBytes document).items = k.events)
    (path : String) :
    (elementPaths document).count path.toList = (k.contentsAt [] path).length := by
  have hf := Content.elements_filter (fun _ => true) (fun p (_ : decide (p = [] ++ path.toList) = true) => rfl) k []
  rw [elementPaths_of_content h, Content.contentsAt, List.length_map, hf, List.count_eq_countP, List.countP_map,
    List.countP_eq_length_filter]
  congr 2
  funext x
  rw [List.nil_append, Function.comp_apply, beq_eq_decide]

end

end ScanDiscovery.Xml
