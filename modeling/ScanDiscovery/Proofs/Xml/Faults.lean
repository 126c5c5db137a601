import ScanDiscovery.Proofs.Xml.Script
import ScanDiscovery.Proofs.Xml.Visiting
/-!
# Proofs.Xml.Faults — everything that is wrong in an element, in document order

What is wrong in an element is listed by recursion on its tree, whether it is closed (`Content.faults`) or the document
ends in it, which is wrong as well (`Trunk.faults`): names that are no text, and what is wrong with its parts.  A walk
that visits the element fails with the first of the list, and does not fail where there is none (`report_faults`,
`delivers_cut`, `cut_faults`).  Specification only.
-/
namespace ScanDiscovery.Xml

/-- What a failure is, if it is one. -/
def fault? {ε α : Type} : Except ε α → Option ε
  | .error e => some e
  | .ok _ => none

section

variable {ε α β φ : Type}

theorem fault?_eq_some {x : Except ε α} {e : ε} : fault? x = some e ↔ x = .error e := by cases x <;> simp [fault?]

theorem fault?_eq_none {x : Except ε α} : fault? x = none ↔ ∃ a, x = .ok a := by cases x <;> simp [fault?]

@[simp] theorem fault?_map (f : α → β) (x : Except ε α) : fault? (x.map f) = fault? x := by cases x <;> rfl

/-- **What fails as something before it does** has the faults of that first. -/
theorem fault?_append {x : Except ε α} {y : Except ε β} {l m : List ε} (hx : fault? x = l.head?)
    (herror : ∀ e, x = .error e → y = .error e) (hok : ∀ a, x = .ok a → fault? y = m.head?) :
    fault? y = (l ++ m).head? := by
  rw [List.head?_append, ← hx]
  cases x with
  | error e =>
    rw [herror e rfl]
    rfl
  | ok a => exact hok a rfl

theorem fault?_bind {x : Except ε α} {f : α → Except ε β} {l m : List ε} (hx : fault? x = l.head?)
    (hf : ∀ a, fault? (f a) = m.head?) : fault? (x.bind f) = (l ++ m).head? := by
  refine fault?_append hx (fun e he => ?_) fun a ha => ?_
  · rw [he]
    rfl
  · rw [ha]
    exact hf a

theorem fault?_andThen {r : Report φ ε α} {k : α → Report φ ε β} {l m : List ε} (hr : fault? r.result = l.head?)
    (hk : ∀ a, r.result = .ok a → fault? (k a).result = m.head?) : fault? (r.andThen k).result = (l ++ m).head? := by
  refine fault?_append hr (fun e he => ?_) fun a ha => ?_
  · rw [Report.andThen, he]
  · rw [Report.andThen, ha]
    exact hk a ha

end

/-- A name that is no text is at fault. -/
def Name.fault? (known : Option String) (name : Name) : Option Error := Xml.fault? (Cursor.nameParts known name)

/-- The path of an element below another; none if its name is no text, or that of an element around it. -/
def Path.below (own : Option Path) (known : Option String) (name : Name) : Option Path :=
  own.bind fun p => (Cursor.nameParts known name).toOption.map fun n => p.child n.1 n.2

/-- What stands in an element where the document ends: its fault, if it has one, or else that the element is open. -/
def lastFault (fault : Option Error) (own : Option Path) : Error := fault.getD (.unexpectedEnd (own.getD []))

/-- What stands in an element: it is closed, or the document ends in it. -/
inductive Subtree where
  | closed (k : Content)
  | cut (t : Trunk)

/-- It stands between a cursor and the end of the innermost element, or of the document. -/
def Subtree.StandsAt (c : Cursor) : Subtree → Prop
  | .closed k => ∃ es, c.rest = k.events ++ .finish :: es
  | .cut t => c.rest = t.events

theorem Event.nested_length : ∀ (es : List Event) (n : Nat), es.length ≤ n → Nested n es
  | [], _, _ => trivial
  | .start _ _ :: es, n, h => nested_length es (n + 1) (by rw [List.length_cons] at h; omega)
  | .finish :: es, 0, h => absurd h (Nat.not_succ_le_zero _)
  | .finish :: es, n + 1, h => nested_length es n (Nat.le_of_succ_le_succ h)
  | .text _ :: es, n, h => nested_length es n (Nat.le_of_succ_le h)
  | .cdata _ :: es, n, h => nested_length es n (Nat.le_of_succ_le h)

theorem Subtree.exists_standsAt (c : Cursor) : ∃ x : Subtree, x.StandsAt c := by
  -- events cannot close more than there are of them, so with that many elements open they are nested
  rcases Event.trunk_or_content c.rest _ (Event.nested_length _ _ (Nat.le_refl _)) with ⟨t, ht⟩ | ⟨k, es, _, _, hk, _⟩
  · exact ⟨.cut t, ht⟩
  · exact ⟨.closed k, es, hk⟩

/-! ## Texts -/

namespace Content

/-- The names at fault somewhere in a text. -/
def nameFaults : Content → List Error
  | .nil => []
  | .text _ rest => rest.nameFaults
  | .cdata _ rest => rest.nameFaults
  | .element name _ inside rest => (name.fault? none).toList ++ (inside.nameFaults ++ rest.nameFaults)

/-- What is wrong with a text: pieces of it that stand directly in its element, and names. -/
def textFaults : Content → List Error
  | .nil => []
  | .text t rest => (Xml.fault? (Cursor.textOf t)).toList ++ rest.textFaults
  | .cdata _ rest => rest.textFaults
  | .element name _ inside rest => (name.fault? none).toList ++ (inside.nameFaults ++ rest.textFaults)

theorem fault?_named : ∀ k : Content, Xml.fault? k.named = k.nameFaults.head?
  | .nil => rfl
  | .text _ rest => fault?_named rest
  | .cdata _ rest => fault?_named rest
  | .element _ _ inside rest =>
    fault?_bind Option.head?_toList.symm fun _ => fault?_bind (fault?_named inside) fun _ => fault?_named rest

theorem fault?_ownText : ∀ k : Content, Xml.fault? k.ownText = k.textFaults.head?
  | .nil => rfl
  | .text t rest => fault?_bind Option.head?_toList.symm fun cs => by
    rw [fault?_map]
    exact fault?_ownText rest
  | .cdata _ rest => by
    rw [ownText, textFaults, fault?_map]
    exact fault?_ownText rest
  | .element _ _ inside rest =>
    fault?_bind Option.head?_toList.symm fun _ => fault?_bind (fault?_named inside) fun _ => fault?_ownText rest

theorem fault?_value (k : Content) : Xml.fault? k.value = k.textFaults.head? := by
  rw [value, fault?_map, fault?_ownText]

end Content

namespace Trunk

/-- The names at fault in a text that the document ends in, and its end. -/
def nameFaults (fault : Option Error) : Option Path → Trunk → List Error
  | own, .ended k => k.nameFaults ++ [lastFault fault own]
  | own, .within before name _ inside =>
    before.nameFaults ++ ((name.fault? none).toList ++ nameFaults fault (Path.below own none name) inside)

def textFaults (fault : Option Error) : Option Path → Trunk → List Error
  | own, .ended k => k.textFaults ++ [lastFault fault own]
  | own, .within before name _ inside =>
    before.textFaults ++ ((name.fault? none).toList ++ nameFaults fault (Path.below own none name) inside)

theorem textFaults_ne_nil (fault : Option Error) (own : Option Path) (t : Trunk) : t.textFaults fault own ≠ [] := by
  have hnames : ∀ (t : Trunk) (own : Option Path), t.nameFaults fault own ≠ [] := by
    intro t
    induction t with
    | ended k => simp [nameFaults]
    | within before name uri inside ih => simp [nameFaults, ih]
  cases t with
  | ended k => simp [textFaults]
  | within before name uri inside => simp [textFaults, hnames]

end Trunk

namespace Cursor

/-- A start tag in a text is passed, or its name is at fault. -/
theorem gather_start {depth : Nat} {read : List Char} {c : Cursor} {es : List Event} {name : Name} {uri : Option Bytes}
    (l : Option Path → List Error) (h : ∀ p, Xml.fault? (gather depth read es (c.entered p)).1 = (l (some p)).head?) :
    Xml.fault? (gather depth read (.start name uri :: es) c).1 =
      ((name.fault? none).toList ++ l (Path.below (some c.path) none name)).head? := by
  rw [gather, enter_eq, enteredPath_eq]
  unfold Name.fault? Path.below
  cases nameParts none name with
  | error e => rfl
  | ok n => exact h _

theorem gather_broken_named (depth : Nat) (read : List Char) : ∀ (t : Trunk) (c : Cursor), depth < c.depth →
    c.rooted = true → Xml.fault? (gather depth read t.events c).1 = (t.nameFaults c.fault (some c.path)).head?
  | .ended k, c, hd, hr => by
    have h := gather_named depth read k c [] hd hr
    rw [List.append_nil] at h
    refine fault?_append k.fault?_named (fun e he => ?_) fun _ hk => ?_
    · rw [he] at h
      exact h
    · rw [hk] at h
      rw [Trunk.events, h]
      rfl
  | .within before name uri inside, c, hd, hr => by
    have h := gather_named depth read before c (.start name uri :: inside.events) hd hr
    refine fault?_append before.fault?_named (fun e he => ?_) fun _ hk => ?_
    · rw [he] at h
      exact h
    · rw [hk] at h
      rw [Trunk.events, h]
      exact gather_start (Trunk.nameFaults c.fault · inside) fun p =>
        gather_broken_named depth read inside (c.entered p) (Nat.lt_succ_of_lt hd) rfl

theorem gather_broken (read : List Char) (t : Trunk) (c : Cursor) (hr : c.rooted = true) :
    Xml.fault? (gather c.depth read t.events c).1 = (t.textFaults c.fault (some c.path)).head? := by
  cases t with
  | ended k =>
    have h := gather_ownText k c read [] hr
    rw [List.append_nil] at h
    refine fault?_append k.fault?_ownText (fun e he => ?_) fun text hk => ?_
    · rw [he] at h
      exact h
    · rw [hk] at h
      rw [Trunk.events, h]
      rfl
  | within before name uri inside =>
    have h := gather_ownText before c read (.start name uri :: inside.events) hr
    refine fault?_append before.fault?_ownText (fun e he => ?_) fun text hk => ?_
    · rw [he] at h
      exact h
    · rw [hk] at h
      rw [Trunk.events, h]
      exact gather_start (Trunk.nameFaults c.fault · inside) fun p =>
        gather_broken_named c.depth _ inside (c.entered p) (Nat.lt_succ_self _) rfl

/-- **A text that the document ends in** is not read: what is first wrong with it is told. -/
theorem readText_broken {t : Trunk} {c : Cursor} (hrest : c.rest = t.events) (hr : c.rooted = true) :
    Xml.fault? c.readText.1 = (t.textFaults c.fault (some c.path)).head? := by
  rw [readText, hrest]
  exact gather_broken [] t c hr

end Cursor

/-! ## Visits -/

section

variable {φ ε ρ σ ν : Type} (lift : Error → ε) (find : Path → Option ρ)

/-- What is wrong in an element, where `inPart` says what is wrong with a part of it. -/
def Content.faults (inPart : ρ → Content → List ε) : Option Path → Content → List ε
  | _, .nil => []
  | own, .text _ rest => faults inPart own rest
  | own, .cdata _ rest => faults inPart own rest
  -- below a name that is no text nothing has a path, and nothing that is listed there comes before the name
  | own, .element name uri inside rest =>
    let known := uri.bind Vocabulary.prefixOf?
    ((name.fault? known).toList.map lift ++ match (Path.below own known name).bind find with
      | some part => inPart part inside
      | none => faults inPart (Path.below own known name) inside) ++ faults inPart own rest

/-- What is wrong in an element that the document ends in, where `inCut` says that of a part that it ends in. -/
def Trunk.faults (fault : Option Error) (inPart : ρ → Content → List ε) (inCut : ρ → Option Path → Trunk → List ε) :
    Option Path → Trunk → List ε
  | own, .ended k => k.faults lift find inPart own ++ [lift (lastFault fault own)]
  | own, .within before name uri inside =>
    let known := uri.bind Vocabulary.prefixOf?
    before.faults lift find inPart own ++
      ((name.fault? known).toList.map lift ++ match (Path.below own known name).bind find with
        | some part => inCut part (Path.below own known name) inside
        | none => faults fault inPart inCut (Path.below own known name) inside)

variable {lift find}

theorem Trunk.faults_ne_nil {fault : Option Error} {inPart : ρ → Content → List ε}
    {inCut : ρ → Option Path → Trunk → List ε} (h : ∀ part own t, inCut part own t ≠ []) :
    ∀ (t : Trunk) (own : Option Path), t.faults lift find fault inPart inCut own ≠ []
  | .ended k, own => by
    rw [faults]
    exact List.append_ne_nil_of_right_ne_nil _ (List.cons_ne_nil _ _)
  | .within before name uri inside, own => by
    rw [faults]
    refine List.append_ne_nil_of_right_ne_nil _ (List.append_ne_nil_of_right_ne_nil _ ?_)
    split
    · exact h _ _ inside
    · exact faults_ne_nil h inside _

/-- **The report of a closed element** is its first fault, if there is one. -/
theorem report_faults {base : Path} {part? : Path → Option ρ} {item : ρ → Content → Report φ ε ν} {step : σ → ν → σ}
    {inPart : ρ → Content → List ε} (hitem : ∀ part k, fault? (item part k).result = (inPart part k).head?) :
    ∀ (k : Content) (parent : Path) (a : σ), fault? (k.report lift (handling base part? item step) parent a).result =
      (k.faults lift (partAt base part?) inPart (some parent)).head?
  | .nil, _, _ => rfl
  | .text _ rest, parent, a => report_faults hitem rest parent a
  | .cdata _ rest, parent, a => report_faults hitem rest parent a
  | .element name uri inside rest, parent, a => by
    have ihInside : ∀ p, fault? (inside.report lift (handling base part? item step) p a).result =
        (inside.faults lift (partAt base part?) inPart (some p)).head? := fun p => report_faults hitem inside p a
    have ihRest : ∀ b, fault? (rest.report lift (handling base part? item step) parent b).result =
        (rest.faults lift (partAt base part?) inPart (some parent)).head? := report_faults hitem rest parent
    rw [Content.report, Content.faults, Content.pathBelow, Cursor.enteredPath_eq]
    unfold Name.fault? Path.below
    cases Cursor.nameParts (uri.bind Vocabulary.prefixOf?) name with
    | error e => rfl
    | ok n =>
      refine fault?_andThen ?_ fun b _ => ihRest b
      simp only [fault?, Option.toList_none, List.map_nil, List.nil_append, Option.bind_some, Except.toOption,
        Option.map_some, handling]
      cases partAt base part? (parent.child n.1 n.2) with
      | none => exact ihInside _
      | some part =>
        have hpart := fault?_andThen (k := fun v => .done (step a v)) (m := []) (hitem part inside) fun _ _ => rfl
        rw [List.append_nil] at hpart
        exact hpart

/-- What a walk makes of an element that the document ends in; `inCut` is what it makes of a part that it ends in. -/
def Trunk.report (lift : Error → ε) (fault : Option Error) (handle : Path → Option (σ → Content → Report φ ε σ))
    (inCut : Path → Trunk → ε) : Path → Trunk → σ → Report φ ε σ
  | p, .ended k, a => (k.report lift handle p a).andThen fun _ => .ofExcept (.error (lift (lastFault fault (some p))))
  | p, .within before name uri inside, a => (before.report lift handle p a).andThen fun a =>
    match Content.pathBelow p name uri with
    | .error e => .ofExcept (.error (lift e))
    | .ok q => match handle q with
      | some _ => .ofExcept (.error (inCut q inside))
      | none => report lift fault handle inCut q inside a

/-- **The report of an element that the document ends in** is its first fault. -/
theorem cut_faults {base : Path} {part? : Path → Option ρ} {item : ρ → Content → Report φ ε ν} {step : σ → ν → σ}
    {fault : Option Error} {inPart : ρ → Content → List ε} {inCut : ρ → Option Path → Trunk → List ε}
    {broken : Path → Trunk → ε} (hitem : ∀ part k, fault? (item part k).result = (inPart part k).head?)
    (hcut : ∀ part p t, (inCut part (some p) t).head? = some (broken p t)) :
    ∀ (t : Trunk) (parent : Path) (a : σ),
      fault? (t.report lift fault (handling base part? item step) broken parent a).result =
        (t.faults lift (partAt base part?) fault inPart inCut (some parent)).head?
  | .ended k, parent, a => fault?_andThen (report_faults hitem k parent a) fun _ _ => rfl
  | .within before name uri inside, parent, a => by
    refine fault?_andThen (report_faults hitem before parent a) fun b _ => ?_
    have ih : ∀ p, fault? (inside.report lift fault (handling base part? item step) broken p b).result =
        (inside.faults lift (partAt base part?) fault inPart inCut (some p)).head? := fun p =>
      cut_faults hitem hcut inside p b
    rw [Content.pathBelow, Cursor.enteredPath_eq]
    unfold Name.fault? Path.below
    cases Cursor.nameParts (uri.bind Vocabulary.prefixOf?) name with
    | error e => rfl
    | ok n =>
      simp only [fault?, Option.toList_none, List.map_nil, List.nil_append, Option.bind_some, Except.toOption,
        Option.map_some, Except.map, handling]
      cases partAt base part? (parent.child n.1 n.2) with
      | none => exact ih _
      | some part => exact (hcut part _ inside).symm

end

namespace Walk

variable {φ ε α β σ : Type} {lift : Error → ε} {visit : σ → Path → Walk φ ε σ} {base : Path}
  {handle : Path → Option (σ → Content → Report φ ε σ)} {fault : Option Error} {inCut : Path → Trunk → ε}

/-- Parts that the document ends in are not read. -/
def Breaks (lift : Error → ε) (visit : σ → Path → Walk φ ε σ) (handle : Path → Option (σ → Content → Report φ ε σ))
    (base : Path) (fault : Option Error) (inCut : Path → Trunk → ε) : Prop :=
  ∀ (a : σ) (rel : Path) (t : Trunk) (s : Scope) (c : Cursor), (handle (base ++ rel)).isSome = true →
    c.path = base ++ rel → c.rooted = true → c.fault = fault → c.rest = t.events →
      (run lift (visit a rel) s c).ComesTo (.ofExcept (.error (inCut (base ++ rel) t)))

theorem Outcome.andThen_pure (o : Outcome φ ε α) : o.andThen (fun a s c => ⟨.ok a, [], s, c⟩) = o := by
  obtain ⟨result, trace, s, c⟩ := o
  cases result with
  | error e => rfl
  | ok a => rw [andThen_ok, after, List.append_nil]

/-- After a failure there is nothing. -/
theorem Outcome.ComesTo.failed {o : Outcome φ ε α} {e : ε} (h : o.ComesTo (.ofExcept (.error e)))
    (k : α → Scope → Cursor → Outcome φ ε β) (s : Scope) (c : Cursor) :
    (o.andThen k).Delivers (.ofExcept (.error e)) s c := by
  obtain ⟨result, trace, os, oc⟩ := o
  obtain ⟨hfindings, hresult⟩ := h
  obtain rfl : result = .error e := hresult
  exact ⟨hfindings, rfl, fun a ha => by cases ha⟩

theorem visits_last {s : Scope} (hf : s.finished = false) {c : Cursor} (hrest : c.rest = []) (hd : 0 < c.depth)
    (fuel : Nat) (a : σ) :
    visits lift visit (fuel + 1) a s c =
      ⟨.error (lift (lastFault c.fault (some c.path))), [], (s.next c).scope, (s.next c).cursor⟩ := by
  have houtcome : (s.next c).outcome = .error (lastFault c.fault (some c.path)) := by
    rw [Scope.next_eq_seek hf, hrest, Scope.seek]
    cases c.fault with
    | some e => rfl
    | none =>
      simp only [Scope.atEnd, hd, decide_true, Bool.or_true, if_true]
      rfl
  exact visits_of_error (by rw [← houtcome])

section

variable {s : Scope} (hf : s.finished = false) (hs : s.skipped = base.size) (hv : Follows lift visit handle base)
  (hb : Breaks lift visit handle base fault inCut) (s' : Scope) (c' : Cursor)
include hf hs hv hb

/-- An element that the document ends in is visited, if it is not a part. -/
theorem delivers_branch {name : Name} {uri : Option Bytes} {inside : Trunk} {a : σ} {fuel : Nat} {c : Cursor} {rel : Path}
    (hp : c.path = base ++ rel) (hfault : c.fault = fault) (hrest : c.rest = .start name uri :: inside.events)
    (ih : ∀ rel', (visits lift visit fuel a s { c.entered (base ++ rel') with rest := inside.events }).Delivers
      (inside.report lift fault handle inCut (base ++ rel') a) s' c') :
    (visits lift visit (fuel + 1) a s c).Delivers
      ((Trunk.within .nil name uri inside).report lift fault handle inCut c.path a) s' c' := by
  rw [visits_start hf hrest, Trunk.report, Content.report, Report.done_andThen]
  cases hq : Content.pathBelow c.path name uri with
  | error e => exact ⟨rfl, rfl, fun a ha => by cases ha⟩
  | ok q =>
    obtain ⟨rel', rfl⟩ := pathBelow_append hp hq
    have hvis := hv.visit_eq a rel'
    simp only [Scope.relative_append hs]
    refine Outcome.Delivers.after ?_ [.visited _]
    cases hh : handle (base ++ rel') with
    | none =>
      rw [hh] at hvis
      simp only at hvis ⊢
      rw [hvis, run_done, Outcome.andThen_ok, Outcome.after_nil]
      exact ih rel'
    | some read =>
      have hbreak := hb a rel' inside s { c.entered (base ++ rel') with rest := inside.events } (by rw [hh]; rfl) rfl rfl
        hfault rfl
      exact hbreak.failed _ s' c'

/-- **Visiting the events of an element that the document ends in** comes to its report. -/
theorem delivers_cut : ∀ (t : Trunk) (a : σ) (fuel : Nat) (c : Cursor) (rel : Path), c.path = base ++ rel →
    s.depth ≤ c.depth → 0 < c.depth → c.fault = fault → c.rest = t.events → c.rest.length < fuel →
      (visits lift visit fuel a s c).Delivers (t.report lift fault handle inCut c.path a) s' c'
  | .ended k, a, fuel, c, rel, hp, hd, hd0, hfault, hrest, hfuel => by
    rw [← Outcome.andThen_pure (visits lift visit fuel a s c), Trunk.report]
    refine delivers_visits hf hs hv k a fuel c rel [] _ _ s' c' hp hd (by rw [hrest, Trunk.events, List.append_nil]) hfuel
      fun b fuel' hfuel' => ?_
    -- the events are used up and the element is open: the visit goes on once more, and fails
    obtain ⟨n, rfl⟩ := Nat.exists_eq_succ_of_ne_zero (Nat.ne_zero_of_lt hfuel')
    have hopen : 0 < Cursor.depth { c with rest := [], rooted := c.rooted || k.hasElement } := hd0
    rw [Outcome.andThen_pure, ← hfault, visits_last hf rfl hopen]
    exact ⟨rfl, rfl, fun a ha => by cases ha⟩
  | .within before name uri inside, a, fuel, c, rel, hp, hd, hd0, hfault, hrest, hfuel => by
    rw [← Outcome.andThen_pure (visits lift visit fuel a s c), Trunk.report]
    refine delivers_visits hf hs hv before a fuel c rel (.start name uri :: inside.events) _ _ s' c' hp hd hrest hfuel
      fun b fuel' hfuel' => ?_
    obtain ⟨n, rfl⟩ := Nat.exists_eq_succ_of_ne_zero (Nat.ne_zero_of_lt hfuel')
    rw [Outcome.andThen_pure]
    exact delivers_branch hf hs hv hb s' c' hp hfault rfl fun rel' =>
      delivers_cut inside b n { c.entered (base ++ rel') with rest := inside.events } rel' rfl
        (Nat.le_succ_of_le hd) (Nat.succ_pos _) hfault rfl (Nat.lt_of_succ_lt_succ hfuel')

end

end Walk

end ScanDiscovery.Xml
