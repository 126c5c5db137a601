import ScanDiscovery.Proofs.Xml.Content
import ScanDiscovery.Xml.Walk
/-!
# Proofs.Xml.Report — what a walk makes of an element, read off the tree

A report is what is left of an outcome once scope and cursor are forgotten: the findings and the result.
`Content.report` visits a tree by recursion, element by element, and hands the elements at some paths over to be read
as a whole; `delivers_loop` says that the walk over the events of the tree comes to the same report and leaves the
cursor behind the tree.  Specification only.
-/
namespace ScanDiscovery.Xml

theorem bind_eq_ok {ε α β : Type} {x : Except ε α} {f : α → Except ε β} {b : β} :
    x.bind f = .ok b ↔ ∃ a, x = .ok a ∧ f a = .ok b := by
  cases x with
  | error e =>
    constructor
    · intro h
      cases h
    · rintro ⟨_, h, -⟩
      cases h
  | ok a =>
    constructor
    · exact fun h => ⟨a, rfl, h⟩
    · rintro ⟨_, h, hf⟩
      cases h
      exact hf

theorem map_eq_ok {ε α β : Type} {x : Except ε α} {f : α → β} {b : β} :
    x.map f = .ok b ↔ ∃ a, x = .ok a ∧ f a = b := by
  cases x <;> simp [Except.map]

theorem toOption_eq_some {ε α : Type} {x : Except ε α} {a : α} : x.toOption = some a ↔ x = .ok a := by
  cases x <;> simp [Except.toOption]

/-- What a walk makes of some content: the findings it notes, and its result. -/
structure Report (φ ε α : Type) where
  findings : List φ
  result : Except ε α

namespace Report

variable {φ ε α β γ : Type}

def done (a : α) : Report φ ε α := ⟨[], .ok a⟩

/-- A result without findings. -/
def ofExcept (r : Except ε α) : Report φ ε α := ⟨[], r⟩

def after (fs : List φ) (r : Report φ ε α) : Report φ ε α := ⟨fs ++ r.findings, r.result⟩

/-- What follows a report, unless it is a failure. -/
def andThen (r : Report φ ε α) (k : α → Report φ ε β) : Report φ ε β :=
  match r.result with
  | .error e => ⟨r.findings, .error e⟩
  | .ok a => (k a).after r.findings

@[simp] theorem andThen_ok (fs : List φ) (a : α) (k : α → Report φ ε β) : andThen ⟨fs, .ok a⟩ k = (k a).after fs := rfl

@[simp] theorem andThen_error (fs : List φ) (e : ε) (k : α → Report φ ε β) :
    andThen ⟨fs, .error e⟩ k = ⟨fs, .error e⟩ := rfl

@[simp] theorem after_nil (r : Report φ ε α) : r.after [] = r := rfl

@[simp] theorem done_andThen (a : α) (k : α → Report φ ε β) : (done a).andThen k = k a := rfl

@[simp] theorem andThen_done (r : Report φ ε α) : r.andThen done = r := by
  obtain ⟨fs, e | a⟩ := r
  · rfl
  · simp [after, done]

theorem after_andThen (fs : List φ) (r : Report φ ε α) (k : α → Report φ ε β) :
    (r.after fs).andThen k = (r.andThen k).after fs := by
  obtain ⟨gs, e | a⟩ := r <;> simp [after, andThen]

theorem andThen_assoc (r : Report φ ε α) (k : α → Report φ ε β) (l : β → Report φ ε γ) :
    (r.andThen k).andThen l = r.andThen fun a => (k a).andThen l := by
  obtain ⟨gs, e | a⟩ := r
  · rfl
  · rw [andThen_ok, after_andThen, andThen_ok]

/-- **A report that is no failure, unpacked.** -/
theorem andThen_eq_ok {r : Report φ ε α} {k : α → Report φ ε β} {fs : List φ} {b : β} :
    r.andThen k = ⟨fs, .ok b⟩ ↔
      ∃ gs a hs, r = ⟨gs, .ok a⟩ ∧ k a = ⟨hs, .ok b⟩ ∧ fs = gs ++ hs := by
  obtain ⟨gs, e | a⟩ := r
  · constructor
    · intro h
      cases h
    · rintro ⟨_, _, _, h, -⟩
      cases h
  · rw [andThen_ok]
    constructor
    · intro h
      refine ⟨gs, a, (k a).findings, rfl, ?_, (congrArg findings h).symm⟩
      rw [show Except.ok b = (k a).result from (congrArg result h).symm]
    · rintro ⟨gs', a', hs, h, hk, rfl⟩
      cases h
      rw [hk]
      rfl

theorem andThen_result {r : Report φ ε α} {k : α → Report φ ε β} {b : β} :
    (r.andThen k).result = .ok b ↔ ∃ a, r.result = .ok a ∧ (k a).result = .ok b := by
  obtain ⟨gs, e | a⟩ := r
  · constructor
    · intro h
      cases h
    · rintro ⟨_, h, -⟩
      cases h
  · constructor
    · exact fun h => ⟨a, rfl, h⟩
    · rintro ⟨_, h, hk⟩
      cases h
      exact hk

theorem andThen_findings {r : Report φ ε α} {a : α} (h : r.result = .ok a) (k : α → Report φ ε β) :
    (r.andThen k).findings = r.findings ++ (k a).findings := by
  rw [andThen, h]
  rfl

theorem result_eq_ok {r : Report φ ε α} {a : α} : r.result = .ok a ↔ ∃ fs, r = ⟨fs, .ok a⟩ := by
  constructor
  · intro h
    exact ⟨r.findings, by rw [← h]⟩
  · rintro ⟨fs, rfl⟩
    rfl

theorem ofExcept_eq_ok {r : Except ε α} {fs : List φ} {a : α} :
    (ofExcept r : Report φ ε α) = ⟨fs, .ok a⟩ ↔ r = .ok a ∧ fs = [] := by
  simp only [ofExcept, mk.injEq]
  constructor
  · rintro ⟨h1, h2⟩
    exact ⟨h2, h1.symm⟩
  · rintro ⟨h1, h2⟩
    exact ⟨h2.symm, h1⟩

end Report

/-- The findings among some marks. -/
def Mark.findings {φ : Type} : List (Mark φ) → List φ
  | [] => []
  | .visited _ :: ms => findings ms
  | .noted f :: ms => f :: findings ms

@[simp] theorem Mark.findings_append {φ : Type} : ∀ ms ns : List (Mark φ),
    findings (ms ++ ns) = findings ms ++ findings ns
  | [], _ => rfl
  | .visited _ :: ms, ns => findings_append ms ns
  | .noted f :: ms, ns => congrArg (f :: ·) (findings_append ms ns)

@[simp] theorem Mark.findings_visited {φ : Type} : ∀ ps : List Path, findings (ps.map (Mark.visited (φ := φ))) = []
  | [] => rfl
  | _ :: ps => findings_visited ps

namespace Content

variable {φ ε σ : Type}

/-- Visits a tree with a state.  An element that `handle` takes is read as a whole; one that it leaves has its
children visited next. -/
def report (lift : Error → ε) (handle : Path → Option (σ → Content → Report φ ε σ)) :
    Path → Content → σ → Report φ ε σ
  | _, .nil, a => .done a
  | parent, .text _ rest, a => report lift handle parent rest a
  | parent, .cdata _ rest, a => report lift handle parent rest a
  | parent, .element name uri inside rest, a =>
    match pathBelow parent name uri with
    | .error e => ⟨[], .error (lift e)⟩
    | .ok p =>
      (match handle p with
        | some read => read a inside
        | none => report lift handle p inside a).andThen fun a => report lift handle parent rest a

end Content

namespace Cursor

/-- The cursor inside an element that begins here, at the path `p`. -/
def entered (c : Cursor) (p : Path) : Cursor := { c with opened := p :: c.opened, rooted := true }

theorem enter_error (c : Cursor) {known : Option String} {name : Name} {e : Error}
    (h : nameParts known name = .error e) : c.enter known name = .error e := by
  rw [enter_eq, enteredPath_eq, h]
  rfl

theorem enter_ok (c : Cursor) {known : Option String} {name : Name} {n : Option (List Char) × List Char}
    (h : nameParts known name = .ok n) : c.enter known name = .ok (c.entered (c.path.child n.1 n.2)) := by
  rw [enter_eq, enteredPath_eq, h]
  rfl

theorem leave_entered {c : Cursor} (p : Path) (hr : c.rooted = true) : (c.entered p).leave = c := by
  rw [entered, leave, List.tail_cons, ← hr]

/-- Texts and elements that stand inside another element add nothing to a text that is read outside it. -/
theorem gather_named (depth : Nat) (read : List Char) : ∀ (k : Content) (c : Cursor) (es : List Event),
    depth < c.depth → c.rooted = true →
      match k.named with
      | .ok () => gather depth read (k.events ++ es) c = gather depth read es c
      | .error e => (gather depth read (k.events ++ es) c).1 = .error e
  | .nil, c, es, _, _ => rfl
  | .text t rest, c, es, hd, hr => by
    have ih := gather_named depth read rest c es hd hr
    simp only [Content.events, List.cons_append, gather, if_neg (Nat.ne_of_gt hd), Content.named]
    exact ih
  | .cdata t rest, c, es, hd, hr => by
    have ih := gather_named depth read rest c es hd hr
    simp only [Content.events, List.cons_append, gather, if_neg (Nat.ne_of_gt hd), Content.named]
    exact ih
  | .element name uri inside rest, c, es, hd, hr => by
    simp only [Content.events, List.cons_append, List.append_assoc, gather, Content.named, enter_eq, enteredPath_eq]
    cases nameParts none name with
    | error e => rfl
    | ok n =>
      have ih := gather_named depth read inside (c.entered (c.path.child n.1 n.2)) (.finish :: (rest.events ++ es))
        (Nat.lt_succ_of_lt hd) rfl
      simp only [Except.map, Except.bind]
      cases hi : inside.named with
      | error e => rw [hi] at ih; exact ih
      | ok _ =>
        rw [hi] at ih
        simp only [gather, leave_entered _ hr, if_neg (Nat.not_lt.2 (Nat.le_of_lt hd))] at ih
        have ih' := gather_named depth read rest c es hd hr
        rw [← ih] at ih'
        exact ih'

/-- **The text of an element is read off its content**: the texts that stand directly in it. -/
theorem gather_ownText : ∀ (k : Content) (c : Cursor) (read : List Char) (es : List Event), c.rooted = true →
    match k.ownText with
    | .ok t => gather c.depth read (k.events ++ es) c = gather c.depth (read ++ t) es c
    | .error e => (gather c.depth read (k.events ++ es) c).1 = .error e
  | .nil, c, read, es, _ => by
    simp only [Content.ownText, Content.events, List.nil_append, List.append_nil]
  | .text t rest, c, read, es, hr => by
    simp only [Content.ownText, Content.events, List.cons_append, gather, if_true]
    cases textOf t with
    | error e => rfl
    | ok cs =>
      have ih := gather_ownText rest c (read ++ cs) es hr
      simp only [Except.bind]
      cases ho : rest.ownText with
      | error e => rw [ho] at ih; exact ih
      | ok more => rw [ho] at ih; simpa only [Except.map, List.append_assoc] using ih
  | .cdata t rest, c, read, es, hr => by
    have ih := gather_ownText rest c (read ++ Utf8.decodeLossy t) es hr
    simp only [Content.ownText, Content.events, List.cons_append, gather, if_true]
    cases ho : rest.ownText with
    | error e => rw [ho] at ih; exact ih
    | ok more => rw [ho] at ih; simpa only [Except.map, List.append_assoc] using ih
  | .element name uri inside rest, c, read, es, hr => by
    simp only [Content.events, List.cons_append, List.append_assoc, gather, Content.ownText, enter_eq, enteredPath_eq]
    cases nameParts none name with
    | error e => rfl
    | ok n =>
      have hin := gather_named c.depth read inside (c.entered (c.path.child n.1 n.2)) (.finish :: (rest.events ++ es))
        (Nat.lt_succ_self _) rfl
      simp only [Except.map, Except.bind]
      cases hi : inside.named with
      | error e => rw [hi] at hin; exact hin
      | ok _ =>
        rw [hi] at hin
        simp only [gather, leave_entered _ hr, if_neg (Nat.lt_irrefl c.depth)] at hin
        have ih := gather_ownText rest c read es hr
        rw [← hin] at ih
        exact ih

/-- **Reading the text of an element** leaves the cursor behind its end. -/
theorem readText_content (k : Content) (c : Cursor) (es : List Event) (h : c.rest = k.events ++ .finish :: es)
    (hd : 0 < c.depth) (hr : c.rooted = true) :
    match k.value with
    | .ok t => c.readText = (.ok t, { c.leave with rest := es })
    | .error e => c.readText.1 = .error e := by
  have ho := gather_ownText k c [] (.finish :: es) hr
  unfold readText Content.value
  rw [h]
  cases hk : k.ownText with
  | error e => rw [hk] at ho; exact ho
  | ok t =>
    rw [hk] at ho
    have hl : c.leave.depth < c.depth := by
      simp only [depth, leave, List.length_tail] at hd ⊢
      omega
    simp only [Except.map]
    rw [ho, gather, if_pos hl, List.nil_append]

/-- What is read of an element is the value of its content, or why it has none. -/
theorem readText_eq_value (k : Content) (c : Cursor) (es : List Event) (h : c.rest = k.events ++ .finish :: es)
    (hd : 0 < c.depth) (hr : c.rooted = true) : c.readText.1 = k.value := by
  have hread := readText_content k c es h hd hr
  cases hk : k.value with
  | error e => rwa [hk] at hread
  | ok t =>
    rw [hk] at hread
    rw [hread]

end Cursor

end ScanDiscovery.Xml
