import ScanDiscovery.Xml.Cursor
/-!
# Xml.Walk — programs that read a document by the paths of its elements

A walk asks for the next element of its scope, reads the text of the element it was just given, or enters it: a
walk inside sees only that element's subtree, and whatever it leaves unvisited is passed over when it is done. An
element that is neither read nor entered has its children visited next.

A walk may note findings on its way. Its trace lists them among the elements visited, in the order in which things
happened, and is there also when the walk fails. Running two walks one after the other is running the second where
the first left off (`run_bind`).
-/
namespace ScanDiscovery.Xml

/-- A walk that notes findings `φ`, fails with `ε`, and results in `α`. -/
inductive Walk (φ ε : Type) : Type → Type 1 where
  | done {α : Type} (a : α) : Walk φ ε α
  | fail {α : Type} (e : ε) : Walk φ ε α
  | note {α : Type} (finding : φ) (w : Walk φ ε α) : Walk φ ε α
  /-- on to the next element; nothing, once the scope is at its end -/
  | next {α : Type} (k : Option Path → Walk φ ε α) : Walk φ ε α
  /-- on to the end of the scope, with a state that each element given on the way may change -/
  | each {α σ : Type} (visit : σ → Path → Walk φ ε σ) (a : σ) (k : σ → Walk φ ε α) : Walk φ ε α
  /-- the text of the element just given -/
  | text {α : Type} (k : List Char → Walk φ ε α) : Walk φ ε α
  /-- the subtree of the element just given -/
  | within {α β : Type} (w : Walk φ ε β) (k : β → Walk φ ε α) : Walk φ ε α

/-- What happens on a walk: an element (by its absolute path) is visited, or a finding noted. -/
inductive Mark (φ : Type) where
  | visited (path : Path)
  | noted (finding : φ)
  deriving DecidableEq, Repr

namespace Walk

variable {φ ε α β σ : Type}

def bind : Walk φ ε α → (α → Walk φ ε β) → Walk φ ε β
  | .done a, f => f a
  | .fail e, _ => .fail e
  | .note finding w, f => .note finding (bind w f)
  | .next k, f => .next fun p => bind (k p) f
  | .each visit a k, f => .each visit a fun b => bind (k b) f
  | .text k, f => .text fun t => bind (k t) f
  | .within w k, f => .within w fun b => bind (k b) f

instance : Monad (Walk φ ε) where
  pure := .done
  bind := bind

/-- The walk that notes a finding. -/
def found (finding : φ) : Walk φ ε Unit := .note finding (.done ())

/-- How a walk went: its result, its trace, and where it left scope and cursor. -/
structure Outcome (φ ε α : Type) where
  result : Except ε α
  trace : List (Mark φ)
  scope : Scope
  cursor : Cursor

namespace Outcome

/-- The outcome with marks before its own. -/
def after (marks : List (Mark φ)) (o : Outcome φ ε α) : Outcome φ ε α :=
  { o with trace := marks ++ o.trace }

/-- What follows an outcome, unless it is a failure. -/
def andThen (o : Outcome φ ε α) (k : α → Scope → Cursor → Outcome φ ε β) : Outcome φ ε β :=
  match o.result with
  | .error e => ⟨.error e, o.trace, o.scope, o.cursor⟩
  | .ok a => (k a o.scope o.cursor).after o.trace

@[simp] theorem after_nil (o : Outcome φ ε α) : o.after [] = o := rfl

@[simp] theorem after_after (ms ns : List (Mark φ)) (o : Outcome φ ε α) :
    (o.after ns).after ms = o.after (ms ++ ns) := by
  simp [after]

@[simp] theorem andThen_ok (a : α) (trace : List (Mark φ)) (s : Scope) (c : Cursor)
    (k : α → Scope → Cursor → Outcome φ ε β) : andThen ⟨.ok a, trace, s, c⟩ k = (k a s c).after trace := rfl

@[simp] theorem andThen_error (e : ε) (trace : List (Mark φ)) (s : Scope) (c : Cursor)
    (k : α → Scope → Cursor → Outcome φ ε β) : andThen ⟨.error e, trace, s, c⟩ k = ⟨.error e, trace, s, c⟩ := rfl

theorem andThen_after (ms : List (Mark φ)) (o : Outcome φ ε α) (k : α → Scope → Cursor → Outcome φ ε β) :
    (o.after ms).andThen k = (o.andThen k).after ms := by
  obtain ⟨result, trace, s, c⟩ := o
  cases result <;> simp [after, andThen]

theorem andThen_assoc {γ : Type} (o : Outcome φ ε α) (k : α → Scope → Cursor → Outcome φ ε β)
    (l : β → Scope → Cursor → Outcome φ ε γ) :
    (o.andThen k).andThen l = o.andThen fun a s c => (k a s c).andThen l := by
  obtain ⟨result, trace, s, c⟩ := o
  cases result with
  | error e => rfl
  | ok a => rw [andThen_ok, andThen_ok, andThen_after]

end Outcome

/-- A move to the next element of the scope, and what follows from there. The element's absolute path goes into
the trace, and its path inside the scope to what follows. -/
def advance (lift : Error → ε) (k : Option Path → Scope → Cursor → Outcome φ ε α) (s : Scope) (c : Cursor) :
    Outcome φ ε α :=
  match s.next c with
  | ⟨.error e, s, c⟩ => ⟨.error (lift e), [], s, c⟩
  | ⟨.ok none, s, c⟩ => k none s c
  | ⟨.ok (some path), s, c⟩ =>
    match s.relative path with
    | .error e => ⟨.error (lift e), [.visited path], s, c⟩
    | .ok p => (k (some p) s c).after [.visited path]

/-- Visits the elements of the scope to its end, at most `fuel` of them. -/
def loop (lift : Error → ε) (visit : σ → Path → Scope → Cursor → Outcome φ ε σ) :
    Nat → σ → Scope → Cursor → Outcome φ ε σ
  | 0, a, s, c => ⟨.ok a, [], s, c⟩
  | fuel + 1, a, s, c =>
    advance lift (fun p s c =>
      match p with
      | none => ⟨.ok a, [], s, c⟩
      | some p => (visit a p s c).andThen (loop lift visit fuel)) s c

/-- The outcome of a walk in a scope, from a cursor on; `lift` says how a walk fails for a fault of the document.
No scope gives more elements than there are events left. -/
def run (lift : Error → ε) : {α : Type} → Walk φ ε α → Scope → Cursor → Outcome φ ε α
  | _, .done a, s, c => ⟨.ok a, [], s, c⟩
  | _, .fail e, s, c => ⟨.error e, [], s, c⟩
  | _, .note finding w, s, c => (run lift w s c).after [.noted finding]
  | _, .next k, s, c => advance lift (fun p s c => run lift (k p) s c) s c
  | _, .each visit a k, s, c =>
    (loop lift (fun a p s c => run lift (visit a p) s c) (c.rest.length + 1) a s c).andThen
      fun b s c => run lift (k b) s c
  | _, .text k, s, c =>
    match c.readText with
    | (.error e, c) => ⟨.error (lift e), [], s, c⟩
    | (.ok t, c) => run lift (k t) s c
  | _, .within w k, s, c =>
    let inner := run lift w (.within c) c
    match inner.result with
    | .error e => ⟨.error e, inner.trace, s, inner.cursor⟩
    | .ok b =>
      let rest := inner.scope.skip inner.cursor
      let marks := inner.trace ++ rest.passed.map .visited
      match rest.outcome with
      | .error e => ⟨.error (lift e), marks, s, rest.cursor⟩
      | .ok () => (run lift (k b) s rest.cursor).after marks

/-- The outcome of a walk of a whole document. -/
def runDocument (lift : Error → ε) (w : Walk φ ε α) (document : Bytes) : Outcome φ ε α :=
  run lift w .document (.ofBytes document)

@[simp] theorem run_done (lift : Error → ε) (a : α) (s : Scope) (c : Cursor) :
    run lift (.done a : Walk φ ε α) s c = ⟨.ok a, [], s, c⟩ := rfl

@[simp] theorem run_fail (lift : Error → ε) (e : ε) (s : Scope) (c : Cursor) :
    run lift (.fail e : Walk φ ε α) s c = ⟨.error e, [], s, c⟩ := rfl

@[simp] theorem run_note (lift : Error → ε) (finding : φ) (w : Walk φ ε α) (s : Scope) (c : Cursor) :
    run lift (.note finding w) s c = (run lift w s c).after [.noted finding] := rfl

theorem advance_andThen (lift : Error → ε) (k : Option Path → Scope → Cursor → Outcome φ ε α)
    (l : α → Scope → Cursor → Outcome φ ε β) (s : Scope) (c : Cursor) :
    (advance lift k s c).andThen l = advance lift (fun p s c => (k p s c).andThen l) s c := by
  unfold advance
  rcases s.next c with ⟨outcome, s', c'⟩
  rcases outcome with e | (_ | path)
  · rfl
  · rfl
  · dsimp only
    cases s'.relative path with
    | error e => rfl
    | ok p => rw [Outcome.andThen_after]

/-- Two walks one after the other. -/
theorem run_bind (lift : Error → ε) (w : Walk φ ε α) (f : α → Walk φ ε β) (s : Scope) (c : Cursor) :
    run lift (w.bind f) s c = (run lift w s c).andThen fun a s c => run lift (f a) s c := by
  induction w generalizing s c with
  | done a => simp [bind]
  | fail e => simp [bind]
  | note finding w ih => rw [bind, run_note, run_note, ih, Outcome.andThen_after]
  | next k ih =>
    rw [bind, run, run, advance_andThen]
    congr 1
    funext p s c
    exact ih p f s c
  | each visit a k _ ih =>
    rw [bind, run, run, Outcome.andThen_assoc]
    congr 1
    funext b s c
    exact ih b f s c
  | text k ih =>
    rw [bind, run, run]
    rcases c.readText with ⟨e | t, c'⟩
    · rfl
    · exact ih t f s c'
  | within w k _ ih =>
    rw [bind, run, run]
    dsimp only
    cases (run lift w (.within c) c).result with
    | error e => rfl
    | ok b =>
      dsimp only
      cases ((run lift w (.within c) c).scope.skip (run lift w (.within c) c).cursor).outcome with
      | error e => rfl
      | ok u => rw [ih, Outcome.andThen_after]

end Walk
end ScanDiscovery.Xml
