import ScanDiscovery.Proofs.Xml.Report
/-!
# Proofs.Xml.Noting — what has been found by the end of a walk, wherever it is run

`Ensures lift fs w good bad` is a triple: run after the findings `fs`, in any scope and from any cursor, the walk `w`
ends with findings and a result that are `good`, or with findings and an error that are `bad`.  One rule for each
constructor; the one of `each` takes an invariant that every visit keeps.  Specification only.
-/
namespace ScanDiscovery.Xml
namespace Walk

variable {φ ε α β σ : Type} {lift : Error → ε}

/-- What an outcome leaves behind where `fs` was found before. -/
def Outcome.Leaves (fs : List φ) (good : List φ → α → Prop) (bad : List φ → ε → Prop) (o : Outcome φ ε α) : Prop :=
  match o.result with
  | .ok a => good (fs ++ Mark.findings o.trace) a
  | .error e => bad (fs ++ Mark.findings o.trace) e

namespace Outcome

variable {fs : List φ} {good : List φ → α → Prop} {bad : List φ → ε → Prop}

theorem Leaves.after {o : Outcome φ ε α} (ms : List (Mark φ)) (h : o.Leaves (fs ++ Mark.findings ms) good bad) :
    (o.after ms).Leaves fs good bad := by
  obtain ⟨result, trace, s, c⟩ := o
  cases result <;> simpa only [Leaves, Outcome.after, Mark.findings_append, List.append_assoc] using h

theorem Leaves.andThen {o : Outcome φ ε β} {k : β → Scope → Cursor → Outcome φ ε α} {mid : List φ → β → Prop}
    (h : o.Leaves fs mid bad) (hk : ∀ gs b s c, mid gs b → (k b s c).Leaves gs good bad) :
    (o.andThen k).Leaves fs good bad := by
  obtain ⟨result, trace, s, c⟩ := o
  cases result with
  | error e => exact h
  | ok b =>
    rw [andThen_ok]
    exact (hk _ b s c h).after trace

end Outcome

/-- **Wherever it is run**, after the findings `fs`, a walk comes to what is `good`, or fails with what is `bad`. -/
def Ensures (lift : Error → ε) (fs : List φ) (w : Walk φ ε α) (good : List φ → α → Prop) (bad : List φ → ε → Prop) :
    Prop :=
  ∀ s c, (run lift w s c).Leaves fs good bad

section

variable {fs : List φ} {good : List φ → α → Prop} {bad : List φ → ε → Prop}

/-- What was found before stays found. -/
theorem Ensures.extends {w : Walk φ ε α} (h : Ensures lift fs w good bad) :
    Ensures lift fs w (fun gs a => good gs a ∧ fs <+: gs) bad := by
  intro s c
  have hw := h s c
  generalize run lift w s c = o at hw ⊢
  obtain ⟨result, trace, s', c'⟩ := o
  cases result with
  | error e => exact hw
  | ok a => exact ⟨hw, List.prefix_append _ _⟩

theorem ensures_done {a : α} (h : good fs a) : Ensures lift fs (.done a) good bad := by
  intro s c
  simpa only [Outcome.Leaves, run_done, Mark.findings, List.append_nil] using h

theorem ensures_fail {e : ε} (h : bad fs e) : Ensures lift fs (.fail e : Walk φ ε α) good bad := by
  intro s c
  simpa only [Outcome.Leaves, run_fail, Mark.findings, List.append_nil] using h

theorem ensures_note {f : φ} {w : Walk φ ε α} (h : Ensures lift (fs ++ [f]) w good bad) :
    Ensures lift fs (.note f w) good bad := fun s c => by
  rw [run_note]
  exact (h s c).after [.noted f]

theorem ensures_bind {w : Walk φ ε β} {f : β → Walk φ ε α} {mid : List φ → β → Prop} (hw : Ensures lift fs w mid bad)
    (hf : ∀ gs b, mid gs b → Ensures lift gs (f b) good bad) : Ensures lift fs (w.bind f) good bad := by
  intro s c
  rw [run_bind]
  exact (hw s c).andThen fun gs b s c hb => hf gs b hb s c

theorem leaves_error {e : Error} {s : Scope} {c : Cursor} (ms : List (Mark φ)) (hm : Mark.findings ms = [])
    (h : bad fs (lift e)) : Outcome.Leaves fs good bad ⟨.error (lift e), ms, s, c⟩ := by
  simpa only [Outcome.Leaves, hm, List.append_nil] using h

theorem ensures_text {k : List Char → Walk φ ε α} (hb : ∀ e, bad fs (lift e))
    (hk : ∀ t, Ensures lift fs (k t) good bad) : Ensures lift fs (.text k) good bad := by
  intro s c
  rw [run]
  rcases c.readText with ⟨e | t, c'⟩
  · exact leaves_error [] rfl (hb e)
  · exact hk t s c'

theorem ensures_within {w : Walk φ ε β} {k : β → Walk φ ε α} {mid : List φ → β → Prop}
    (hw : Ensures lift fs w mid bad) (hb : ∀ gs b, mid gs b → ∀ e, bad gs (lift e))
    (hk : ∀ gs b, mid gs b → Ensures lift gs (k b) good bad) : Ensures lift fs (.within w k) good bad := by
  intro s c
  have h := hw (.within c) c
  rw [run]
  generalize run lift w (.within c) c = o at h ⊢
  obtain ⟨result, trace, si, ci⟩ := o
  cases result with
  | error e => exact h
  | ok b =>
    dsimp only
    -- what is passed on the way to the end of the scope is visited, and nothing is found there
    have hskip : Mark.findings (trace ++ (si.skip ci).passed.map .visited) = Mark.findings trace := by
      rw [Mark.findings_append, Mark.findings_visited, List.append_nil]
    cases (si.skip ci).outcome with
    | error e =>
      have hbad := hb _ b h e
      rw [← hskip] at hbad
      exact hbad
    | ok u =>
      refine Outcome.Leaves.after _ ?_
      rw [hskip]
      exact hk _ b h s _

theorem leaves_advance {k : Option Path → Scope → Cursor → Outcome φ ε α} (hb : ∀ e, bad fs (lift e))
    (hk : ∀ p s c, (k p s c).Leaves fs good bad) (s : Scope) (c : Cursor) : (advance lift k s c).Leaves fs good bad := by
  unfold advance
  rcases s.next c with ⟨e | _ | path, s', c'⟩
  · exact leaves_error [] rfl (hb e)
  · exact hk none s' c'
  · dsimp only
    cases s'.relative path with
    | error e => exact leaves_error [.visited path] rfl (hb e)
    | ok p =>
      refine Outcome.Leaves.after [.visited path] ?_
      rw [show Mark.findings [Mark.visited (φ := φ) path] = [] from rfl, List.append_nil]
      exact hk (some p) s' c'

/-- What every visit keeps, the loop keeps. -/
theorem leaves_loop {visit : σ → Path → Walk φ ε σ} {I : List φ → σ → Prop}
    (hb : ∀ gs a, I gs a → ∀ e, bad gs (lift e)) (hv : ∀ gs a p, I gs a → Ensures lift gs (visit a p) I bad) :
    ∀ (fuel : Nat) (fs : List φ) (a : σ) (s : Scope) (c : Cursor), I fs a →
      (loop lift (fun a p s c => run lift (visit a p) s c) fuel a s c).Leaves fs I bad
  | 0, fs, a, s, c, h => (ensures_done h : Ensures lift fs (.done a) I bad) s c
  | fuel + 1, fs, a, s, c, h => by
    rw [loop]
    refine leaves_advance (hb fs a h) (fun p s c => ?_) s c
    cases p with
    | none => exact (ensures_done h : Ensures lift fs (.done a) I bad) s c
    | some p => exact (hv fs a p h s c).andThen fun gs b s c hI => leaves_loop hb hv fuel gs b s c hI

/-- **Visits to the end of a scope**, by what each of them keeps. -/
theorem ensures_each {visit : σ → Path → Walk φ ε σ} {a : σ} {k : σ → Walk φ ε α} (I : List φ → σ → Prop) (h : I fs a)
    (hb : ∀ gs a, I gs a → ∀ e, bad gs (lift e)) (hv : ∀ gs a p, I gs a → Ensures lift gs (visit a p) I bad)
    (hk : ∀ gs b, I gs b → Ensures lift gs (k b) good bad) : Ensures lift fs (.each visit a k) good bad := by
  intro s c
  rw [run]
  exact (leaves_loop hb hv _ fs a s c h).andThen fun gs b s c hI => hk gs b hI s c

end

end Walk
end ScanDiscovery.Xml
