import ScanDiscovery.Proofs.Xml.Progress
/-!
# Proofs.Xml.Parted — a walk where texts are in parts, beside the walk where they are whole

The text of an element is all the texts that stand in it, one after the other, and no other move looks at a text.  So
where texts are in two parts that stand for the two parts of what the whole stands for (`Event.Parted`), every move comes
to the same, and leads to the same place (`PartedAt`): a walk results in the same, with the same trace (`run_parted`).
Specification only.
-/
namespace ScanDiscovery.Xml

/-- The same events, but that texts may be in two parts in the second. -/
inductive Event.Parted : List Event → List Event → Prop
  | nil : Parted [] []
  | cons (e : Event) {es es' : List Event} (h : Parted es es') : Parted (e :: es) (e :: es')
  | parts {whole front back : Bytes} {x y : List Char} (hfront : Cursor.textOf front = .ok x)
      (hback : Cursor.textOf back = .ok y) (hwhole : Cursor.textOf whole = .ok (x ++ y)) {es es' : List Event}
      (h : Parted es es') : Parted (.text whole :: es) (.text front :: .text back :: es')

theorem Event.Parted.refl : ∀ es : List Event, Parted es es
  | [] => .nil
  | e :: es => .cons e (refl es)

open Event (Parted)

namespace Cursor

/-- The same place in two documents, behind which texts may be in two parts in the second. -/
structure PartedAt (c c' : Cursor) : Prop where
  opened : c'.opened = c.opened
  fault : c'.fault = c.fault
  rooted : c'.rooted = c.rooted
  rest : Parted c.rest c'.rest

theorem partedAt_set (c : Cursor) {es es' : List Event} (h : Parted es es') :
    ({ c with rest := es } : Cursor).PartedAt { c with rest := es' } := ⟨rfl, rfl, rfl, h⟩

theorem PartedAt.depth {c c' : Cursor} (h : c.PartedAt c') : c'.depth = c.depth := congrArg List.length h.opened

theorem PartedAt.path {c c' : Cursor} (h : c.PartedAt c') : c'.path = c.path := congrArg (·.headD []) h.opened

/-- Which events are left makes no difference to what is open. -/
theorem depth_rest (c : Cursor) (r : List Event) : ({ c with rest := r } : Cursor).depth = c.depth := rfl

theorem path_rest (c : Cursor) (r : List Event) : ({ c with rest := r } : Cursor).path = c.path := rfl

theorem gather_parted (depth : Nat) {es es' : List Event} (h : Parted es es') : ∀ (read : List Char) (c : Cursor)
    (r : List Event), (gather depth read es' { c with rest := r }).1 = (gather depth read es c).1 ∧
      (gather depth read es c).2.PartedAt (gather depth read es' { c with rest := r }).2 := by
  induction h with
  | nil => exact fun read c r => ⟨rfl, partedAt_set c .nil⟩
  | @cons e es es' h ih =>
    intro read c r
    cases e with
    | text t =>
      rw [gather, gather, depth_rest c r]
      by_cases hd : c.depth = depth
      · rw [if_pos hd, if_pos hd]
        cases textOf t with
        | error e => exact ⟨rfl, partedAt_set c h⟩
        | ok cs => exact ih (read ++ cs) c r
      · rw [if_neg hd, if_neg hd]
        exact ih read c r
    | cdata t =>
      rw [gather, gather, depth_rest c r]
      by_cases hd : c.depth = depth
      · rw [if_pos hd, if_pos hd]
        exact ih _ c r
      · rw [if_neg hd, if_neg hd]
        exact ih read c r
    | start name uri =>
      rw [gather, gather, enter_eq, enter_eq, path_rest c r]
      cases enteredPath c.path none name with
      | error e => exact ⟨rfl, partedAt_set c h⟩
      | ok p => exact ih read (c.entered p) r
    | finish =>
      have hleave : ({ c with rest := r } : Cursor).leave.depth = c.leave.depth := rfl
      rw [gather, gather]
      simp only [hleave]
      by_cases hd : c.leave.depth < depth
      · rw [if_pos hd, if_pos hd]
        exact ⟨rfl, partedAt_set c.leave h⟩
      · rw [if_neg hd, if_neg hd]
        exact ih read c.leave r
  | parts hfront hback hwhole h ih =>
    intro read c r
    have hdepth := depth_rest c r
    by_cases hd : c.depth = depth
    · simp only [gather, hdepth, if_pos hd, hfront, hback, hwhole, List.append_assoc]
      exact ih _ c r
    · simp only [gather, hdepth, if_neg hd]
      exact ih read c r

/-- **Reading a text** that may be in parts. -/
theorem readText_parted {c c' : Cursor} (h : c.PartedAt c') :
    c'.readText.1 = c.readText.1 ∧ c.readText.2.PartedAt c'.readText.2 := by
  obtain ⟨rest, fault, opened, rooted⟩ := c
  obtain ⟨rest', fault', opened', rooted'⟩ := c'
  obtain ⟨rfl, rfl, rfl, hrest⟩ := h
  exact gather_parted _ hrest [] ⟨rest, fault', opened', rooted'⟩ rest'

end Cursor

namespace Scope

open Cursor (PartedAt partedAt_set)

theorem seek_parted (s : Scope) {es es' : List Event} (h : Parted es es') : ∀ (c : Cursor) (r : List Event),
    (s.seek es' { c with rest := r }).outcome = (s.seek es c).outcome ∧
      (s.seek es' { c with rest := r }).scope = (s.seek es c).scope ∧
      (s.seek es c).cursor.PartedAt (s.seek es' { c with rest := r }).cursor := by
  induction h with
  | nil =>
    intro c r
    obtain ⟨rest, _ | e, opened, rooted⟩ := c
    · exact ⟨rfl, rfl, partedAt_set ⟨rest, none, opened, rooted⟩ .nil⟩
    · exact ⟨rfl, rfl, partedAt_set ⟨rest, some e, opened, rooted⟩ .nil⟩
  | @cons e es es' h ih =>
    intro c r
    cases e with
    | text t => exact ih c r
    | cdata t => exact ih c r
    | start name uri =>
      rw [seek, seek, Cursor.enter_eq, Cursor.enter_eq, Cursor.path_rest c r]
      cases Cursor.enteredPath c.path (uri.bind Vocabulary.prefixOf?) name with
      | error e => exact ⟨rfl, rfl, partedAt_set c h⟩
      | ok p => exact ⟨rfl, rfl, partedAt_set (c.entered p) h⟩
    | finish =>
      rw [seek, seek, Cursor.depth_rest c r]
      by_cases hd : c.depth = s.depth
      · rw [if_pos hd, if_pos hd]
        exact ⟨rfl, rfl, partedAt_set c.leave h⟩
      · rw [if_neg hd, if_neg hd]
        exact ih c.leave r
  | parts _ _ _ _ ih => exact ih

/-- **The next element**, whatever parts the texts before it are in. -/
theorem next_parted (s : Scope) {c c' : Cursor} (h : c.PartedAt c') :
    ∃ outcome s' d d', s.next c = ⟨outcome, s', d⟩ ∧ s.next c' = ⟨outcome, s', d'⟩ ∧ d.PartedAt d' := by
  by_cases hf : s.finished = true
  · rw [next, next, if_pos hf, if_pos hf]
    exact ⟨_, _, _, _, rfl, rfl, h⟩
  · rw [next, next, if_neg hf, if_neg hf]
    obtain ⟨rest, fault, opened, rooted⟩ := c
    obtain ⟨rest', fault', opened', rooted'⟩ := c'
    obtain ⟨rfl, rfl, rfl, hrest⟩ := h
    obtain ⟨houtcome, hscope, hcursor⟩ := s.seek_parted hrest ⟨rest, fault', opened', rooted'⟩ rest'
    exact ⟨_, _, _, _, rfl, by rw [← houtcome, ← hscope], hcursor⟩

theorem skipFrom_parted (s : Scope) {es es' : List Event} (h : Parted es es') : ∀ (c : Cursor) (r : List Event),
    (s.skipFrom es' { c with rest := r }).passed = (s.skipFrom es c).passed ∧
      (s.skipFrom es' { c with rest := r }).outcome = (s.skipFrom es c).outcome ∧
      (s.skipFrom es c).cursor.PartedAt (s.skipFrom es' { c with rest := r }).cursor := by
  induction h with
  | nil =>
    intro c r
    obtain ⟨rest, _ | e, opened, rooted⟩ := c
    · exact ⟨rfl, rfl, partedAt_set ⟨rest, none, opened, rooted⟩ .nil⟩
    · exact ⟨rfl, rfl, partedAt_set ⟨rest, some e, opened, rooted⟩ .nil⟩
  | @cons e es es' h ih =>
    intro c r
    cases e with
    | text t => exact ih c r
    | cdata t => exact ih c r
    | start name uri =>
      rw [skipFrom, skipFrom, Cursor.enter_eq, Cursor.enter_eq, Cursor.path_rest c r]
      cases Cursor.enteredPath c.path (uri.bind Vocabulary.prefixOf?) name with
      | error e => exact ⟨rfl, rfl, partedAt_set c h⟩
      | ok p =>
        have hinside : ({ c with opened := p :: c.opened, rooted := true } : Cursor).path = p := rfl
        have hinside' : ({ c with rest := r, opened := p :: c.opened, rooted := true } : Cursor).path = p := rfl
        simp only [Except.map, hinside, hinside']
        cases s.relative p with
        | error e => exact ⟨rfl, rfl, partedAt_set (c.entered p) h⟩
        | ok rel =>
          obtain ⟨hpassed, houtcome, hcursor⟩ := ih (c.entered p) r
          exact ⟨congrArg (p :: ·) hpassed, houtcome, hcursor⟩
    | finish =>
      rw [skipFrom, skipFrom, Cursor.depth_rest c r]
      by_cases hd : c.depth = s.depth
      · rw [if_pos hd, if_pos hd]
        exact ⟨rfl, rfl, partedAt_set c.leave h⟩
      · rw [if_neg hd, if_neg hd]
        exact ih c.leave r
  | parts _ _ _ _ ih => exact ih

/-- **The way to the end of a scope**, whatever parts the texts on it are in. -/
theorem skip_parted (s : Scope) {c c' : Cursor} (h : c.PartedAt c') :
    ∃ passed outcome d d', s.skip c = ⟨passed, outcome, d⟩ ∧ s.skip c' = ⟨passed, outcome, d'⟩ ∧ d.PartedAt d' := by
  by_cases hf : s.finished = true
  · rw [skip, skip, if_pos hf, if_pos hf]
    exact ⟨_, _, _, _, rfl, rfl, h⟩
  · rw [skip, skip, if_neg hf, if_neg hf]
    obtain ⟨rest, fault, opened, rooted⟩ := c
    obtain ⟨rest', fault', opened', rooted'⟩ := c'
    obtain ⟨rfl, rfl, rfl, hrest⟩ := h
    obtain ⟨hpassed, houtcome, hcursor⟩ := s.skipFrom_parted hrest ⟨rest, fault', opened', rooted'⟩ rest'
    exact ⟨_, _, _, _, rfl, by rw [← hpassed, ← houtcome], hcursor⟩

end Scope

namespace Walk

open Cursor (PartedAt)

variable {φ ε α β σ : Type} {lift : Error → ε}

namespace Outcome

/-- The same outcome, but that texts behind it may be in parts. -/
structure Parted (o o' : Outcome φ ε α) : Prop where
  result : o'.result = o.result
  trace : o'.trace = o.trace
  scope : o'.scope = o.scope
  cursor : o.cursor.PartedAt o'.cursor

theorem parted_same (result : Except ε α) (trace : List (Mark φ)) (s : Scope) {c c' : Cursor} (h : c.PartedAt c') :
    Parted ⟨result, trace, s, c⟩ ⟨result, trace, s, c'⟩ := ⟨rfl, rfl, rfl, h⟩

theorem Parted.after {o o' : Outcome φ ε α} (h : Parted o o') (ms : List (Mark φ)) :
    Parted (o.after ms) (o'.after ms) := ⟨h.result, congrArg (ms ++ ·) h.trace, h.scope, h.cursor⟩

/-- **Outcomes one after the other.** -/
theorem Parted.andThen {o o' : Outcome φ ε α} {k k' : α → Scope → Cursor → Outcome φ ε β} (h : Parted o o')
    (hk : ∀ a, o.result = .ok a → o'.result = .ok a → o.cursor.PartedAt o'.cursor →
      Parted (k a o.scope o.cursor) (k' a o.scope o'.cursor)) : Parted (o.andThen k) (o'.andThen k') := by
  obtain ⟨result, trace, s, c⟩ := o
  obtain ⟨result', trace', s', c'⟩ := o'
  obtain ⟨hresult, htrace, hscope, hc⟩ := h
  obtain rfl : result' = result := hresult
  obtain rfl : trace' = trace := htrace
  obtain rfl : s' = s := hscope
  cases result' with
  | error e => exact parted_same _ _ _ hc
  | ok a => exact (hk a rfl rfl hc).after trace'

end Outcome

open Outcome (Parted parted_same)

theorem advance_parted {k k' : Option Path → Scope → Cursor → Outcome φ ε α} {c c' : Cursor}
    (hk : ∀ p s d d', d.PartedAt d' → (p ≠ none → d.rest.length < c.rest.length ∧ d'.rest.length < c'.rest.length) →
      Parted (k p s d) (k' p s d')) (s : Scope) (h : c.PartedAt c') :
    Parted (advance lift k s c) (advance lift k' s c') := by
  obtain ⟨outcome, s', d, d', hn, hn', hd⟩ := s.next_parted h
  rw [advance, advance, hn, hn']
  rcases outcome with e | (_ | path)
  · exact parted_same _ _ _ hd
  · exact hk none s' d d' hd fun hne => absurd rfl hne
  · dsimp only
    cases s'.relative path with
    | error e => exact parted_same _ _ _ hd
    | ok p =>
      have hlt := (Scope.next_advances hn).2.2 (by simp)
      have hlt' := (Scope.next_advances hn').2.2 (by simp)
      exact (hk (some p) s' d d' hd fun _ => ⟨hlt, hlt'⟩).after _

/-- Both loops have fuel enough to come to the end of what is left. -/
theorem visits_parted {visit : σ → Path → Walk φ ε σ}
    (hv : ∀ a p s c c', c.PartedAt c' → Parted (run lift (visit a p) s c) (run lift (visit a p) s c')) :
    ∀ (fuel fuel' : Nat) (a : σ) (s : Scope) (c c' : Cursor), c.PartedAt c' → c.rest.length < fuel →
      c'.rest.length < fuel' → Parted (visits lift visit fuel a s c) (visits lift visit fuel' a s c')
  | 0, _, _, _, _, _, _, hf, _ => absurd hf (Nat.not_lt_zero _)
  | _ + 1, 0, _, _, _, _, _, _, hf' => absurd hf' (Nat.not_lt_zero _)
  | fuel + 1, fuel' + 1, a, s, c, c', h, hf, hf' => by
    rw [visits, visits, loop, loop]
    refine advance_parted (fun p s d d' hd hlt => ?_) s h
    cases p with
    | none => exact parted_same _ _ s hd
    | some p =>
      obtain ⟨hlt, hlt'⟩ := hlt (by simp)
      refine (hv a p s d d' hd).andThen fun b hb hb' hparted => ?_
      have hle := (run_advances lift (visit a p) s d b hb).leads.length_le
      have hle' := (run_advances lift (visit a p) s d' b hb').leads.length_le
      exact visits_parted hv fuel fuel' b _ _ _ hparted (by omega) (by omega)

theorem within_parted {w : Walk φ ε β} {k : β → Walk φ ε α}
    (hw : ∀ s c c', c.PartedAt c' → Parted (run lift w s c) (run lift w s c'))
    (hk : ∀ b s c c', c.PartedAt c' → Parted (run lift (k b) s c) (run lift (k b) s c')) (s : Scope) {c c' : Cursor}
    (h : c.PartedAt c') : Parted (run lift (.within w k) s c) (run lift (.within w k) s c') := by
  have hin := hw (.within c) c c' h
  have hscope : Scope.within c' = Scope.within c := by rw [Scope.within, Scope.within, h.depth, h.path]
  rw [run, run, hscope]
  generalize run lift w (.within c) c = o, run lift w (.within c) c' = o' at hin ⊢
  obtain ⟨result, trace, si, ci⟩ := o
  obtain ⟨result', trace', si', ci'⟩ := o'
  obtain ⟨hresult, htrace, hinside, hci⟩ := hin
  obtain rfl : result' = result := hresult
  obtain rfl : trace' = trace := htrace
  obtain rfl : si' = si := hinside
  cases result' with
  | error e => exact parted_same _ _ _ hci
  | ok b =>
    obtain ⟨passed, outcome, d, d', hs, hs', hd⟩ := si'.skip_parted hci
    dsimp only
    rw [hs, hs']
    cases outcome with
    | error e => exact parted_same _ _ _ hd
    | ok u => exact (hk b s d d' hd).after _

/-- **A walk over texts in parts goes as over the texts.** -/
theorem run_parted (lift : Error → ε) (w : Walk φ ε α) (s : Scope) (c c' : Cursor) (h : c.PartedAt c') :
    Parted (run lift w s c) (run lift w s c') := by
  induction w generalizing s c c' with
  | done a => exact parted_same _ _ s h
  | fail e => exact parted_same _ _ s h
  | note finding w ih => exact (ih s c c' h).after _
  | next k ih => exact advance_parted (fun p s d d' hd _ => ih p s d d' hd) s h
  | each visit a k ihVisit ihRest =>
    rw [run, run]
    exact (visits_parted (fun a p s c c' hc => ihVisit a p s c c' hc) _ _ a s c c' h (Nat.lt_succ_self _)
      (Nat.lt_succ_self _)).andThen fun b _ _ hparted => ihRest b _ _ _ hparted
  | text k ih =>
    obtain ⟨hresult, hcursor⟩ := Cursor.readText_parted h
    rw [run, run]
    generalize c.readText = m, c'.readText = m' at hresult hcursor ⊢
    obtain ⟨result, d⟩ := m
    obtain ⟨result', d'⟩ := m'
    obtain rfl : result' = result := hresult
    cases result' with
    | error e => exact parted_same _ _ s hcursor
    | ok t => exact ih t s d d' hcursor
  | within w k ihInner ihRest => exact within_parted ihInner ihRest s h

end Walk

end ScanDiscovery.Xml
