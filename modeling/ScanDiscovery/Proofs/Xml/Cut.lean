import ScanDiscovery.Proofs.Xml.Beginning
import ScanDiscovery.Proofs.Xml.Progress
/-!
# Proofs.Xml.Cut — a walk over the beginning of a document, beside the walk over the document

Every move of a cursor is told by the next event, so the two walks go alike up to the cut (`CutAt`).  What is left
there is a scrap of text at most: the beginning does not close its root, so the next move finds the end of the input
and fails, in whatever element it is.  A walk over the beginning therefore fails for a fault of the document, with the
first of the findings that the whole gives, or it came to its own end before the cut (`run_cut`).  Specification only.
-/
namespace ScanDiscovery.Xml

namespace Cursor

/-- The same place in a document and in its beginning.  What the beginning has left is what the document has left up to
the cut, and then a scrap; it does not close the root. -/
structure CutAt (c c' : Cursor) : Prop where
  opened : c'.opened = c.opened
  rooted : c'.rooted = c.rooted
  rest : ∃ head last tail, c.rest = head ++ tail ∧ c'.rest = head ++ last ∧ Scrap Event.text last
  unclosed : ¬ c'.Closes

theorem CutAt.depth {c c' : Cursor} (h : c.CutAt c') : c'.depth = c.depth := congrArg List.length h.opened

theorem CutAt.path {c c' : Cursor} (h : c.CutAt c') : c'.path = c.path := congrArg (·.headD []) h.opened

/-- A move in a document and in its beginning: the latter fails, or both come to the same and to the same place. -/
def Alike {α : Type} (whole beginning : Except Error α × Cursor) : Prop :=
  (∃ e, beginning.1 = .error e) ∨
    ∃ a, whole.1 = .ok a ∧ beginning.1 = .ok a ∧ whole.2.CutAt beginning.2

/-- From here on, with these events and this fault at their end, the root is not closed. -/
def Unclosed (f : Option Error) (es : List Event) (c : Cursor) : Prop :=
  ¬ ({ c with rest := es, fault := f } : Cursor).Closes

section

variable {last tail r : List Event} {f : Option Error}

theorem depth_set (c : Cursor) (r : List Event) (f : Option Error) :
    ({ c with rest := r, fault := f } : Cursor).depth = c.depth := rfl

theorem path_set (c : Cursor) (r : List Event) (f : Option Error) :
    ({ c with rest := r, fault := f } : Cursor).path = c.path := rfl

namespace Unclosed

variable {c : Cursor} {es : List Event}

theorem text {t : Bytes} (h : Unclosed f (.text t :: es) c) : Unclosed f es c := fun hc =>
  h (hc.of_leads (Leads.text { c with fault := f } t es))

theorem cdata {t : Bytes} (h : Unclosed f (.cdata t :: es) c) : Unclosed f es c := fun hc =>
  h (hc.of_leads (Leads.cdata { c with fault := f } t es))

theorem enter {name : Name} {uri : Option Bytes} (h : Unclosed f (.start name uri :: es) c) (p : Path) :
    Unclosed f es (c.entered p) := fun hc =>
  h (hc.of_leads (Leads.enter { c with fault := f } p name uri es))

theorem leave (h : Unclosed f (.finish :: es) c) : Unclosed f es c.leave := fun hc =>
  h (hc.of_leads (Leads.leave { c with fault := f } es))

theorem cutAt {head : List Event} (h : Unclosed f (head ++ last) c) (hl : Scrap Event.text last) :
    ({ c with rest := head ++ tail } : Cursor).CutAt { c with rest := head ++ last, fault := f } :=
  ⟨rfl, rfl, ⟨head, last, tail, rfl, rfl, hl⟩, h⟩

end Unclosed

theorem gather_scrap (hl : Scrap Event.text last) (depth : Nat) (read : List Char) (c : Cursor) :
    ∃ e, (gather depth read last c).1 = .error e := by
  rcases hl with rfl | ⟨t, rfl⟩
  · exact ⟨_, rfl⟩
  · rw [gather]
    split
    · cases textOf t with
      | error e => exact ⟨e, rfl⟩
      | ok cs => exact ⟨_, rfl⟩
    · exact ⟨_, rfl⟩

theorem gather_cut (hl : Scrap Event.text last) (depth : Nat) : ∀ (head : List Event) (read : List Char) (c : Cursor),
    Unclosed f (head ++ last) c →
      Alike (gather depth read (head ++ tail) c) (gather depth read (head ++ last) { c with rest := r, fault := f })
  | [], read, c, _ => .inl (gather_scrap hl depth read _)
  | .text t :: head, read, c, hc => by
    have ih := fun read => gather_cut hl depth head read c hc.text
    rw [List.cons_append, List.cons_append, gather, gather, depth_set c r f]
    by_cases hd : c.depth = depth
    · rw [if_pos hd, if_pos hd]
      cases textOf t with
      | error e => exact .inl ⟨e, rfl⟩
      | ok cs => exact ih (read ++ cs)
    · rw [if_neg hd, if_neg hd]
      exact ih read
  | .cdata t :: head, read, c, hc => by
    have ih := fun read => gather_cut hl depth head read c hc.cdata
    rw [List.cons_append, List.cons_append, gather, gather, depth_set c r f]
    by_cases hd : c.depth = depth
    · rw [if_pos hd, if_pos hd]
      exact ih _
    · rw [if_neg hd, if_neg hd]
      exact ih read
  | .start name uri :: head, read, c, hc => by
    rw [List.cons_append, List.cons_append, gather, gather, enter_eq, enter_eq, path_set c r f]
    cases enteredPath c.path none name with
    | error e => exact .inl ⟨e, rfl⟩
    | ok p => exact gather_cut hl depth head read (c.entered p) (hc.enter p)
  | .finish :: head, read, c, hc => by
    rw [List.cons_append, List.cons_append, gather, gather]
    by_cases hd : c.leave.depth < depth
    · rw [if_pos hd, if_pos (show ({ c with rest := r, fault := f } : Cursor).leave.depth < depth from hd)]
      exact .inr ⟨_, rfl, rfl, hc.leave.cutAt hl⟩
    · rw [if_neg hd, if_neg (show ¬ ({ c with rest := r, fault := f } : Cursor).leave.depth < depth from hd)]
      exact gather_cut hl depth head read c.leave hc.leave

end

/-- **Reading a text** on both sides of the cut. -/
theorem readText_cut {c c' : Cursor} (h : c.CutAt c') : Alike c.readText c'.readText := by
  obtain ⟨rest, fault, opened, rooted⟩ := c
  obtain ⟨rest', fault', opened', rooted'⟩ := c'
  obtain ⟨rfl, rfl, ⟨head, last, tail, rfl, rfl, hl⟩, hc⟩ := h
  exact gather_cut hl _ head [] ⟨head ++ tail, fault, opened', rooted'⟩ hc

end Cursor

namespace Scope

open Cursor (CutAt Unclosed)

variable {last tail r : List Event} {f : Option Error}

/-- A scope is not at its end where the input ends, unless the root is closed. -/
theorem seek_scrap (hl : Scrap Event.text last) (s : Scope) (c : Cursor)
    (hc : Unclosed c.fault last c) : ∃ e, (s.seek last c).outcome = .error e := by
  have hend : ∃ e, (s.seek [] c).outcome = .error e := by
    rw [seek]
    cases hf : c.fault with
    | some e => exact ⟨e, rfl⟩
    | none =>
      cases ha : s.atEnd c with
      | error e => exact ⟨e, rfl⟩
      | ok u =>
        obtain ⟨-, hd, hr⟩ := atEnd_ok_iff.1 ha
        refine absurd ⟨?_, hf⟩ hc
        rw [Cursor.outlook, Event.foldl_tally_scrap hl]
        exact Prod.ext hd hr
  rcases hl with rfl | ⟨t, rfl⟩
  · exact hend
  · exact hend

/-- A move of a scope in a document and in its beginning: the latter fails, or both come to the same. -/
def Moved.Alike {α : Type} (whole beginning : Moved α) : Prop :=
  (∃ e, beginning.outcome = .error e) ∨
    ∃ a s c c', whole = ⟨.ok a, s, c⟩ ∧ beginning = ⟨.ok a, s, c'⟩ ∧ c.CutAt c'

theorem seek_cut (hl : Scrap Event.text last) (s : Scope) : ∀ (head : List Event) (c : Cursor),
    Unclosed f (head ++ last) c →
      (s.seek (head ++ tail) c).Alike (s.seek (head ++ last) { c with rest := r, fault := f })
  | [], c, hc => .inl (seek_scrap hl s _ hc)
  | .text t :: head, c, hc => seek_cut hl s head c hc.text
  | .cdata t :: head, c, hc => seek_cut hl s head c hc.cdata
  | .start name uri :: head, c, hc => by
    rw [List.cons_append, List.cons_append, seek, seek, Cursor.enter_eq, Cursor.enter_eq,
      Cursor.path_set c r f]
    cases Cursor.enteredPath c.path (uri.bind Vocabulary.prefixOf?) name with
    | error e => exact .inl ⟨e, rfl⟩
    | ok p => exact .inr ⟨_, s, _, _, rfl, rfl, (hc.enter p).cutAt hl⟩
  | .finish :: head, c, hc => by
    rw [List.cons_append, List.cons_append, seek, seek, Cursor.depth_set c r f]
    by_cases hd : c.depth = s.depth
    · rw [if_pos hd, if_pos hd]
      exact .inr ⟨_, _, _, _, rfl, rfl, hc.leave.cutAt hl⟩
    · rw [if_neg hd, if_neg hd]
      exact seek_cut hl s head c.leave hc.leave

/-- **The next element** on both sides of the cut. -/
theorem next_cut (s : Scope) {c c' : Cursor} (h : c.CutAt c') : (s.next c).Alike (s.next c') := by
  by_cases hf : s.finished = true
  · rw [next, next, if_pos hf, if_pos hf]
    exact .inr ⟨none, s, c, c', rfl, rfl, h⟩
  · rw [next, next, if_neg hf, if_neg hf]
    obtain ⟨rest, fault, opened, rooted⟩ := c
    obtain ⟨rest', fault', opened', rooted'⟩ := c'
    obtain ⟨rfl, rfl, ⟨head, last, tail, rfl, rfl, hl⟩, hc⟩ := h
    exact seek_cut hl s head ⟨head ++ tail, fault, opened', rooted'⟩ hc

/-- The way to the end of a scope in a document and in its beginning. -/
def Skipped.Alike (whole beginning : Skipped) : Prop :=
  Cursor.Alike (whole.outcome, whole.cursor) (beginning.outcome, beginning.cursor)

theorem skipFrom_scrap (hl : Scrap Event.text last) (s : Scope) (c : Cursor)
    (hc : Unclosed c.fault last c) : ∃ e, (s.skipFrom last c).outcome = .error e := by
  obtain ⟨e, he⟩ := seek_scrap hl s c hc
  have hend : (s.skipFrom [] c).outcome = (s.seek [] c).outcome.map fun _ => () := by
    rw [skipFrom, seek]
    cases c.fault with
    | some e => rfl
    | none => dsimp only; cases s.atEnd c <;> rfl
  refine ⟨e, ?_⟩
  rcases hl with rfl | ⟨t, rfl⟩
  · rw [hend, he]
    rfl
  · exact hend.trans (by rw [show s.seek [] c = s.seek [.text t] c from rfl, he]; rfl)

theorem skipFrom_cut (hl : Scrap Event.text last) (s : Scope) : ∀ (head : List Event) (c : Cursor),
    Unclosed f (head ++ last) c →
      (s.skipFrom (head ++ tail) c).Alike (s.skipFrom (head ++ last) { c with rest := r, fault := f })
  | [], c, hc => .inl (skipFrom_scrap hl s _ hc)
  | .text t :: head, c, hc => skipFrom_cut hl s head c hc.text
  | .cdata t :: head, c, hc => skipFrom_cut hl s head c hc.cdata
  | .start name uri :: head, c, hc => by
    rw [List.cons_append, List.cons_append, skipFrom, skipFrom, Cursor.enter_eq, Cursor.enter_eq,
      Cursor.path_set c r f]
    cases Cursor.enteredPath c.path (uri.bind Vocabulary.prefixOf?) name with
    | error e => exact .inl ⟨e, rfl⟩
    | ok p =>
      have ih := skipFrom_cut hl s head (c.entered p) (hc.enter p)
      simp only [Except.map]
      rw [show ({ c with rest := r, fault := f, opened := p :: c.opened, rooted := true } : Cursor).path = p from rfl,
        show ({ c with opened := p :: c.opened, rooted := true } : Cursor).path = p from rfl]
      cases s.relative p with
      | error e => exact .inl ⟨e, rfl⟩
      | ok rel => exact ih
  | .finish :: head, c, hc => by
    rw [List.cons_append, List.cons_append, skipFrom, skipFrom, Cursor.depth_set c r f]
    by_cases hd : c.depth = s.depth
    · rw [if_pos hd, if_pos hd]
      exact .inr ⟨(), rfl, rfl, hc.leave.cutAt hl⟩
    · rw [if_neg hd, if_neg hd]
      exact skipFrom_cut hl s head c.leave hc.leave

/-- **The way to the end of a scope** on both sides of the cut. -/
theorem skip_cut (s : Scope) {c c' : Cursor} (h : c.CutAt c') : (s.skip c).Alike (s.skip c') := by
  by_cases hf : s.finished = true
  · rw [skip, skip, if_pos hf, if_pos hf]
    exact .inr ⟨(), rfl, rfl, h⟩
  · rw [skip, skip, if_neg hf, if_neg hf]
    obtain ⟨rest, fault, opened, rooted⟩ := c
    obtain ⟨rest', fault', opened', rooted'⟩ := c'
    obtain ⟨rfl, rfl, ⟨head, last, tail, rfl, rfl, hl⟩, hc⟩ := h
    exact skipFrom_cut hl s head ⟨head ++ tail, fault, opened', rooted'⟩ hc

end Scope

namespace Walk

open Cursor (CutAt)

variable {φ ε α β σ : Type} {lift : Error → ε}

/-- How a walk goes in a document and in its beginning: over the beginning it fails for a fault of the document, with
the first of the findings, or both come to the same and to the same place. -/
def Outcome.CutShort (lift : Error → ε) (whole beginning : Outcome φ ε α) : Prop :=
  (∃ e, beginning.result = .error (lift e) ∧ Mark.findings beginning.trace <+: Mark.findings whole.trace) ∨
    (beginning.result = whole.result ∧ Mark.findings beginning.trace = Mark.findings whole.trace ∧
      ∀ a, whole.result = .ok a → beginning.scope = whole.scope ∧ whole.cursor.CutAt beginning.cursor)

namespace Outcome

theorem CutShort.of_error {whole beginning : Outcome φ ε α} {e : Error} (h : beginning.result = .error (lift e))
    (hf : Mark.findings beginning.trace = []) : CutShort lift whole beginning :=
  .inl ⟨e, h, by rw [hf]; exact List.nil_prefix⟩

theorem cutShort_same (result : Except ε α) (s : Scope) {c c' : Cursor} (h : c.CutAt c') :
    CutShort (φ := φ) lift ⟨result, [], s, c⟩ ⟨result, [], s, c'⟩ :=
  .inr ⟨rfl, rfl, fun _ _ => ⟨rfl, h⟩⟩

theorem CutShort.after {o o' : Outcome φ ε α} (h : CutShort lift o o') {ms ms' : List (Mark φ)}
    (hm : Mark.findings ms' = Mark.findings ms) : CutShort lift (o.after ms) (o'.after ms') := by
  rcases h with ⟨e, he, hf⟩ | ⟨hr, hf, hp⟩
  · refine .inl ⟨e, he, ?_⟩
    rw [Outcome.after, Outcome.after, Mark.findings_append, Mark.findings_append, hm]
    exact (List.prefix_append_right_inj _).2 hf
  · refine .inr ⟨hr, ?_, hp⟩
    rw [Outcome.after, Outcome.after, Mark.findings_append, Mark.findings_append, hm, hf]

/-- **Outcomes one after the other.** -/
theorem CutShort.andThen {o o' : Outcome φ ε α} {k k' : α → Scope → Cursor → Outcome φ ε β} (h : CutShort lift o o')
    (hk : ∀ a, o.result = .ok a → o'.result = .ok a → o.cursor.CutAt o'.cursor →
      CutShort lift (k a o.scope o.cursor) (k' a o.scope o'.cursor)) : CutShort lift (o.andThen k) (o'.andThen k') := by
  obtain ⟨result, trace, s, c⟩ := o
  obtain ⟨result', trace', s', c'⟩ := o'
  rcases h with ⟨e, he, hf⟩ | ⟨hr, hf, hp⟩
  · obtain rfl : result' = .error (lift e) := he
    refine .inl ⟨e, rfl, hf.trans ?_⟩
    cases result with
    | error e' => exact List.prefix_refl _
    | ok a =>
      rw [andThen_ok, Outcome.after, Mark.findings_append]
      exact List.prefix_append _ _
  · obtain rfl : result' = result := hr
    cases result' with
    | error e => exact .inr ⟨rfl, hf, fun a ha => by cases ha⟩
    | ok a =>
      obtain ⟨rfl, hc⟩ := hp a rfl
      exact (hk a rfl rfl hc).after hf

end Outcome

open Outcome (CutShort cutShort_same)

theorem advance_error {k : Option Path → Scope → Cursor → Outcome φ ε α} {s : Scope} {c : Cursor} {e : Error}
    (h : (s.next c).outcome = .error e) :
    advance lift k s c = ⟨.error (lift e), [], (s.next c).scope, (s.next c).cursor⟩ := by
  unfold advance
  generalize s.next c = m at h ⊢
  obtain ⟨outcome, s', c'⟩ := m
  obtain rfl : outcome = .error e := h
  rfl

theorem run_text_error {k : List Char → Walk φ ε α} {s : Scope} {c : Cursor} {e : Error} (h : c.readText.1 = .error e) :
    run lift (.text k) s c = ⟨.error (lift e), [], s, c.readText.2⟩ := by
  rw [run]
  generalize c.readText = m at h ⊢
  obtain ⟨outcome, c'⟩ := m
  obtain rfl : outcome = .error e := h
  rfl

theorem run_text_ok {k : List Char → Walk φ ε α} {s : Scope} {c : Cursor} {t : List Char} (h : c.readText.1 = .ok t) :
    run lift (.text k) s c = run lift (k t) s c.readText.2 := by
  rw [run]
  generalize c.readText = m at h ⊢
  obtain ⟨outcome, c'⟩ := m
  obtain rfl : outcome = .ok t := h
  rfl

theorem advance_cut {k k' : Option Path → Scope → Cursor → Outcome φ ε α} {c c' : Cursor}
    (hk : ∀ p s d d', d.CutAt d' → (p ≠ none → d.rest.length < c.rest.length ∧ d'.rest.length < c'.rest.length) →
      CutShort lift (k p s d) (k' p s d')) (s : Scope) (h : c.CutAt c') :
    CutShort lift (advance lift k s c) (advance lift k' s c') := by
  rcases s.next_cut h with ⟨e, he⟩ | ⟨x, s', d, d', hn, hn', hd⟩
  · rw [advance_error he]
    exact .of_error rfl rfl
  · rw [advance, advance, hn, hn']
    cases x with
    | none => exact hk none s' d d' hd fun hne => absurd rfl hne
    | some path =>
      dsimp only
      cases s'.relative path with
      | error e => exact .inl ⟨e, rfl, List.prefix_refl _⟩
      | ok p =>
        have hlt := (Scope.next_advances hn).2.2 (by simp)
        have hlt' := (Scope.next_advances hn').2.2 (by simp)
        exact (hk (some p) s' d d' hd fun _ => ⟨hlt, hlt'⟩).after rfl

/-- Both loops have fuel enough to come to the end of what is left. -/
theorem visits_cut {visit : σ → Path → Walk φ ε σ}
    (hv : ∀ a p s c c', c.CutAt c' → CutShort lift (run lift (visit a p) s c) (run lift (visit a p) s c')) :
    ∀ (fuel fuel' : Nat) (a : σ) (s : Scope) (c c' : Cursor), c.CutAt c' → c.rest.length < fuel →
      c'.rest.length < fuel' → CutShort lift (visits lift visit fuel a s c) (visits lift visit fuel' a s c')
  | 0, _, _, _, _, _, _, hf, _ => absurd hf (Nat.not_lt_zero _)
  | _ + 1, 0, _, _, _, _, _, _, hf' => absurd hf' (Nat.not_lt_zero _)
  | fuel + 1, fuel' + 1, a, s, c, c', h, hf, hf' => by
    rw [visits, visits, loop, loop]
    refine advance_cut (fun p s d d' hd hlt => ?_) s h
    cases p with
    | none => exact cutShort_same _ s hd
    | some p =>
      obtain ⟨hlt, hlt'⟩ := hlt (by simp)
      refine (hv a p s d d' hd).andThen fun b hb hb' hcut => ?_
      have hle := (run_advances lift (visit a p) s d b hb).leads.length_le
      have hle' := (run_advances lift (visit a p) s d' b hb').leads.length_le
      exact visits_cut hv fuel fuel' b _ _ _ hcut (by omega) (by omega)

theorem findings_within (lift : Error → ε) (w : Walk φ ε β) (k : β → Walk φ ε α) (s : Scope) (c : Cursor) :
    Mark.findings (run lift w (.within c) c).trace <+: Mark.findings (run lift (.within w k) s c).trace := by
  rw [run]
  dsimp only
  generalize run lift w (.within c) c = o
  cases o.result with
  | error e => exact List.prefix_refl _
  | ok b =>
    dsimp only
    cases (o.scope.skip o.cursor).outcome with
    | error e =>
      rw [Mark.findings_append]
      exact List.prefix_append _ _
    | ok u =>
      dsimp only
      rw [Outcome.after, List.append_assoc, Mark.findings_append]
      exact List.prefix_append _ _

/-- **A walk inside an element**, which may be cut off inside, on the way to the end of the element, or behind it. -/
theorem within_cut {w : Walk φ ε β} {k : β → Walk φ ε α}
    (hw : ∀ s c c', c.CutAt c' → CutShort lift (run lift w s c) (run lift w s c'))
    (hk : ∀ b s c c', c.CutAt c' → CutShort lift (run lift (k b) s c) (run lift (k b) s c')) (s : Scope) {c c' : Cursor}
    (h : c.CutAt c') : CutShort lift (run lift (.within w k) s c) (run lift (.within w k) s c') := by
  have hin := hw (.within c) c c' h
  have hscope : Scope.within c' = Scope.within c := by
    rw [Scope.within, Scope.within, h.depth, h.path]
  have hfound := findings_within lift w k s c
  generalize hwhole : run lift (.within w k) s c = whole at hfound ⊢
  rw [run] at hwhole ⊢
  rw [hscope]
  generalize run lift w (.within c) c = o, run lift w (.within c) c' = o' at hin hfound hwhole ⊢
  obtain ⟨result, trace, si, ci⟩ := o
  obtain ⟨result', trace', si', ci'⟩ := o'
  rcases hin with ⟨e, he, hf⟩ | ⟨hr, hf, hp⟩
  · obtain rfl : result' = .error (lift e) := he
    exact .inl ⟨e, rfl, hf.trans hfound⟩
  · obtain rfl : result' = result := hr
    cases result' with
    | error e =>
      subst hwhole
      exact .inr ⟨rfl, hf, fun a ha => by cases ha⟩
    | ok b =>
      obtain ⟨rfl, hcut⟩ := hp b rfl
      dsimp only at hwhole ⊢
      rcases si'.skip_cut hcut with ⟨e, he⟩ | ⟨u, hu, hu', hd⟩
      · simp only at he
        rw [he]
        refine .inl ⟨e, rfl, ?_⟩
        simp only [Mark.findings_append, Mark.findings_visited, List.append_nil]
        rw [show Mark.findings trace' = Mark.findings trace from hf]
        exact hfound
      · simp only at hu hu'
        subst hwhole
        rw [hu, hu']
        refine (hk b s _ _ hd).after ?_
        simp only [Mark.findings_append, Mark.findings_visited, List.append_nil]
        exact hf

/-- **A walk over the beginning of a document fails for a fault of the document, or goes as over the whole.** -/
theorem run_cut (lift : Error → ε) (w : Walk φ ε α) (s : Scope) (c c' : Cursor) (h : c.CutAt c') :
    CutShort lift (run lift w s c) (run lift w s c') := by
  induction w generalizing s c c' with
  | done a => exact cutShort_same _ s h
  | fail e => exact cutShort_same _ s h
  | note finding w ih => exact (ih s c c' h).after rfl
  | next k ih => exact advance_cut (fun p s d d' hd _ => ih p s d d' hd) s h
  | each visit a k ihVisit ihRest =>
    rw [run, run]
    refine (visits_cut (fun a p s c c' hc => ihVisit a p s c c' hc) _ _ a s c c' h (Nat.lt_succ_self _)
      (Nat.lt_succ_self _)).andThen fun b _ _ hcut => ihRest b _ _ _ hcut
  | text k ih =>
    rcases Cursor.readText_cut h with ⟨e, he⟩ | ⟨t, ht, ht', hcut⟩
    · rw [run_text_error he]
      exact .of_error rfl rfl
    · rw [run_text_ok ht, run_text_ok ht']
      exact ih t s _ _ hcut
  | within w k ihInner ihRest => exact within_cut ihInner ihRest s h

/-! ## Documents -/

theorem cutAt_ofBytes {p : Bytes} (hp : ¬ ClosesRoot p) (s : Bytes) :
    (Cursor.ofBytes (p ++ s)).CutAt (Cursor.ofBytes p) where
  opened := rfl
  rooted := rfl
  rest := by
    show ∃ head last tail, (Event.ofBytes (p ++ s)).items = head ++ tail ∧ (Event.ofBytes p).items = head ++ last ∧ _
    have hs : Token.Behind True s := .inl trivial
    rcases Event.ofBytes_cut hs p with he | ⟨head, last, tail, h1, h2, h3, -⟩
    · rw [he]
      exact ⟨_, [], [], (List.append_nil _).symm, (List.append_nil _).symm, .inl rfl⟩
    · exact ⟨head, last, tail, h2, h1, h3⟩
  unclosed h := hp ⟨_, List.prefix_refl _, h.1⟩

theorem closesRoot_of_run {visit : σ → Path → Walk φ ε σ} {a : σ} {k : σ → Walk φ ε α} {b : α} {document : Bytes}
    (h : (runDocument lift (.each visit a k) document).result = .ok b) : ClosesRoot document := by
  obtain ⟨content, hc, he⟩ := closed_of_run lift h
  refine ⟨_, List.prefix_refl _, ?_⟩
  rw [hc, Content.foldl_tally, he]
  rfl

/-- **A visit of the beginning of a document** fails for a fault of the document, with the first of its findings, if the
visit of the whole does not fail. -/
theorem run_beginning {visit : σ → Path → Walk φ ε σ} {a : σ} {k : σ → Walk φ ε α} {b : α} {p s : Bytes}
    (hp : ¬ ClosesRoot p) (h : (runDocument lift (.each visit a k) (p ++ s)).result = .ok b) :
    ∃ e, (runDocument lift (.each visit a k) p).result = .error (lift e) ∧
      Mark.findings (runDocument lift (.each visit a k) p).trace <+:
        Mark.findings (runDocument lift (.each visit a k) (p ++ s)).trace := by
  rcases run_cut lift (.each visit a k) .document _ _ (cutAt_ofBytes hp s) with hshort | ⟨hr, -, -⟩
  · exact hshort
  · exact absurd (closesRoot_of_run (hr.trans h)) hp

end Walk

end ScanDiscovery.Xml
