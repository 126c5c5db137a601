import ScanDiscovery.Proofs.Xml.Reading
/-!
# Proofs.Xml.Progress — every move goes forward and forgets nothing

Whatever a walk does without failing, the events left are a suffix of those before, and what will be open when they
are used up stays the same (`Cursor.Leads`, `run_advances`).  So a walk that reaches the end of a document has read a
document of which every element is closed (`closed_of_run`).  Specification only.
-/
namespace ScanDiscovery.Xml

namespace Cursor

/-- How many elements will be open once the events left are passed, and whether there will have been one. -/
def outlook (c : Cursor) : Nat × Bool := c.rest.foldl Event.tally (c.depth, c.rooted)

/-- A later place in the same document. -/
structure Leads (c c' : Cursor) : Prop where
  suffix : c'.rest <:+ c.rest
  outlook : c'.outlook = c.outlook
  fault : c'.fault = c.fault
  nested : Event.Nested c.depth c.rest → Event.Nested c'.depth c'.rest

namespace Leads

theorem refl (c : Cursor) : Leads c c := ⟨List.suffix_refl _, rfl, rfl, id⟩

theorem trans {c d e : Cursor} (h : Leads c d) (h' : Leads d e) : Leads c e :=
  ⟨h'.suffix.trans h.suffix, h'.outlook.trans h.outlook, h'.fault.trans h.fault, fun hn => h'.nested (h.nested hn)⟩

theorem length_le {c d : Cursor} (h : Leads c d) : d.rest.length ≤ c.rest.length := h.suffix.length_le

theorem text (c : Cursor) (t : Bytes) (es : List Event) :
    Leads { c with rest := .text t :: es } { c with rest := es } :=
  ⟨List.suffix_cons _ _, rfl, rfl, id⟩

theorem cdata (c : Cursor) (t : Bytes) (es : List Event) :
    Leads { c with rest := .cdata t :: es } { c with rest := es } :=
  ⟨List.suffix_cons _ _, rfl, rfl, id⟩

theorem enter (c : Cursor) (p : Path) (name : Name) (uri : Option Bytes) (es : List Event) :
    Leads { c with rest := .start name uri :: es } { c.entered p with rest := es } :=
  ⟨List.suffix_cons _ _, rfl, rfl, id⟩

theorem leave (c : Cursor) (es : List Event) :
    Leads { c with rest := .finish :: es } { c.leave with rest := es } := by
  refine ⟨List.suffix_cons _ _, ?_, rfl, ?_⟩
  · simp only [Cursor.outlook, Cursor.leave, depth, List.length_tail, List.foldl_cons, Event.tally]
  · simp only [depth, Cursor.leave, List.length_tail]
    cases c.opened with
    | nil => exact fun h => h.elim
    | cons p ps => exact id

end Leads

theorem gather_leads (depth : Nat) : ∀ (es : List Event) (read : List Char) (c : Cursor) (t : List Char) (c' : Cursor),
    gather depth read es c = (.ok t, c') → Leads { c with rest := es } c'
  | [], read, c, t, c', h => by cases h
  | .text x :: es, read, c, t, c', h => by
    rw [gather] at h
    split at h
    · cases hx : textOf x with
      | error e => rw [hx] at h; cases h
      | ok cs =>
        rw [hx] at h
        exact (Leads.text c x es).trans (gather_leads depth es _ c t c' h)
    · exact (Leads.text c x es).trans (gather_leads depth es _ c t c' h)
  | .cdata x :: es, read, c, t, c', h => by
    rw [gather] at h
    split at h <;> exact (Leads.cdata c x es).trans (gather_leads depth es _ c t c' h)
  | .start name uri :: es, read, c, t, c', h => by
    rw [gather, enter_eq] at h
    cases hp : enteredPath c.path none name with
    | error e => rw [hp] at h; cases h
    | ok p =>
      rw [hp] at h
      exact (Leads.enter c p name uri es).trans (gather_leads depth es _ (c.entered p) t c' h)
  | .finish :: es, read, c, t, c', h => by
    rw [gather] at h
    split at h
    · cases h
      exact Leads.leave c es
    · exact (Leads.leave c es).trans (gather_leads depth es _ c.leave t c' h)

theorem readText_leads {c c' : Cursor} {t : List Char} (h : c.readText = (.ok t, c')) : c.Leads c' :=
  gather_leads c.depth c.rest [] c t c' h

/-- The document ends with every element closed that it has. -/
def Closes (c : Cursor) : Prop := c.outlook = (0, true) ∧ c.fault = none

theorem Closes.of_leads {c c' : Cursor} (h : c.Leads c') (hc : c'.Closes) : c.Closes :=
  ⟨h.outlook ▸ hc.1, h.fault ▸ hc.2⟩

theorem Closes.leads {c c' : Cursor} (hc : c.Closes) (h : c.Leads c') : c'.Closes :=
  ⟨h.outlook.trans hc.1, h.fault.trans hc.2⟩

end Cursor

namespace Scope

open Cursor (Leads)

/-- A later place in the same scope.  The scope of a document is left only at the end of a document that closes. -/
structure Advances (s : Scope) (c : Cursor) (s' : Scope) (c' : Cursor) : Prop where
  leads : c.Leads c'
  depth : s'.depth = s.depth
  skipped : s'.skipped = s.skipped
  ended : s.depth = 0 → Event.Nested c.depth c.rest → (s.finished = true → c.Closes) → s'.finished = true → c'.Closes

namespace Advances

theorem refl (s : Scope) (c : Cursor) : Advances s c s c := ⟨Leads.refl c, rfl, rfl, fun _ _ h => h⟩

theorem trans {s s' s'' : Scope} {c c' c'' : Cursor} (h : Advances s c s' c') (h' : Advances s' c' s'' c'') :
    Advances s c s'' c'' where
  leads := h.leads.trans h'.leads
  depth := h'.depth.trans h.depth
  skipped := h'.skipped.trans h.skipped
  ended h0 hn hf := h'.ended (h.depth.trans h0) (h.leads.nested hn) (h.ended h0 hn hf)

theorem of_leads (s : Scope) {c c' : Cursor} (h : c.Leads c') : Advances s c s c' :=
  ⟨h, rfl, rfl, fun _ _ hf hs => (hf hs).leads h⟩

end Advances

/-- **A document may end where every element is closed**, and there was one. -/
theorem atEnd_ok_iff {s : Scope} {c : Cursor} :
    s.atEnd c = .ok () ↔ s.depth = 0 ∧ c.depth = 0 ∧ c.rooted = true := by
  unfold atEnd
  by_cases hd : (s.depth > 0 || c.depth > 0) = true
  · rw [if_pos hd]
    simp only [Bool.or_eq_true, decide_eq_true_eq] at hd
    constructor
    · intro h
      cases h
    · rintro ⟨hs, hc, -⟩
      omega
  · rw [if_neg hd]
    simp only [Bool.or_eq_true, decide_eq_true_eq] at hd
    cases hr : c.rooted with
    | false => simp
    | true =>
      have hs : s.depth = 0 := by omega
      have hc : c.depth = 0 := by omega
      simp [hs, hc]

theorem seek_advances (s : Scope) (hs : s.finished = false) : ∀ (es : List Event) (c : Cursor) (x : Option Path),
    (s.seek es c).outcome = .ok x →
      Advances s { c with rest := es } (s.seek es c).scope (s.seek es c).cursor ∧
        (x = none → (s.seek es c).scope.finished = true) ∧
        (x ≠ none → (s.seek es c).cursor.rest.length < es.length)
  | [], c, x, h => by
    rw [seek] at h ⊢
    cases hf : c.fault with
    | some e => rw [hf] at h; cases h
    | none =>
      rw [hf] at h
      simp only at h ⊢
      cases ha : s.atEnd c with
      | error e => rw [ha] at h; cases h
      | ok u =>
        rw [ha] at h
        cases h
        refine ⟨⟨⟨List.suffix_refl _, rfl, rfl, id⟩, rfl, rfl, fun h0 _ _ _ => ?_⟩, fun _ => trivial,
          fun hx => absurd rfl hx⟩
        obtain ⟨-, hd, hr⟩ := atEnd_ok_iff.1 ha
        exact ⟨Prod.ext hd hr, rfl⟩
  | .start name uri :: es, c, x, h => by
    rw [seek, Cursor.enter_eq] at h ⊢
    cases hp : Cursor.enteredPath c.path (uri.bind Vocabulary.prefixOf?) name with
    | error e => rw [hp] at h; cases h
    | ok p =>
      rw [hp] at h
      cases h
      refine ⟨Advances.of_leads s (Leads.enter c p name uri es), fun h => ?_, fun _ => Nat.lt_succ_self _⟩
      cases h
  | .finish :: es, c, x, h => by
    rw [seek] at h ⊢
    split at h
    · rename_i hd
      rw [if_pos hd]
      cases h
      refine ⟨⟨Leads.leave c es, rfl, rfl, fun h0 hn _ _ => ?_⟩, fun _ => rfl, fun hx => absurd rfl hx⟩
      rw [h0] at hd
      rw [show ({ c with rest := .finish :: es } : Cursor).depth = 0 from hd] at hn
      exact hn.elim
    · rename_i hd
      rw [if_neg hd]
      obtain ⟨h1, h2, h3⟩ := seek_advances s hs es c.leave x h
      exact ⟨(Advances.of_leads s (Leads.leave c es)).trans h1, h2, fun hx => Nat.lt_succ_of_lt (h3 hx)⟩
  | .text t :: es, c, x, h => by
    obtain ⟨h1, h2, h3⟩ := seek_advances s hs es c x h
    exact ⟨(Advances.of_leads s (Leads.text c t es)).trans h1, h2, fun hx => Nat.lt_succ_of_lt (h3 hx)⟩
  | .cdata t :: es, c, x, h => by
    obtain ⟨h1, h2, h3⟩ := seek_advances s hs es c x h
    exact ⟨(Advances.of_leads s (Leads.cdata c t es)).trans h1, h2, fun hx => Nat.lt_succ_of_lt (h3 hx)⟩

/-- **The next element is ahead**, and where there is none the scope is left. -/
theorem next_advances {s s' : Scope} {c c' : Cursor} {x : Option Path} (h : s.next c = ⟨.ok x, s', c'⟩) :
    Advances s c s' c' ∧ (x = none → s'.finished = true) ∧ (x ≠ none → c'.rest.length < c.rest.length) := by
  rw [next] at h
  split at h
  · rename_i hf
    cases h
    exact ⟨Advances.refl _ _, fun _ => hf, fun hx => absurd rfl hx⟩
  · rename_i hf
    have := seek_advances s (Bool.eq_false_iff.2 hf) c.rest c x (by rw [h])
    rw [h] at this
    exact this

theorem skipFrom_leads (s : Scope) : ∀ (es : List Event) (c : Cursor), (s.skipFrom es c).outcome = .ok () →
    Leads { c with rest := es } (s.skipFrom es c).cursor
  | [], c, h => by
    rw [skipFrom] at h ⊢
    cases hf : c.fault with
    | some e => rw [hf] at h; cases h
    | none => exact ⟨List.suffix_refl _, rfl, rfl, id⟩
  | .start name uri :: es, c, h => by
    rw [skipFrom, Cursor.enter_eq] at h ⊢
    cases hp : Cursor.enteredPath c.path (uri.bind Vocabulary.prefixOf?) name with
    | error e => rw [hp] at h; cases h
    | ok p =>
      rw [hp] at h
      simp only [Except.map] at h ⊢
      split at h
      · exact (Leads.enter c p name uri es).trans (skipFrom_leads s es (c.entered p) h)
      · cases h
  | .finish :: es, c, h => by
    rw [skipFrom] at h ⊢
    split at h
    · rename_i hd
      rw [if_pos hd]
      exact Leads.leave c es
    · rename_i hd
      rw [if_neg hd]
      exact (Leads.leave c es).trans (skipFrom_leads s es c.leave h)
  | .text t :: es, c, h => (Leads.text c t es).trans (skipFrom_leads s es c h)
  | .cdata t :: es, c, h => (Leads.cdata c t es).trans (skipFrom_leads s es c h)

theorem skip_leads {s : Scope} {c : Cursor} (h : (s.skip c).outcome = .ok ()) : c.Leads (s.skip c).cursor := by
  rw [skip] at h ⊢
  split at h
  · rename_i hf
    rw [if_pos hf]
    exact Leads.refl c
  · rename_i hf
    rw [if_neg hf]
    exact skipFrom_leads s c.rest c h

end Scope

namespace Walk

open Scope (Advances)

variable {φ ε α σ : Type} (lift : Error → ε)

/-- An outcome that is no failure is a later place in the same scope. -/
def Forward (o : Outcome φ ε α) (s : Scope) (c : Cursor) : Prop :=
  ∀ a, o.result = .ok a → Advances s c o.scope o.cursor

theorem Forward.after {o : Outcome φ ε α} {s : Scope} {c : Cursor} (h : Forward o s c) (ms : List (Mark φ)) :
    Forward (o.after ms) s c := h

theorem Forward.andThen {β : Type} {o : Outcome φ ε α} {k : α → Scope → Cursor → Outcome φ ε β} {s : Scope} {c : Cursor}
    (h : Forward o s c) (hk : ∀ a, Forward (k a o.scope o.cursor) o.scope o.cursor) : Forward (o.andThen k) s c := by
  obtain ⟨result, trace, s', c'⟩ := o
  cases result with
  | error e => exact fun a ha => by cases ha
  | ok a => exact fun b hb => (h a rfl).trans (hk a b hb)

theorem forward_advance {k : Option Path → Scope → Cursor → Outcome φ ε α}
    (hk : ∀ p s c, Forward (k p s c) s c) (s : Scope) (c : Cursor) : Forward (advance lift k s c) s c := by
  intro a ha
  rcases hn : s.next c with ⟨outcome, s', c'⟩
  simp only [advance, hn] at ha ⊢
  rcases outcome with e | (_ | path)
  · cases ha
  · exact (Scope.next_advances hn).1.trans (hk none s' c' a ha)
  · simp only at ha ⊢
    cases hr : s'.relative path with
    | error e => rw [hr] at ha; cases ha
    | ok p =>
      rw [hr] at ha
      exact (Scope.next_advances hn).1.trans (hk (some p) s' c' a ha)

theorem forward_loop {visit : σ → Path → Scope → Cursor → Outcome φ ε σ}
    (hv : ∀ a p s c, Forward (visit a p s c) s c) : ∀ (fuel : Nat) (a : σ) (s : Scope) (c : Cursor),
    Forward (loop lift visit fuel a s c) s c
  | 0, a, s, c => fun _ _ => Advances.refl s c
  | fuel + 1, a, s, c => by
    rw [loop]
    refine forward_advance lift (fun p s c => ?_) s c
    cases p with
    | none => exact fun _ _ => Advances.refl s c
    | some p => exact (hv a p s c).andThen fun b => forward_loop hv fuel b _ _

/-- **A walk that does not fail goes forward.** -/
theorem run_advances (w : Walk φ ε α) (s : Scope) (c : Cursor) : Forward (run lift w s c) s c := by
  induction w generalizing s c with
  | done a => exact fun _ _ => Advances.refl s c
  | fail e => exact fun _ _ => Advances.refl s c
  | note finding w ih => exact (ih s c).after _
  | next k ih => exact forward_advance lift (fun p s c => ih p s c) s c
  | each visit a k ihVisit ihRest =>
    rw [run]
    exact (forward_loop lift (fun a p s c => ihVisit a p s c) _ a s c).andThen fun b => ihRest b _ _
  | text k ih =>
    rw [run]
    intro a ha
    rcases hc : c.readText with ⟨result, c'⟩
    rw [hc] at ha
    cases result with
    | error e => cases ha
    | ok t => exact (Advances.of_leads s (Cursor.readText_leads hc)).trans (ih t s c' a ha)
  | within w k ihInner ihRest =>
    intro a ha
    rw [run] at ha ⊢
    have hin := ihInner (.within c) c
    generalize run lift w (.within c) c = o at ha hin ⊢
    obtain ⟨result, trace, si, ci⟩ := o
    cases result with
    | error e => cases ha
    | ok b =>
      simp only at ha ⊢
      cases hs : (si.skip ci).outcome with
      | error e => rw [hs] at ha; cases ha
      | ok u =>
        rw [hs] at ha
        exact (Advances.of_leads s ((hin b rfl).leads.trans (Scope.skip_leads hs))).trans (ihRest b s _ a ha)

/-- A loop with enough fuel ends where the scope does. -/
theorem loop_finished (visit : σ → Path → Walk φ ε σ) : ∀ (fuel : Nat) (a b : σ) (s : Scope) (c : Cursor),
    c.rest.length < fuel → (visits lift visit fuel a s c).result = .ok b →
      (visits lift visit fuel a s c).scope.finished = true
  | 0, a, b, s, c, hf, _ => absurd hf (Nat.not_lt_zero _)
  | fuel + 1, a, b, s, c, hf, h => by
    rcases hn : s.next c with ⟨outcome, s', c'⟩
    simp only [visits, loop, advance, hn] at h ⊢
    rcases outcome with e | (_ | path)
    · cases h
    · exact (Scope.next_advances hn).2.1 rfl
    · simp only at h ⊢
      cases hr : s'.relative path with
      | error e => rw [hr] at h; cases h
      | ok p =>
        rw [hr] at h
        have hlt := (Scope.next_advances hn).2.2 (by simp)
        have hv := run_advances lift (visit a p) s' c'
        simp only [Outcome.after] at h ⊢
        generalize run lift (visit a p) s' c' = o at h hv ⊢
        obtain ⟨result, trace, s'', c''⟩ := o
        cases result with
        | error e => cases h
        | ok a' =>
          have hle := (hv a' rfl).leads.length_le
          exact loop_finished visit fuel a' b s'' c'' (by simp only at hle; omega) h

/-- **A visit of a whole document that does not fail** has seen a document of which every element is closed. -/
theorem closed_of_run {visit : σ → Path → Walk φ ε σ} {a : σ} {k : σ → Walk φ ε α} {b : α} {document : Bytes}
    (h : (runDocument lift (.each visit a k) document).result = .ok b) :
    ∃ content : Content, Event.ofBytes document = ⟨content.events, none⟩ ∧ content.hasElement = true := by
  rw [runDocument, run] at h
  have hfin := fun a' => loop_finished lift visit _ a a' .document (.ofBytes document) (Nat.lt_succ_self _)
  have hadv := forward_loop lift (fun a p s c => run_advances lift (visit a p) s c)
    ((Cursor.ofBytes document).rest.length + 1) a .document (Cursor.ofBytes document)
  simp only [visits] at hfin
  generalize loop lift (fun a p s c => run lift (visit a p) s c) ((Cursor.ofBytes document).rest.length + 1) a .document
    (Cursor.ofBytes document) = o at h hfin hadv
  obtain ⟨result, trace, s, c⟩ := o
  cases result with
  | error e => cases h
  | ok a' =>
    have hA := hadv a' rfl
    have hcl : (Cursor.ofBytes document).Closes :=
      .of_leads hA.leads (hA.ended rfl (Event.nested_ofBytes document) (fun h => by cases h) (hfin a' rfl))
    have hout : (Event.ofBytes document).items.foldl Event.tally (0, false) = (0, true) := hcl.1
    obtain ⟨content, hc⟩ := exists_content_of_tally document (by rw [hout])
    rw [hc, Content.foldl_tally] at hout
    have hfault : (Event.ofBytes document).fault = none := hcl.2
    refine ⟨content, ?_, by simpa using congrArg Prod.snd hout⟩
    rw [← hc, ← hfault]

end Walk

end ScanDiscovery.Xml
