import ScanDiscovery.Proofs.Xml.Progress
/-!
# Proofs.Xml.Script — nested readers as one machine that takes the events one by one

A reader visits the elements of its scope, and hands some of them to readers of their own; so do these.  A script says
the same flatly: to which sections and which texts the paths in a section lead, and what happens at their ends.  Its
machine keeps the open elements, each with its role, and takes one event after the other (`step`), in whatever way the
document ends.  Readers that obey the script come to what its machine does (`comesTo_document`), on every document: the
reader of a section goes on, in the rest of the document, as the machine does from the state at the section's end.
Specification only.
-/
namespace ScanDiscovery.Xml

/-- What an element is that a section looks at: a section of its own, or a text. -/
inductive Part (κ τ : Type) where
  | within (k : κ)
  | text (t : τ)

/-- What a document says, section by section.  A section has data of its own, and leaves something of them to the one
around it. -/
structure Script (κ τ δ φ ε : Type) where
  root : κ
  /-- what the element at a path inside a section is -/
  part : κ → Path → Option (Part κ τ)
  fresh : δ
  /-- what a text does to the data of its section -/
  hear : τ → δ → List Char → Report φ ε δ
  /-- what the end of a section, with its data, does to the data around it -/
  close : κ → δ → δ → Report φ ε δ
  /-- a fault of the document -/
  lift : Error → ε

/-- What an open element is to a machine. -/
inductive Role (κ τ δ : Type) where
  /-- nothing: what is inside counts for the section around it -/
  | passed
  /-- a section, and the data of the one around it -/
  | within (k : κ) (outside : δ)
  /-- a text, as far as it was read -/
  | text (t : τ) (read : List Char)
  /-- an element somewhere inside a text -/
  | nested

namespace Script

variable {κ τ δ φ ε α σ : Type}

/-- A machine between two events. -/
structure State (κ τ δ : Type) where
  /-- the open elements, innermost first -/
  opened : List (Path × Role κ τ δ)
  /-- the data of the innermost section -/
  data : δ
  rooted : Bool

def paths (opened : List (Path × Role κ τ δ)) : List Path := opened.map Prod.fst

def State.path (st : State κ τ δ) : Path := (paths st.opened).headD []

/-- Open elements, and more inside them that all have the same role. -/
def under (role : Role κ τ δ) (inside : List Path) (opened : List (Path × Role κ τ δ)) : List (Path × Role κ τ δ) :=
  inside.map (fun p => (p, role)) ++ opened

@[simp] theorem paths_under (role : Role κ τ δ) (inside : List Path) (opened : List (Path × Role κ τ δ)) :
    paths (under role inside opened) = inside ++ paths opened := by
  unfold paths under
  rw [List.map_append, List.map_map]
  exact congrArg (· ++ _) (List.map_id inside)

variable (m : Script κ τ δ φ ε)

def initial : State κ τ δ := ⟨[], m.fresh, false⟩

/-- The innermost section and its path; none inside a text. -/
def place : List (Path × Role κ τ δ) → Option (κ × Path)
  | [] => some (m.root, [])
  | (_, .passed) :: opened => place opened
  | (p, .within k _) :: _ => some (k, p)
  | (_, .text _ _) :: _ => none
  | (_, .nested) :: _ => none

/-- The role of an element that begins, and the data inside it. -/
def begin (d : δ) : Option (Part κ τ) → Role κ τ δ × δ
  | none => (.passed, d)
  | some (.within k) => (.within k d, m.fresh)
  | some (.text t) => (.text t [], d)

/-- What an event does. -/
def step (st : State κ τ δ) : Event → Report φ ε (State κ τ δ)
  | .start name uri =>
    match m.place st.opened with
    | none => match Cursor.enteredPath st.path none name with
      | .error e => .ofExcept (.error (m.lift e))
      | .ok p => .done ⟨(p, .nested) :: st.opened, st.data, true⟩
    | some (k, base) => match Content.pathBelow st.path name uri with
      | .error e => .ofExcept (.error (m.lift e))
      | .ok p =>
        let (role, data) := m.begin st.data (m.part k (p.drop base.length))
        .done ⟨(p, role) :: st.opened, data, true⟩
  | .finish =>
    match st.opened with
    | [] => .done st
    | (_, .passed) :: opened => .done { st with opened }
    | (_, .nested) :: opened => .done { st with opened }
    | (_, .text t read) :: opened =>
      (m.hear t st.data (Blank.trim read)).andThen fun data => .done ⟨opened, data, st.rooted⟩
    | (_, .within k outside) :: opened =>
      (m.close k st.data outside).andThen fun data => .done ⟨opened, data, st.rooted⟩
  | .text content =>
    match st.opened with
    | (p, .text t read) :: opened => match Cursor.textOf content with
      | .error e => .ofExcept (.error (m.lift e))
      | .ok cs => .done { st with opened := (p, .text t (read ++ cs)) :: opened }
    | _ => .done st
  | .cdata content =>
    match st.opened with
    | (p, .text t read) :: opened => .done { st with opened := (p, .text t (read ++ Utf8.decodeLossy content)) :: opened }
    | _ => .done st

/-- What some events do, one after the other. -/
def drive : List Event → State κ τ δ → Report φ ε (State κ τ δ)
  | [], st => .done st
  | e :: es, st => (m.step st e).andThen (drive es)

/-- What there is to say at the end of the events. -/
def stop (fault : Option Error) (st : State κ τ δ) : Report φ ε Unit :=
  match fault, st.opened with
  | some e, _ => .ofExcept (.error (m.lift e))
  | none, (p, _) :: _ => .ofExcept (.error (m.lift (.unexpectedEnd p)))
  | none, [] => if st.rooted then .done () else .ofExcept (.error (m.lift .missingRoot))

/-- What the rest of a document does. -/
def play (fault : Option Error) (es : List Event) (st : State κ τ δ) : Report φ ε Unit :=
  (m.drive es st).andThen (m.stop fault)

theorem drive_append : ∀ (es es' : List Event) (st : State κ τ δ),
    m.drive (es ++ es') st = (m.drive es st).andThen (m.drive es')
  | [], _, _ => rfl
  | e :: es, es', st => by
    rw [List.cons_append, drive, drive, Report.andThen_assoc]
    congr 1
    funext st
    exact drive_append es es' st

theorem play_append (fault : Option Error) (es es' : List Event) (st : State κ τ δ) :
    m.play fault (es ++ es') st = (m.drive es st).andThen (m.play fault es') := by
  rw [play, drive_append, Report.andThen_assoc]
  rfl

theorem play_nil (fault : Option Error) (st : State κ τ δ) : m.play fault [] st = m.stop fault st := rfl

theorem stop_of_opened {fault : Option Error} {opened : List (Path × Role κ τ δ)} (h : opened ≠ []) (d : δ) (rooted : Bool) :
    m.stop fault ⟨opened, d, rooted⟩ =
      .ofExcept (.error (m.lift (fault.getD (.unexpectedEnd ((paths opened).headD []))))) := by
  cases opened with
  | nil => exact absurd rfl h
  | cons x opened => cases fault <;> rfl

theorem play_cons (fault : Option Error) (e : Event) (es : List Event) (st : State κ τ δ) :
    m.play fault (e :: es) st = (m.step st e).andThen (m.play fault es) := by
  rw [play, drive, Report.andThen_assoc]
  rfl

end Script

namespace Walk

variable {φ ε α β δ : Type}

/-- An outcome comes to a report, wherever it has led. -/
def Outcome.ComesTo (o : Outcome φ ε α) (r : Report φ ε α) : Prop :=
  Mark.findings o.trace = r.findings ∧ o.result = r.result

namespace Outcome

theorem comesTo_error (e : ε) (trace : List (Mark φ)) (h : Mark.findings trace = []) (s : Scope) (c : Cursor) :
    (⟨.error e, trace, s, c⟩ : Outcome φ ε α).ComesTo (.ofExcept (.error e)) := ⟨h, rfl⟩

theorem ComesTo.after {o : Outcome φ ε α} {r : Report φ ε α} (h : o.ComesTo r) {ms : List (Mark φ)} {fs : List φ}
    (hms : Mark.findings ms = fs) : (o.after ms).ComesTo (r.after fs) := by
  refine ⟨?_, h.2⟩
  rw [Outcome.after, Mark.findings_append, hms, h.1]
  rfl

theorem ComesTo.visited {o : Outcome φ ε α} {r : Report φ ε α} (h : o.ComesTo r) (ps : List Path) :
    (o.after (ps.map .visited)).ComesTo r := h.after (Mark.findings_visited ps)

/-- **One after the other**, where the first outcome is told by a report that knows more than its result. -/
theorem Delivers.comesTo_andThen {o : Outcome φ ε α} {r : Report φ ε δ} {get : δ → α} {s : Scope} {c : Cursor}
    {k : α → Scope → Cursor → Outcome φ ε β} {l : δ → Report φ ε β}
    (h : o.Delivers (r.andThen fun d => .done (get d)) s c) (hk : ∀ d, (k (get d) s c).ComesTo (l d)) :
    (o.andThen k).ComesTo (r.andThen l) := by
  obtain ⟨result, trace, os, oc⟩ := o
  obtain ⟨fs, e | d⟩ := r
  · obtain ⟨hf, hr, -⟩ := h
    obtain rfl : result = .error e := hr
    exact ⟨hf, rfl⟩
  · obtain ⟨hf, hr, hp⟩ := h
    obtain rfl : result = .ok (get d) := hr
    obtain ⟨rfl, rfl⟩ := hp (get d) rfl
    have htrace : Mark.findings trace = fs := hf.trans (List.append_nil fs)
    exact (hk d).after htrace

end Outcome

def ofRead (lift : Error → ε) (s : Scope) (k : List Char → Cursor → Outcome φ ε α) :
    Except Error (List Char) × Cursor → Outcome φ ε α
  | (.error e, c) => ⟨.error (lift e), [], s, c⟩
  | (.ok t, c) => k t c

theorem run_text_andThen (lift : Error → ε) (w : List Char → Walk φ ε α) (s : Scope) (c : Cursor)
    (after : α → Scope → Cursor → Outcome φ ε β) :
    (run lift (.text w) s c).andThen after =
      ofRead lift s (fun t c => (run lift (w t) s c).andThen after) c.readText := by
  rw [run]
  rcases c.readText with ⟨e | t, c'⟩ <;> rfl

section

variable {σ : Type} {lift : Error → ε} {visit : σ → Path → Walk φ ε σ} {fuel : Nat} {a : σ} {s s' : Scope} {c c' : Cursor}

theorem visits_of_error {e : Error} (h : s.next c = ⟨.error e, s', c'⟩) :
    visits lift visit (fuel + 1) a s c = ⟨.error (lift e), [], s', c'⟩ := by
  simp only [visits, loop, advance, h]

theorem visits_of_none (h : s.next c = ⟨.ok none, s', c'⟩) :
    visits lift visit (fuel + 1) a s c = ⟨.ok a, [], s', c'⟩ := by
  simp only [visits, loop, advance, h]

end

/-- A walk inside an element, what is left of the element, and what follows behind it. -/
theorem comesTo_within (lift : Error → ε) {w : Walk φ ε β} {l : β → Walk φ ε α} {s : Scope} {c : Cursor}
    {after : α → Scope → Cursor → Outcome φ ε Unit} {r : Report φ ε Unit}
    (h : ((run lift w (.within c) c).andThen fun b si ci =>
      match (si.skip ci).outcome with
      | .error e => ⟨.error (lift e), (si.skip ci).passed.map .visited, s, (si.skip ci).cursor⟩
      | .ok () => ((run lift (l b) s (si.skip ci).cursor).andThen after).after
          ((si.skip ci).passed.map .visited)).ComesTo r) :
    ((run lift (.within w l) s c).andThen after).ComesTo r := by
  rw [run]
  generalize run lift w (.within c) c = o at h ⊢
  obtain ⟨result, trace, si, ci⟩ := o
  cases result with
  | error e => exact h
  | ok b =>
    simp only [Outcome.andThen_ok] at h ⊢
    cases hs : (si.skip ci).outcome with
    | error e =>
      rw [hs] at h
      exact h
    | ok u =>
      rw [hs] at h
      simp only [Outcome.after_after] at h
      rw [Outcome.andThen_after]
      exact h

end Walk

namespace Script

open Walk (Outcome run visits Still)
open Walk.Outcome (comesTo_error)

variable {κ τ δ φ ε α σ : Type} (m : Script κ τ δ φ ε) (fault : Option Error)

/-- **A walk does what the machine does** with the innermost of some open elements, from some data on: behind the
element's end, within the next `N` events, what follows the walk goes on as the machine does. -/
def Plays (w : Walk φ ε σ) (get : δ → σ) (opened : List (Path × Role κ τ δ)) (d : δ) : Prop :=
  ∀ (N : Nat) (s : Scope) (es : List Event) (after : σ → Scope → Cursor → Outcome φ ε Unit),
    es.length ≤ N → Event.Nested opened.length es →
    (∀ d' es', es'.length < N → Event.Nested opened.tail.length es' →
      (after (get d') s ⟨es', fault, paths opened.tail, true⟩).ComesTo (m.play fault es' ⟨opened.tail, d', true⟩)) →
    ((run m.lift w s ⟨es, fault, paths opened, true⟩).andThen after).ComesTo (m.play fault es ⟨opened, d, true⟩)

/-- The visits of a section obey the script; `get` is what they know of its data. -/
def Obeys (k : κ) (visit : σ → Path → Walk φ ε σ) (get : δ → σ) : Prop :=
  ∀ d rel, match m.part k rel with
    | none => visit (get d) rel = .done (get d)
    | some part => ∀ p opened,
      m.Plays fault (visit (get d) rel) get ((p, (m.begin d (some part)).1) :: opened) (m.begin d (some part)).2

/-- What follows the visits of a section, whose element is the last that was opened, goes on as the machine does. -/
def Resumes (get : δ → σ) (own : List (Path × Role κ τ δ)) (N : Nat) (s : Scope)
    (after : σ → Scope → Cursor → Outcome φ ε Unit) : Prop :=
  match own with
  | [] => ∀ d c, (after (get d) s c).ComesTo (.done ())
  | (_, .within k outside) :: opened => ∀ d es, es.length < N → Event.Nested opened.length es →
    (after (get d) s ⟨es, fault, paths opened, true⟩).ComesTo
      ((m.close k d outside).andThen fun d => m.play fault es ⟨opened, d, true⟩)
  | _ => False

section

variable {m fault}

/-! ## Texts -/

theorem depth_inside (inside : List Path) (p : Path) (opened : List (Path × Role κ τ δ)) (es : List Event)
    (rooted : Bool) :
    (⟨es, fault, inside ++ p :: paths opened, rooted⟩ : Cursor).depth = inside.length + (opened.length + 1) := by
  rw [Cursor.depth, List.length_append, List.length_cons, paths, List.length_map]

theorem plays_gather {t : τ} {d : δ} {N : Nat} (p : Path) (opened : List (Path × Role κ τ δ)) (s : Scope)
    {k : List Char → Cursor → Outcome φ ε Unit}
    (hk : ∀ txt es', es'.length < N → Event.Nested opened.length es' →
      (k txt ⟨es', fault, paths opened, true⟩).ComesTo
        ((m.hear t d txt).andThen fun d => m.play fault es' ⟨opened, d, true⟩)) :
    ∀ (es : List Event) (inside : List Path) (read : List Char) (r : List Event), es.length ≤ N →
      Event.Nested (inside.length + (opened.length + 1)) es →
      (Walk.ofRead m.lift s k
        (Cursor.gather (opened.length + 1) read es ⟨r, fault, inside ++ p :: paths opened, true⟩)).ComesTo
        (m.play fault es ⟨under .nested inside ((p, .text t read) :: opened), d, true⟩)
  | [], inside, read, r, _, _ => by
    rw [Cursor.gather, play_nil, stop_of_opened m (by cases inside <;> exact List.cons_ne_nil _ _), paths_under]
    exact comesTo_error _ _ rfl _ _
  | .text content :: es, [], read, r, hN, hn => by
    have ih := fun cs => plays_gather p opened s hk es [] (read ++ cs) r (Nat.le_of_succ_le hN) hn
    rw [Cursor.gather, if_pos (by rw [depth_inside, List.length_nil, Nat.zero_add]), play_cons]
    simp only [under, List.map_nil, List.nil_append, step] at ih ⊢
    cases Cursor.textOf content with
    | error e => exact comesTo_error _ _ rfl _ _
    | ok cs => exact ih cs
  | .text content :: es, q :: inside, read, r, hN, hn => by
    have ih := plays_gather p opened s hk es (q :: inside) read r (Nat.le_of_succ_le hN) hn
    rw [Cursor.gather, if_neg (by rw [depth_inside, List.length_cons]; omega), play_cons]
    exact ih
  | .cdata content :: es, [], read, r, hN, hn => by
    have ih := plays_gather p opened s hk es [] (read ++ Utf8.decodeLossy content) r (Nat.le_of_succ_le hN) hn
    rw [Cursor.gather, if_pos (by rw [depth_inside, List.length_nil, Nat.zero_add]), play_cons]
    exact ih
  | .cdata content :: es, q :: inside, read, r, hN, hn => by
    have ih := plays_gather p opened s hk es (q :: inside) read r (Nat.le_of_succ_le hN) hn
    rw [Cursor.gather, if_neg (by rw [depth_inside, List.length_cons]; omega), play_cons]
    exact ih
  | .start name uri :: es, inside, read, r, hN, hn => by
    have ih := fun q => plays_gather p opened s hk es (q :: inside) read r (Nat.le_of_succ_le hN)
      (by rw [List.length_cons, Nat.add_right_comm]; exact hn)
    have hplace : m.place (under .nested inside ((p, .text t read) :: opened)) = none := by cases inside <;> rfl
    have hpath : (⟨under .nested inside ((p, .text t read) :: opened), d, true⟩ : State κ τ δ).path =
        (⟨r, fault, inside ++ p :: paths opened, true⟩ : Cursor).path := by
      rw [State.path, paths_under]
      rfl
    rw [Cursor.gather, Cursor.enter_eq, play_cons, step, hplace, hpath]
    dsimp only
    cases Cursor.enteredPath (⟨r, fault, inside ++ p :: paths opened, true⟩ : Cursor).path none name with
    | error e => exact comesTo_error _ _ rfl _ _
    | ok q => exact ih q
  | .finish :: es, [], read, r, hN, hn => by
    have hheard := hk (Blank.trim read) es hN (by rw [List.length_nil, Nat.zero_add] at hn; exact hn)
    have hleft : (⟨r, fault, [] ++ p :: paths opened, true⟩ : Cursor).leave.depth < opened.length + 1 := by
      rw [Cursor.leave, Cursor.depth, List.nil_append, List.tail_cons, paths, List.length_map]
      exact Nat.lt_succ_self _
    rw [Cursor.gather, if_pos hleft, play_cons]
    simp only [under, List.map_nil, List.nil_append, step, Report.andThen_assoc]
    exact hheard
  | .finish :: es, q :: inside, read, r, hN, hn => by
    have ih := plays_gather p opened s hk es inside read r (Nat.le_of_succ_le hN)
      (by rw [List.length_cons, Nat.add_right_comm] at hn; exact hn)
    have hleft : ¬ (⟨r, fault, q :: inside ++ p :: paths opened, true⟩ : Cursor).leave.depth < opened.length + 1 := by
      have hdepth : (⟨r, fault, inside ++ p :: paths opened, true⟩ : Cursor).depth = _ :=
        depth_inside inside p opened r true
      rw [Cursor.leave, List.cons_append, List.tail_cons, hdepth]
      omega
    rw [Cursor.gather, if_neg hleft, play_cons]
    exact ih

/-- **A walk that reads a text.** -/
theorem plays_text {t : τ} {d : δ} {w : List Char → Walk φ ε σ} {get : δ → σ}
    (hw : ∀ txt, Still (w txt) ((m.hear t d txt).andThen fun d => .done (get d))) (p : Path)
    (opened : List (Path × Role κ τ δ)) : m.Plays fault (.text w) get ((p, .text t []) :: opened) d := by
  intro N s es after hN hn hafter
  have hread := plays_gather p opened s (k := fun txt c => (run m.lift (w txt) s c).andThen after)
    (fun txt es' hes' hn' => (hw txt m.lift s _).comesTo_andThen fun d' => hafter d' es' hes' hn')
    es [] [] es hN (by rw [List.length_nil, Nat.zero_add]; exact hn)
  have hdepth : (⟨es, fault, p :: paths opened, true⟩ : Cursor).depth = opened.length + 1 :=
    (depth_inside [] p opened es true).trans (Nat.zero_add _)
  rw [Walk.run_text_andThen, Cursor.readText]
  rw [← hdepth] at hread
  exact hread

/-! ## Sections -/

theorem place_under (inside : List Path) (own : List (Path × Role κ τ δ)) :
    m.place (under .passed inside own) = m.place own := by
  induction inside with
  | nil => rfl
  | cons p inside ih => exact ih

theorem step_text_of_place {st : State κ τ δ} {x : κ × Path} (h : m.place st.opened = some x) (content : Bytes) :
    m.step st (.text content) = .done st ∧ m.step st (.cdata content) = .done st := by
  obtain ⟨opened, d, rooted⟩ := st
  rcases opened with _ | ⟨⟨p, role⟩, opened⟩
  · exact ⟨rfl, rfl⟩
  · cases role with
    | passed => exact ⟨rfl, rfl⟩
    | within k outside => exact ⟨rfl, rfl⟩
    | text t read => cases h
    | nested => cases h

theorem comesTo_visits_nil {visit : σ → Path → Walk φ ε σ} {get : δ → σ} {own : List (Path × Role κ τ δ)} {N : Nat}
    {skipped : Nat} {after : σ → Scope → Cursor → Outcome φ ε Unit}
    (hafter : m.Resumes fault get own N ⟨own.length, skipped, true⟩ after) (inside : List Path) (d : δ) (fuel : Nat)
    (rooted : Bool) :
    ((visits m.lift visit (fuel + 1) (get d) ⟨own.length, skipped, false⟩
      ⟨[], fault, inside ++ paths own, rooted⟩).andThen after).ComesTo
      (m.play fault [] ⟨under .passed inside own, d, rooted⟩) := by
  rw [play_nil]
  cases fault with
  | some e =>
    have hnext : (⟨own.length, skipped, false⟩ : Scope).next ⟨[], some e, inside ++ paths own, rooted⟩ =
        ⟨.error e, ⟨own.length, skipped, false⟩, ⟨[], some e, inside ++ paths own, rooted⟩⟩ := rfl
    rw [Walk.visits_of_error hnext]
    exact comesTo_error _ _ rfl _ _
  | none =>
    have hnext : (⟨own.length, skipped, false⟩ : Scope).next ⟨[], none, inside ++ paths own, rooted⟩ = _ :=
      Scope.next_nil rfl rfl rfl
    by_cases hopened : under .passed inside own = []
    · -- the scope of the document, with every element closed
      obtain ⟨hinside, rfl⟩ := List.append_eq_nil_iff.1 hopened
      obtain rfl : inside = [] := List.map_eq_nil_iff.1 hinside
      cases rooted with
      | true =>
        rw [Walk.visits_of_none hnext]
        exact hafter d _
      | false =>
        rw [Walk.visits_of_error hnext]
        exact comesTo_error _ _ rfl _ _
    · have hdepth : 0 < (⟨[], none, inside ++ paths own, rooted⟩ : Cursor).depth := by
        rw [← paths_under .passed, Cursor.depth, paths, List.length_map]
        exact List.length_pos_iff.2 hopened
      have hend : (⟨own.length, skipped, false⟩ : Scope).atEnd ⟨[], none, inside ++ paths own, rooted⟩ =
          .error (.unexpectedEnd ((inside ++ paths own).headD [])) := by
        unfold Scope.atEnd
        rw [if_pos (by simp [hdepth])]
        rfl
      rw [hend] at hnext
      rw [stop_of_opened m hopened, paths_under, Walk.visits_of_error hnext]
      exact comesTo_error _ _ rfl _ _

theorem comesTo_visits_end {k : κ} (visit : σ → Path → Walk φ ε σ) {get : δ → σ} {own : List (Path × Role κ τ δ)}
    {base : Path} (hplace : m.place own = some (k, base)) {N : Nat} {after : σ → Scope → Cursor → Outcome φ ε Unit}
    (hafter : m.Resumes fault get own N ⟨own.length, base.size, true⟩ after) (d : δ) (fuel : Nat) {rooted : Bool}
    (es : List Event) (hN : es.length < N) (hnest : Event.Nested own.length (.finish :: es))
    (hrooted : paths own ≠ [] → rooted = true) :
    ((visits m.lift visit (fuel + 1) (get d) ⟨own.length, base.size, false⟩
      ⟨.finish :: es, fault, paths own, rooted⟩).andThen after).ComesTo
      (m.play fault (.finish :: es) ⟨own, d, rooted⟩) := by
  rcases own with _ | ⟨⟨p, role⟩, opened⟩
  · exact hnest.elim
  · cases role with
    | passed => exact hafter.elim
    | text t read => exact hafter.elim
    | nested => exact hafter.elim
    | within k' outside =>
      obtain ⟨rfl, rfl⟩ : k' = k ∧ p = base := Prod.ext_iff.1 (Option.some.inj hplace)
      obtain rfl : rooted = true := hrooted (List.cons_ne_nil _ _)
      have hdepth : (⟨.finish :: es, fault, paths ((p, .within k' outside) :: opened), true⟩ : Cursor).depth =
          opened.length + 1 := by
        rw [Cursor.depth, paths, List.length_map, List.length_cons]
      have hclose := hafter d es hN hnest
      rw [Walk.visits_of_none (Scope.next_close rfl rfl hdepth), play_cons]
      simp only [step, Report.andThen_assoc, Report.done_andThen]
      exact hclose

/-- Visits that find an element: they go on inside it, or behind it. -/
theorem comesTo_visits_start {k : κ} {visit : σ → Path → Walk φ ε σ} {get : δ → σ} (hv : m.Obeys fault k visit get)
    {own : List (Path × Role κ τ δ)} {base : Path} (hplace : m.place own = some (k, base))
    (hbase : (paths own).headD [] = base) {after : σ → Scope → Cursor → Outcome φ ε Unit} {inside : List Path}
    {es : List Event} (name : Name) (uri : Option Bytes) (d : δ) (fuel : Nat) (rooted : Bool)
    (hnest : Event.Nested (inside.length + own.length + 1) es) (hinside : ∀ q ∈ inside, ∃ rel, q = base ++ rel)
    (hpassed : ∀ rel, ((visits m.lift visit fuel (get d) ⟨own.length, base.size, false⟩
      ⟨es, fault, (base ++ rel) :: inside ++ paths own, true⟩).andThen after).ComesTo
        (m.play fault es ⟨under .passed ((base ++ rel) :: inside) own, d, true⟩))
    (hbehind : ∀ d' es', es'.length < es.length → Event.Nested (inside.length + own.length) es' →
      ((visits m.lift visit fuel (get d') ⟨own.length, base.size, false⟩
        ⟨es', fault, inside ++ paths own, true⟩).andThen after).ComesTo
        (m.play fault es' ⟨under .passed inside own, d', true⟩)) :
    ((visits m.lift visit (fuel + 1) (get d) ⟨own.length, base.size, false⟩
      ⟨.start name uri :: es, fault, inside ++ paths own, rooted⟩).andThen after).ComesTo
      (m.play fault (.start name uri :: es) ⟨under .passed inside own, d, rooted⟩) := by
  have hstate : m.place (under .passed inside own) = some (k, base) := (place_under inside own).trans hplace
  have hpath : (⟨under .passed inside own, d, rooted⟩ : State κ τ δ).path = (inside ++ paths own).headD [] := by
    rw [State.path, paths_under]
  obtain ⟨rel, hrel⟩ : ∃ rel, (inside ++ paths own).headD [] = base ++ rel := by
    cases inside with
    | nil => exact ⟨[], by rw [List.nil_append, hbase, List.append_nil]⟩
    | cons q inside => exact hinside q List.mem_cons_self
  rw [Walk.visits_start rfl rfl, play_cons, step, hstate, hpath]
  simp only [Cursor.path]
  cases hq : Content.pathBelow ((inside ++ paths own).headD []) name uri with
  | error e => exact comesTo_error _ _ rfl _ _
  | ok p =>
    obtain ⟨rel', rfl⟩ := Walk.pathBelow_append hrel hq
    have hrelative : (⟨own.length, base.size, false⟩ : Scope).relative (base ++ rel') = .ok rel' :=
      Scope.relative_append rfl rel'
    simp only [hrelative, List.drop_left]
    rw [Walk.Outcome.andThen_after, Walk.Outcome.andThen_assoc]
    refine Outcome.ComesTo.visited ?_ [base ++ rel']
    have hobeys := hv d rel'
    cases hpart : m.part k rel' with
    | none =>
      rw [hpart] at hobeys
      simp only at hobeys
      rw [hobeys, Walk.run_done, Walk.Outcome.andThen_ok, Walk.Outcome.after_nil]
      exact hpassed rel'
    | some part =>
      rw [hpart] at hobeys
      have hlength : (under (.passed : Role κ τ δ) inside own).length = inside.length + own.length := by
        rw [under, List.length_append, List.length_map]
      have hplays := hobeys (base ++ rel') (under .passed inside own) es.length ⟨own.length, base.size, false⟩ es
        (fun b s c => (visits m.lift visit fuel b s c).andThen after) (Nat.le_refl _)
        (by rw [List.length_cons, hlength]; exact hnest) fun d' es' hes' hn' => by
          rw [List.tail_cons] at hn' ⊢
          rw [hlength] at hn'
          rw [paths_under]
          exact hbehind d' es' hes' hn'
      rw [paths, List.map_cons, ← paths, paths_under] at hplays
      exact hplays

/-- **The visits of a section do what the machine does**, wherever they are in it. -/
theorem comesTo_visits {k : κ} {visit : σ → Path → Walk φ ε σ} {get : δ → σ} (hv : m.Obeys fault k visit get)
    {own : List (Path × Role κ τ δ)} {base : Path} (hplace : m.place own = some (k, base))
    (hbase : (paths own).headD [] = base) {N : Nat} {after : σ → Scope → Cursor → Outcome φ ε Unit}
    (hafter : m.Resumes fault get own N ⟨own.length, base.size, true⟩ after) :
    ∀ (n : Nat) (es : List Event) (inside : List Path) (d : δ) (fuel : Nat) (rooted : Bool), es.length < n →
      es.length < fuel → es.length ≤ N → Event.Nested (inside.length + own.length) es →
      (∀ q ∈ inside, ∃ rel, q = base ++ rel) → (inside ++ paths own ≠ [] → rooted = true) →
      ((visits m.lift visit fuel (get d) ⟨own.length, base.size, false⟩
        ⟨es, fault, inside ++ paths own, rooted⟩).andThen after).ComesTo
        (m.play fault es ⟨under .passed inside own, d, rooted⟩) := by
  -- texts and ends use no fuel, so the induction is on how many events are left
  intro n
  induction n with
  | zero => exact fun _ _ _ _ _ hn => absurd hn (Nat.not_lt_zero _)
  | succ n ih =>
    intro es inside d fuel rooted hn hfuel hN hnest hinside hrooted
    obtain ⟨fuel, rfl⟩ := Nat.exists_eq_succ_of_ne_zero (Nat.ne_zero_of_lt hfuel)
    have hstate : m.place (under .passed inside own) = some (k, base) := (place_under inside own).trans hplace
    cases es with
    | nil => exact comesTo_visits_nil hafter inside d fuel rooted
    | cons e es =>
      rw [List.length_cons] at hn hfuel hN
      cases e with
      | text content =>
        rw [Walk.visits_congr (Scope.next_text rfl rfl), play_cons, (step_text_of_place hstate content).1]
        exact ih es inside d (fuel + 1) rooted (by omega) (by omega) (by omega) hnest hinside hrooted
      | cdata content =>
        rw [Walk.visits_congr (Scope.next_cdata rfl rfl), play_cons, (step_text_of_place hstate content).2]
        exact ih es inside d (fuel + 1) rooted (by omega) (by omega) (by omega) hnest hinside hrooted
      | start name uri =>
        have hnest' : Event.Nested (inside.length + own.length + 1) es := hnest
        refine comesTo_visits_start hv hplace hbase name uri d fuel rooted hnest' hinside (fun rel => ?_)
          fun d' es' hes' hn' => ?_
        · rw [Nat.add_right_comm] at hnest'
          refine ih es ((base ++ rel) :: inside) d fuel true (by omega) (by omega) (by omega) hnest' (fun q hq => ?_)
            fun _ => rfl
          rcases List.mem_cons.1 hq with rfl | hq
          · exact ⟨rel, rfl⟩
          · exact hinside q hq
        · exact ih es' inside d' fuel true (by omega) (by omega) (by omega) hn' hinside fun _ => rfl
      | finish =>
        cases inside with
        | cons q inside =>
          have hdepth : (⟨.finish :: es, fault, q :: inside ++ paths own, rooted⟩ : Cursor).depth ≠ own.length := by
            simp only [Cursor.depth, List.cons_append, List.length_cons, List.length_append, paths, List.length_map]
            omega
          have hnest' : Event.Nested (inside.length + own.length) es := by
            rw [List.length_cons, Nat.add_right_comm] at hnest
            exact hnest
          rw [Walk.visits_congr (Scope.next_finish rfl rfl hdepth), play_cons]
          exact ih es inside d (fuel + 1) rooted (by omega) (by omega) (by omega) hnest'
            (fun p hp => hinside p (List.mem_cons_of_mem _ hp)) fun _ => hrooted (List.cons_ne_nil _ _)
        | nil =>
          rw [List.length_nil, Nat.zero_add] at hnest
          exact comesTo_visits_end visit hplace hafter d fuel es hN hnest hrooted

/-- **A walk that visits a section of its own.** -/
theorem plays_within {ν : Type} {k : κ} {d : δ} {visit : ν → Path → Walk φ ε ν} {know : δ → ν} {fin : ν → Walk φ ε α}
    {l : α → Walk φ ε σ} {get : δ → σ} {rf : ν → Report φ ε α} {rl : α → Report φ ε σ}
    (hv : m.Obeys fault k visit know) (hfin : ∀ b, Still (fin b) (rf b)) (hl : ∀ b, Still (l b) (rl b))
    (hclose : ∀ d', (rf (know d')).andThen rl = (m.close k d' d).andThen fun d => .done (get d)) (p : Path)
    (opened : List (Path × Role κ τ δ)) :
    m.Plays fault (.within (.each visit (know m.fresh) fin) l) get ((p, .within k d) :: opened) m.fresh := by
  intro N s es after hN hn hafter
  have hlength : (paths opened).length = opened.length := List.length_map _
  have hwithin : Scope.within ⟨es, fault, p :: paths opened, true⟩ = ⟨opened.length + 1, p.size, false⟩ := by
    rw [Scope.within, Cursor.depth, List.length_cons, hlength]
    rfl
  refine Walk.comesTo_within m.lift ?_
  rw [run, Outcome.andThen_assoc]
  simp only [paths, List.map_cons] at hwithin ⊢
  rw [hwithin]
  have hplace : m.place ((p, .within k d) :: opened) = some (k, p) := rfl
  refine comesTo_visits hv hplace rfl (N := N) (fun d' es' hes' hn' => ?_) (es.length + 1)
    es [] m.fresh (es.length + 1) true (Nat.lt_succ_self _) (Nat.lt_succ_self _) hN
    (by rw [List.length_nil, Nat.zero_add]; exact hn) (fun _ h => absurd h List.not_mem_nil) fun _ => rfl
  -- behind its end nothing is left of the section, so what follows starts where its last words are said
  have hfinish := hfin (know d') m.lift ⟨opened.length + 1, p.size, true⟩ ⟨es', fault, paths opened, true⟩
  have hlast := hfinish.andThen (k := fun b _ c => run m.lift (l b) s c) fun b => hl b m.lift s _
  rw [hclose] at hlast
  have hrest := hlast.comesTo_andThen fun d => hafter d es' hes' hn'
  obtain ⟨-, hresult, hleft⟩ := hfinish
  generalize run m.lift (fin (know d')) ⟨opened.length + 1, p.size, true⟩ ⟨es', fault, paths opened, true⟩ = o
    at hresult hleft hrest
  obtain ⟨result, trace, so, co⟩ := o
  cases result with
  | error e => exact hrest
  | ok b =>
    obtain ⟨rfl, rfl⟩ := hleft b hresult.symm
    rw [Outcome.andThen_ok, Outcome.andThen_after] at hrest
    exact hrest

/-- **A walk over a document comes to what the machine does with its events**, however the document ends. -/
theorem comesTo_document {visit : σ → Path → Walk φ ε σ} {get : δ → σ} {fin : σ → Walk φ ε Unit} {document : Bytes}
    (hv : m.Obeys (Event.ofBytes document).fault m.root visit get) (hfin : ∀ b, Still (fin b) (.done ())) :
    (Walk.runDocument m.lift (.each visit (get m.fresh) fin) document).ComesTo
      (m.play (Event.ofBytes document).fault (Event.ofBytes document).items m.initial) := by
  have hresumes : m.Resumes (Event.ofBytes document).fault get [] (Event.ofBytes document).items.length ⟨0, 0, true⟩
      fun b s c => run m.lift (fin b) s c := by
    intro d c
    obtain ⟨hfindings, hresult, -⟩ := hfin (get d) m.lift ⟨0, 0, true⟩ c
    exact ⟨hfindings, hresult⟩
  rw [Walk.runDocument, run]
  exact comesTo_visits hv rfl rfl hresumes ((Event.ofBytes document).items.length + 1) _ [] m.fresh _ false
    (Nat.lt_succ_self _) (Nat.lt_succ_self _) (Nat.le_refl _) (Event.nested_ofBytes document)
    (fun _ h => absurd h List.not_mem_nil) fun h => absurd rfl h

end

end Script

end ScanDiscovery.Xml
