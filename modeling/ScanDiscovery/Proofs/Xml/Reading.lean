import ScanDiscovery.Proofs.Xml.Report
/-!
# Proofs.Xml.Reading — a walk over the events of a tree comes to the report of the tree

`Reads w p read` says of a walk what it makes of any element at the path `p`, wherever that stands: the report is
`read` of the element's content, and the cursor is left behind the element's end.  A text is read (`reads_text`), and
an element is visited to its end (`reads_within_each`), whatever the visits read in turn; a whole document is visited
the same way (`delivers_document`).  Specification only.
-/
namespace ScanDiscovery.Xml

namespace Scope

/-- Where to seek is told by the events alone. -/
theorem seek_rest (s : Scope) (r : List Event) : ∀ (es : List Event) (c : Cursor),
    s.seek es { c with rest := r } = s.seek es c
  | [], c => by
    unfold seek
    cases c.fault <;> rfl
  | .start name uri :: es, c => by
    simp only [seek, Cursor.enter_eq]
    rw [show ({ c with rest := r } : Cursor).path = c.path from rfl]
    cases Cursor.enteredPath c.path (uri.bind Vocabulary.prefixOf?) name <;> rfl
  | .finish :: es, c => by
    simp only [seek]
    rw [show ({ c with rest := r } : Cursor).depth = c.depth from rfl]
    split
    · rfl
    · exact seek_rest s r es c.leave
  | .text _ :: es, c => seek_rest s r es c
  | .cdata _ :: es, c => seek_rest s r es c

variable {s : Scope} {c : Cursor} {es : List Event}

theorem next_eq_seek (hf : s.finished = false) (c : Cursor) : s.next c = s.seek c.rest c := by
  rw [next, hf, if_neg Bool.false_ne_true]

theorem seek_finish (c : Cursor) (es : List Event) : s.seek (.finish :: es) c =
    if c.depth = s.depth then ⟨.ok none, { s with finished := true }, { c.leave with rest := es }⟩
    else s.seek es c.leave := rfl

theorem seek_start (c : Cursor) (es : List Event) (name : Name) (uri : Option Bytes) :
    s.seek (.start name uri :: es) c = match c.enter (uri.bind Vocabulary.prefixOf?) name with
      | .ok c => ⟨.ok (some c.path), s, { c with rest := es }⟩
      | .error e => ⟨.error e, s, { c with rest := es }⟩ := rfl

theorem next_text (hf : s.finished = false) {t : Bytes} (h : c.rest = .text t :: es) :
    s.next c = s.next { c with rest := es } := by
  rw [next_eq_seek hf, next_eq_seek hf, h]
  exact (seek_rest s es es c).symm

theorem next_cdata (hf : s.finished = false) {t : Bytes} (h : c.rest = .cdata t :: es) :
    s.next c = s.next { c with rest := es } := by
  rw [next_eq_seek hf, next_eq_seek hf, h]
  exact (seek_rest s es es c).symm

theorem next_finish (hf : s.finished = false) (h : c.rest = .finish :: es) (hd : c.depth ≠ s.depth) :
    s.next c = s.next { c.leave with rest := es } := by
  rw [next_eq_seek hf, next_eq_seek hf, h, seek_finish, if_neg hd]
  exact (seek_rest s es es c.leave).symm

theorem next_close (hf : s.finished = false) (h : c.rest = .finish :: es) (hd : c.depth = s.depth) :
    s.next c = ⟨.ok none, { s with finished := true }, { c.leave with rest := es }⟩ := by
  rw [next_eq_seek hf, h, seek_finish, if_pos hd]

theorem next_start (hf : s.finished = false) {name : Name} {uri : Option Bytes} (h : c.rest = .start name uri :: es) :
    s.next c = match Content.pathBelow c.path name uri with
      | .error e => ⟨.error e, s, { c with rest := es }⟩
      | .ok p => ⟨.ok (some p), s, { c.entered p with rest := es }⟩ := by
  rw [next_eq_seek hf, h, seek_start, Cursor.enter_eq, Content.pathBelow]
  cases Cursor.enteredPath c.path (uri.bind Vocabulary.prefixOf?) name <;> rfl

theorem next_nil (hf : s.finished = false) (h : c.rest = []) (hc : c.fault = none) :
    s.next c = ⟨(s.atEnd c).map fun _ => none, { s with finished := true }, c⟩ := by
  obtain ⟨rest, fault, opened, rooted⟩ := c
  obtain rfl : rest = [] := h
  obtain rfl : fault = none := hc
  rw [next_eq_seek hf]
  rfl

theorem relative_append {base : Path} (h : s.skipped = base.size) (rel : Path) :
    s.relative (base ++ rel) = .ok rel := by
  rw [relative, h, Path.dropBytes?_append]

end Scope

namespace Walk

variable {φ ε α β σ : Type}

/-- An outcome comes to a report and, unless that is a failure, to a place. -/
structure Outcome.Delivers (o : Outcome φ ε α) (r : Report φ ε α) (s : Scope) (c : Cursor) : Prop where
  findings : Mark.findings o.trace = r.findings
  result : o.result = r.result
  place : ∀ a, r.result = .ok a → o.scope = s ∧ o.cursor = c

theorem Outcome.Delivers.after {o : Outcome φ ε α} {r : Report φ ε α} {s : Scope} {c : Cursor}
    (h : o.Delivers r s c) (ms : List (Mark φ)) : (o.after ms).Delivers (r.after (Mark.findings ms)) s c where
  findings := by
    rw [Outcome.after, Mark.findings_append, h.findings]
    rfl
  result := h.result
  place := h.place

/-- **Outcomes one after the other** come to their reports one after the other. -/
theorem Outcome.Delivers.andThen {o : Outcome φ ε α} {r : Report φ ε α} {s s' : Scope} {c c' : Cursor}
    {k : α → Scope → Cursor → Outcome φ ε β} {l : α → Report φ ε β} (h : o.Delivers r s c)
    (hk : ∀ a, (k a s c).Delivers (l a) s' c') : (o.andThen k).Delivers (r.andThen l) s' c' := by
  obtain ⟨result, trace, os, oc⟩ := o
  obtain ⟨fs, rr⟩ := r
  obtain ⟨hf, hr, hp⟩ := h
  subst hf hr
  cases result with
  | error e => exact ⟨rfl, rfl, fun a ha => by cases ha⟩
  | ok a =>
    obtain ⟨rfl, rfl⟩ := hp a rfl
    exact (hk a).after trace

/-- A walk that reads nothing comes to `r` and stays where it is. -/
def Still (w : Walk φ ε α) (r : Report φ ε α) : Prop :=
  ∀ lift s c, (run lift w s c).Delivers r s c

theorem still_done (a : α) : Still (.done a : Walk φ ε α) (.done a) := fun _ _ _ =>
  ⟨rfl, rfl, fun _ _ => ⟨rfl, rfl⟩⟩

theorem still_fail (e : ε) : Still (.fail e : Walk φ ε α) (.ofExcept (.error e)) := fun _ _ _ =>
  ⟨rfl, rfl, fun _ _ => ⟨rfl, rfl⟩⟩

theorem Still.note {w : Walk φ ε α} {r : Report φ ε α} (h : Still w r) (f : φ) :
    Still (.note f w) (r.after [f]) := fun lift s c => (h lift s c).after [.noted f]

/-- What a walk makes of an element at the path `p`: the report of its content. -/
def Reads (lift : Error → ε) (w : Walk φ ε α) (p : Path) (read : Content → Report φ ε α) : Prop :=
  ∀ (k : Content) (s : Scope) (c : Cursor) (ps : List Path) (es : List Event),
    c.opened = p :: ps → c.rooted = true → c.rest = k.events ++ .finish :: es →
      (run lift w s c).Delivers (read k) s { c with rest := es, opened := ps }

/-- **A walk that reads the text of an element.** -/
theorem reads_text (lift : Error → ε) (p : Path) {k : List Char → Walk φ ε α} {r : List Char → Report φ ε α}
    (h : ∀ t, Still (k t) (r t)) :
    Reads lift (.text k) p fun inside => (Report.ofExcept (inside.value.mapError lift)).andThen r := by
  intro inside s c ps es ho hr hrest
  have hd : 0 < c.depth := by rw [Cursor.depth, ho]; exact Nat.succ_pos _
  have ht := Cursor.readText_content inside c es hrest hd hr
  show Outcome.Delivers _ ((Report.ofExcept (inside.value.mapError lift)).andThen r) s _
  rw [run]
  cases hv : inside.value with
  | error e =>
    rw [hv] at ht
    rcases hc : c.readText with ⟨result, c'⟩
    rw [hc] at ht
    obtain rfl : result = .error e := ht
    exact ⟨rfl, rfl, fun a ha => by cases ha⟩
  | ok t =>
    rw [hv] at ht
    simp only [Cursor.leave, ho, List.tail_cons] at ht
    rw [ht]
    exact h t lift s _

section

variable (lift : Error → ε) (visit : σ → Path → Walk φ ε σ) (handle : Path → Option (σ → Content → Report φ ε σ))
  (base : Path)

/-- A visit reads the elements that `handle` takes, in its way, and does nothing with the others. -/
structure Follows : Prop where
  visit_eq : ∀ (a : σ) (rel : Path), match handle (base ++ rel) with
    | none => visit a rel = .done a
    | some read => Reads lift (visit a rel) (base ++ rel) (read a)

/-- The loop of `each` over a visit. -/
abbrev visits (fuel : Nat) (a : σ) (s : Scope) (c : Cursor) : Outcome φ ε σ :=
  loop lift (fun a p s c => run lift (visit a p) s c) fuel a s c

variable {lift visit handle base}

theorem visits_congr {fuel : Nat} {a : σ} {s : Scope} {c c' : Cursor} (h : s.next c = s.next c') :
    visits lift visit (fuel + 1) a s c = visits lift visit (fuel + 1) a s c' := by
  simp only [visits, loop, advance, h]

theorem visits_start {fuel : Nat} {a : σ} {s : Scope} {c : Cursor} {name : Name} {uri : Option Bytes} {es : List Event}
    (hf : s.finished = false) (h : c.rest = .start name uri :: es) :
    visits lift visit (fuel + 1) a s c = match Content.pathBelow c.path name uri with
      | .error e => ⟨.error (lift e), [], s, { c with rest := es }⟩
      | .ok p => match s.relative p with
        | .error e => ⟨.error (lift e), [.visited p], s, { c.entered p with rest := es }⟩
        | .ok rel => ((run lift (visit a rel) s { c.entered p with rest := es }).andThen
            (visits lift visit fuel)).after [.visited p] := by
  simp only [visits, loop, advance, Scope.next_start hf h]
  cases Content.pathBelow c.path name uri with
  | error e => rfl
  | ok p => cases hr : s.relative p <;> simp only [hr]

theorem pathBelow_append {rel : Path} {parent p : Path} {name : Name} {uri : Option Bytes} (hp : parent = base ++ rel)
    (h : Content.pathBelow parent name uri = .ok p) : ∃ rel', p = base ++ rel' := by
  rw [Content.pathBelow, Cursor.enteredPath_eq] at h
  cases hn : Cursor.nameParts (uri.bind Vocabulary.prefixOf?) name with
  | error e => rw [hn] at h; cases h
  | ok n =>
    rw [hn] at h
    cases h
    obtain ⟨more, hm⟩ := Path.child_eq_append parent n.1 n.2
    exact ⟨rel ++ more, by rw [← List.append_assoc, ← hp]; exact hm⟩

/-- **Visiting the events of a tree comes to the report of the tree**, and goes on behind it.  The fuel is enough as
long as it exceeds the events left. -/
theorem delivers_visits {s : Scope} (hf : s.finished = false) (hs : s.skipped = base.size)
    (hv : Follows lift visit handle base) (k : Content) (a : σ) (fuel : Nat) (c : Cursor) (rel : Path)
    (es : List Event) (r : σ → Report φ ε β) (after : σ → Scope → Cursor → Outcome φ ε β) (s' : Scope) (c' : Cursor)
    (hp : c.path = base ++ rel) (hd : s.depth ≤ c.depth) (hrest : c.rest = k.events ++ es)
    (hfuel : c.rest.length < fuel)
    (hk : ∀ b fuel', es.length < fuel' → ((visits lift visit fuel' b s
      { c with rest := es, rooted := c.rooted || k.hasElement }).andThen after).Delivers (r b) s' c') :
    ((visits lift visit fuel a s c).andThen after).Delivers ((k.report lift handle c.path a).andThen r) s' c' := by
  induction k generalizing a fuel c rel es r with
  | nil =>
    rw [Content.events, List.nil_append] at hrest
    have := hk a fuel (by rw [← hrest]; exact hfuel)
    rw [← hrest, Content.hasElement, Bool.or_false] at this
    rw [Content.report, Report.done_andThen]
    exact this
  | text t rest ih =>
    obtain ⟨n, rfl⟩ := Nat.exists_eq_succ_of_ne_zero (Nat.ne_zero_of_lt hfuel)
    rw [visits_congr (Scope.next_text hf hrest)]
    rw [hrest] at hfuel
    exact ih a (n + 1) { c with rest := rest.events ++ es } rel es r hp hd rfl (Nat.lt_of_succ_lt hfuel) hk
  | cdata t rest ih =>
    obtain ⟨n, rfl⟩ := Nat.exists_eq_succ_of_ne_zero (Nat.ne_zero_of_lt hfuel)
    rw [visits_congr (Scope.next_cdata hf hrest)]
    rw [hrest] at hfuel
    exact ih a (n + 1) { c with rest := rest.events ++ es } rel es r hp hd rfl (Nat.lt_of_succ_lt hfuel) hk
  | element name uri inside rest ihInside ihRest =>
    obtain ⟨n, rfl⟩ := Nat.exists_eq_succ_of_ne_zero (Nat.ne_zero_of_lt hfuel)
    simp only [Content.events, List.cons_append, List.append_assoc] at hrest
    rw [visits_start hf hrest, Content.report]
    cases hq : Content.pathBelow c.path name uri with
    | error e => exact ⟨rfl, rfl, fun a ha => by cases ha⟩
    | ok p =>
      obtain ⟨rel', rfl⟩ := pathBelow_append hp hq
      simp only [Scope.relative_append hs]
      rw [Outcome.andThen_after, Outcome.andThen_assoc, Report.andThen_assoc]
      refine Outcome.Delivers.after ?_ [.visited _]
      have hle : (rest.events ++ es).length < n := by
        rw [hrest] at hfuel
        simp only [List.length_cons, List.length_append] at hfuel ⊢
        omega
      -- what is left once the element is behind the cursor, however it was read
      have goOn : ∀ b fuel', (rest.events ++ es).length < fuel' →
          ((visits lift visit fuel' b s { c with rest := rest.events ++ es, rooted := true }).andThen after).Delivers
            ((rest.report lift handle c.path b).andThen r) s' c' := fun b fuel' hf' =>
        ihRest b fuel' { c with rest := rest.events ++ es, rooted := true } rel es r hp hd rfl hf' fun b fuel' hf' => by
          have := hk b fuel' hf'
          rw [Content.hasElement, Bool.or_true] at this
          exact this
      have hvis := hv.visit_eq a rel'
      cases hh : handle (base ++ rel') with
      | none =>
        rw [hh] at hvis
        simp only at hvis ⊢
        rw [hvis, run_done, Outcome.andThen_ok, Outcome.after_nil]
        refine ihInside a n
          { c.entered (base ++ rel') with rest := inside.events ++ .finish :: (rest.events ++ es) } rel'
          (.finish :: (rest.events ++ es)) _ rfl (Nat.le_succ_of_le hd) rfl ?_ fun b fuel' hf' => ?_
        · rw [hrest] at hfuel
          exact Nat.lt_of_succ_lt_succ hfuel
        · obtain ⟨m, rfl⟩ := Nat.exists_eq_succ_of_ne_zero (Nat.ne_zero_of_lt hf')
          have hne : ({ c.entered (base ++ rel') with rest := .finish :: (rest.events ++ es) } : Cursor).depth ≠
              s.depth := Nat.ne_of_gt (Nat.lt_succ_of_le hd)
          show ((visits lift visit (m + 1) b s
            { c.entered (base ++ rel') with rest := .finish :: (rest.events ++ es) }).andThen after).Delivers _ s' c'
          rw [visits_congr (Scope.next_finish hf rfl hne)]
          exact goOn b (m + 1) (Nat.lt_of_succ_lt hf')
      | some read =>
        rw [hh] at hvis
        simp only at hvis ⊢
        exact (hvis inside s { c.entered (base ++ rel') with rest := inside.events ++ .finish :: (rest.events ++ es) }
          c.opened (rest.events ++ es) rfl rfl rfl).andThen fun b => goOn b n hle

end

section

variable {lift : Error → ε} {visit : σ → Path → Walk φ ε σ} {base : Path}
  {handle : Path → Option (σ → Content → Report φ ε σ)}

theorem delivers_within {w : Walk φ ε α} {l : α → Walk φ ε β} {r : Report φ ε α} {q : α → Report φ ε β} {s s' : Scope}
    {c c' : Cursor} (hw : (run lift w (.within c) c).Delivers r s' c') (hs : s'.finished = true)
    (hl : ∀ b, Still (l b) (q b)) : (run lift (.within w l) s c).Delivers (r.andThen q) s c' := by
  rw [run]
  generalize run lift w (.within c) c = o at hw ⊢
  obtain ⟨result, trace, si, ci⟩ := o
  obtain ⟨fs, rr⟩ := r
  obtain ⟨hf, hr, hp⟩ := hw
  subst hf hr
  cases result with
  | error e => exact ⟨rfl, rfl, fun a ha => by cases ha⟩
  | ok b =>
    obtain ⟨rfl, rfl⟩ := hp b rfl
    have hskip : si.skip ci = ⟨[], .ok (), ci⟩ := if_pos hs
    simp only [hskip, List.map_nil, List.append_nil]
    exact (hl b lift s _).after trace

/-- **A walk inside an element that visits it to its end.** -/
theorem reads_within_each (hv : Follows lift visit handle base) (a : σ) {k : σ → Walk φ ε α} {r : σ → Report φ ε α}
    {l : α → Walk φ ε β} {q : α → Report φ ε β} (hk : ∀ b, Still (k b) (r b)) (hl : ∀ b, Still (l b) (q b)) :
    Reads lift (.within (.each visit a k) l) base fun inside =>
      ((inside.report lift handle base a).andThen r).andThen q := by
  intro inside s c ps es ho hr hrest
  have hpath : c.path = base := by rw [Cursor.path, ho]; rfl
  refine delivers_within (?_ : Outcome.Delivers _ _ { Scope.within c with finished := true } _) rfl hl
  rw [run, ← hpath]
  refine delivers_visits rfl (by rw [Scope.within, hpath]) hv inside a _ c [] (.finish :: es) r _ _ _
    (by rw [hpath, List.append_nil]) (Nat.le_refl _) hrest (Nat.lt_succ_self _) fun b fuel' hf' => ?_
  obtain ⟨m, rfl⟩ := Nat.exists_eq_succ_of_ne_zero (Nat.ne_zero_of_lt hf')
  have hclose : (Scope.within c).next { c with rest := .finish :: es, rooted := c.rooted || inside.hasElement } =
      ⟨.ok none, { Scope.within c with finished := true }, { c with rest := es, opened := ps }⟩ := by
    rw [Scope.next_close rfl rfl rfl]
    simp only [Cursor.leave, ho, hr, List.tail_cons, Bool.true_or]
  simp only [visits, loop, advance, hclose]
  exact hk b lift _ _

/-- **A walk that visits a whole document**, of which every element is closed. -/
theorem delivers_document (hv : Follows lift visit handle []) (a : σ) {k : σ → Walk φ ε α} {r : σ → Report φ ε α}
    (hk : ∀ b, Still (k b) (r b)) {document : Bytes} {content : Content}
    (hd : Event.ofBytes document = ⟨content.events, none⟩) :
    (runDocument lift (.each visit a k) document).Delivers
      ((content.report lift handle [] a).andThen fun b =>
        if content.hasElement then r b else .ofExcept (.error (lift .missingRoot)))
      { Scope.document with finished := true } ⟨[], none, [], content.hasElement⟩ := by
  rw [runDocument, run, Cursor.ofBytes, hd]
  refine delivers_visits rfl rfl hv content a _ ⟨content.events, none, [], false⟩ [] [] _ _ _ _ rfl (Nat.le_refl 0)
    (List.append_nil _).symm (Nat.lt_succ_self _) fun b fuel' hf' => ?_
  obtain ⟨m, rfl⟩ := Nat.exists_eq_succ_of_ne_zero (Nat.ne_zero_of_lt hf')
  simp only [visits, loop, advance, Bool.false_or]
  rw [Scope.next_nil rfl rfl rfl]
  cases content.hasElement with
  | true => exact hk b lift _ _
  | false => exact ⟨rfl, rfl, fun a ha => by cases ha⟩

end

end Walk

end ScanDiscovery.Xml
