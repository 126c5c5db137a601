import ScanDiscovery.Proofs.Xml.Reading
/-!
# Proofs.Xml.Survey — a walk that takes down all that a document shows

A survey goes from element to element, takes down the path of each and reads the texts of those that are chosen.  What it
comes to is read off the tree (`Content.seen`, `survey_document`): no element is left out, and none is taken down twice.
Specification only.
-/
namespace ScanDiscovery.Xml

/-- What is taken down of an element: its path, and its text if that is read. -/
abbrev Sighting := Path × Option (List Char)

/-- What a survey takes down of a content, in document order; what stands in an element whose text is read is read with
that. -/
def Content.seen (chosen : Path → Bool) : Path → Content → Except Error (List Sighting)
  | _, .nil => .ok []
  | parent, .text _ rest => rest.seen chosen parent
  | parent, .cdata _ rest => rest.seen chosen parent
  | parent, .element name uri inside rest =>
    (pathBelow parent name uri).bind fun p =>
      (if chosen p then inside.value.map fun t => [(p, some t)] else (inside.seen chosen p).map ((p, none) :: ·)).bind
        fun here => (rest.seen chosen parent).map (here ++ ·)

/-- Where no text is read, the elements that are seen are all that there are. -/
theorem Content.paths_of_seen : ∀ {k : Content} {parent : Path} {xs : List Sighting},
    k.seen (fun _ => false) parent = .ok xs → xs.map (·.1) = (k.elements (fun _ => true) parent).map (·.1)
  | .nil, _, _, h => by
    cases h
    rfl
  | .text _ rest, _, _, h => paths_of_seen (k := rest) h
  | .cdata _ rest, _, _, h => paths_of_seen (k := rest) h
  | .element name uri inside rest, parent, xs, h => by
    obtain ⟨p, hp, hbelow⟩ := bind_eq_ok.1 h
    obtain ⟨here, hhere, hmore⟩ := bind_eq_ok.1 hbelow
    obtain ⟨more, hseen, rfl⟩ := map_eq_ok.1 hmore
    rw [if_neg Bool.false_ne_true] at hhere
    obtain ⟨below, hinside, rfl⟩ := map_eq_ok.1 hhere
    simp only [elements, hp, if_true, List.map_append, List.map_cons, List.cons_append, List.nil_append,
      paths_of_seen hinside, paths_of_seen hseen]

namespace Walk

variable {φ ε : Type} (chosen : Path → Bool)

/-- What a survey does at an element. -/
def sight (seen : List Sighting) (p : Path) : Walk φ ε (List Sighting) :=
  if chosen p then .text fun t => .done (seen ++ [(p, some t)]) else .done (seen ++ [(p, none)])

/-- The walk that takes down the paths of all elements, and the texts of the chosen ones. -/
def survey : Walk φ ε (List Sighting) := .each (sight chosen) [] .done

section

variable (φ) (lift : Error → ε)

/-- A survey of a document comes from one cursor to another and takes down `xs` on the way.  The fuel is enough as long as
it exceeds the events left. -/
def Surveys (c : Cursor) (xs : List Sighting) (c' : Cursor) : Prop :=
  ∀ (seen : List Sighting) (fuel : Nat), c.rest.length < fuel → ∃ (fuel' : Nat) (marks : List (Mark φ)),
    c'.rest.length < fuel' ∧ visits lift (sight chosen) fuel seen .document c =
      (visits lift (sight chosen) fuel' (seen ++ xs) .document c').after marks

variable {φ lift chosen} {c c' c'' : Cursor} {xs ys : List Sighting}

theorem Surveys.refl (c : Cursor) : Surveys φ chosen lift c [] c := fun seen fuel h =>
  ⟨fuel, [], h, by rw [List.append_nil, Outcome.after_nil]⟩

theorem Surveys.trans (h : Surveys φ chosen lift c xs c') (h' : Surveys φ chosen lift c' ys c'') :
    Surveys φ chosen lift c (xs ++ ys) c'' := by
  intro seen fuel hfuel
  obtain ⟨fuel', marks, hfuel', heq⟩ := h seen fuel hfuel
  obtain ⟨fuel'', marks', hfuel'', heq'⟩ := h' (seen ++ xs) fuel' hfuel'
  exact ⟨fuel'', marks ++ marks', hfuel'', by rw [heq, heq', Outcome.after_after, List.append_assoc]⟩

/-- Where the next element is the same, nothing is taken down in between. -/
theorem Surveys.of_next (h : Scope.document.next c = Scope.document.next c') (hlt : c'.rest.length < c.rest.length) :
    Surveys φ chosen lift c [] c' := by
  intro seen fuel hfuel
  obtain ⟨n, rfl⟩ := Nat.exists_eq_succ_of_ne_zero (Nat.ne_zero_of_lt hfuel)
  exact ⟨n + 1, [], Nat.lt_trans hlt hfuel, by rw [List.append_nil, Outcome.after_nil, visits_congr h]⟩

/-- **An element is taken down**, and the survey goes on from where the sight of it ends. -/
theorem Surveys.of_sight {name : Name} {uri : Option Bytes} {es : List Event} {p : Path}
    (hrest : c.rest = .start name uri :: es) (hp : Content.pathBelow c.path name uri = .ok p)
    (hlt : c'.rest.length ≤ es.length) (hsight : ∀ seen, run lift (sight (φ := φ) chosen seen p) .document
      { c.entered p with rest := es } = ⟨.ok (seen ++ xs), [], .document, c'⟩) : Surveys φ chosen lift c xs c' := by
  intro seen fuel hfuel
  obtain ⟨n, rfl⟩ := Nat.exists_eq_succ_of_ne_zero (Nat.ne_zero_of_lt hfuel)
  have hrelative : Scope.document.relative ([] ++ p) = .ok p := Scope.relative_append rfl p
  rw [hrest, List.length_cons] at hfuel
  refine ⟨n, [.visited p], by omega, ?_⟩
  rw [visits_start rfl hrest, hp]
  simp only [List.nil_append] at hrelative
  simp only [hrelative, hsight, Outcome.andThen_ok, Outcome.after_nil]

theorem surveys_entered {name : Name} {uri : Option Bytes} {es : List Event} {p : Path}
    (hrest : c.rest = .start name uri :: es) (hp : Content.pathBelow c.path name uri = .ok p) (hc : ¬ chosen p = true) :
    Surveys φ chosen lift c [(p, none)] { c.entered p with rest := es } :=
  .of_sight hrest hp (Nat.le_refl _) fun seen => by
    rw [sight, if_neg hc]
    rfl

theorem surveys_read {name : Name} {uri : Option Bytes} {inside : Content} {es : List Event} {p : Path} {t : List Char}
    (hrest : c.rest = .start name uri :: (inside.events ++ .finish :: es))
    (hp : Content.pathBelow c.path name uri = .ok p) (hc : chosen p = true) (ht : inside.value = .ok t) :
    Surveys φ chosen lift c [(p, some t)] { c with rest := es, rooted := true } := by
  have hread := Cursor.readText_content inside { c.entered p with rest := inside.events ++ .finish :: es } es rfl
    (Nat.succ_pos _) rfl
  rw [ht] at hread
  refine .of_sight hrest hp ?_ fun seen => ?_
  · simp only [List.length_append, List.length_cons]
    omega
  · rw [sight, if_pos hc, run, hread]
    rfl

/-- **What is seen of a tree is what a survey of its events takes down.** -/
theorem surveys_content (k : Content) : ∀ {xs : List Sighting} {c : Cursor} {es : List Event},
    k.seen chosen c.path = .ok xs → c.rest = k.events ++ es →
      Surveys φ chosen lift c xs { c with rest := es, rooted := c.rooted || k.hasElement } := by
  induction k with
  | nil =>
    intro xs c es hxs hrest
    cases hxs
    rw [Content.events, List.nil_append] at hrest
    rw [← hrest, Content.hasElement, Bool.or_false]
    exact .refl c
  | text t rest ih =>
    intro xs c es hxs hrest
    have hskip : Surveys φ chosen lift c [] { c with rest := rest.events ++ es } :=
      .of_next (Scope.next_text rfl hrest) (by rw [hrest]; exact Nat.lt_succ_self _)
    exact hskip.trans (ih (c := { c with rest := rest.events ++ es }) hxs rfl)
  | cdata t rest ih =>
    intro xs c es hxs hrest
    have hskip : Surveys φ chosen lift c [] { c with rest := rest.events ++ es } :=
      .of_next (Scope.next_cdata rfl hrest) (by rw [hrest]; exact Nat.lt_succ_self _)
    exact hskip.trans (ih (c := { c with rest := rest.events ++ es }) hxs rfl)
  | element name uri inside rest ihInside ihRest =>
    intro xs c es hxs hrest
    obtain ⟨p, hp, hbelow⟩ := bind_eq_ok.1 hxs
    obtain ⟨here, hhere, hmore⟩ := bind_eq_ok.1 hbelow
    obtain ⟨more, hseen, rfl⟩ := map_eq_ok.1 hmore
    simp only [Content.events, List.cons_append, List.append_assoc] at hrest
    have hbehind := ihRest (c := { c with rest := rest.events ++ es, rooted := true }) hseen rfl
    rw [Content.hasElement, Bool.or_true]
    refine Surveys.trans ?_ hbehind
    split at hhere
    · rename_i hc
      obtain ⟨t, ht, rfl⟩ := map_eq_ok.1 hhere
      exact surveys_read hrest hp hc ht
    · rename_i hc
      obtain ⟨below, hinside, rfl⟩ := map_eq_ok.1 hhere
      -- into the element, through what stands in it, and past its end
      have hthrough := ihInside
        (c := { c.entered p with rest := inside.events ++ .finish :: (rest.events ++ es) }) hinside rfl
      have hends : Surveys φ chosen lift { c.entered p with rest := .finish :: (rest.events ++ es) } []
          { c with rest := rest.events ++ es, rooted := true } :=
        .of_next (Scope.next_finish rfl rfl (Nat.succ_ne_zero _)) (Nat.lt_succ_self _)
      have hall := (surveys_entered hrest hp hc).trans (hthrough.trans hends)
      rw [List.append_nil] at hall
      exact hall

end

variable {chosen}

/-- **What is seen of a document is what a survey of it comes to**, if there is an element and all are closed. -/
theorem survey_document (lift : Error → ε) {document : Bytes} {k : Content} {xs : List Sighting}
    (h : Event.ofBytes document = ⟨k.events, none⟩) (hroot : k.hasElement = true) (hxs : k.seen chosen [] = .ok xs) :
    (runDocument lift (survey (φ := φ) chosen) document).result = .ok xs := by
  have hsurvey : Surveys φ chosen lift ⟨k.events, none, [], false⟩ xs ⟨[], none, [], false || k.hasElement⟩ :=
    surveys_content k hxs (List.append_nil _).symm
  obtain ⟨fuel, marks, hfuel, heq⟩ := hsurvey [] _ (Nat.lt_succ_self _)
  obtain ⟨n, rfl⟩ := Nat.exists_eq_succ_of_ne_zero (Nat.ne_zero_of_lt hfuel)
  rw [runDocument, survey, run, Cursor.ofBytes, h]
  simp only [visits] at heq
  rw [heq, loop, advance, Scope.next_nil rfl rfl rfl, hroot]
  rfl

end Walk

end ScanDiscovery.Xml
