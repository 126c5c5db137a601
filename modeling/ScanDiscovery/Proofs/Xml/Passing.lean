import ScanDiscovery.Proofs.Xml.Elements
import ScanDiscovery.Proofs.Xml.Insertion
import ScanDiscovery.Proofs.Xml.Script
/-!
# Proofs.Xml.Passing — what a script passes leaves no trace

Where a place in a document stands for a script can be told from the paths of the elements that are open there
(`Script.stands`), and it is where the machine is, if it has come so far (`stands_of_drive`).  Outside the texts of the
script, elements that its section does not look at lead the machine back to the state it was in (`drive_passed`).  So
they can be put in anywhere there, and what the machine does with the document is the same (`play_insert`).
Specification only.
-/
namespace ScanDiscovery.Xml

/-- The paths of the elements that are open behind some events, innermost first, below the open elements with the paths
`stack`.  An element has no path where its name, or that of an element around it, is no text. -/
def Event.openPaths : List (Option Path) → List Event → List (Option Path)
  | stack, [] => stack
  | stack, .start name uri :: es =>
    openPaths (((stack.headD (some [])).bind fun parent => (Content.pathBelow parent name uri).toOption) :: stack) es
  | stack, .finish :: es => openPaths stack.tail es
  | stack, .text _ :: es => openPaths stack es
  | stack, .cdata _ :: es => openPaths stack es

/-- How a place in a document stands for a script. -/
inductive Standing (κ : Type) where
  /-- in a section, at this path, and in no text of it -/
  | within (k : κ) (base : Path)
  /-- in a text, or in an element inside one -/
  | reading
  /-- in an element without a path -/
  | unread
  deriving DecidableEq, Repr

namespace Event

theorem openPaths_cons (stack : List (Option Path)) (e : Event) (es : List Event) :
    openPaths stack (e :: es) = openPaths (openPaths stack [e]) es := by
  cases e <;> rfl

theorem length_openPaths : ∀ (es : List Event) (stack : List (Option Path)) (rooted : Bool),
    (openPaths stack es).length = (es.foldl tally (stack.length, rooted)).1
  | [], _, _ => rfl
  | .start _ _ :: es, stack, _ => length_openPaths es (_ :: stack) true
  | .finish :: es, stack, rooted => by
    rw [openPaths, length_openPaths es stack.tail rooted, List.length_tail]
    rfl
  | .text _ :: es, stack, rooted => length_openPaths es stack rooted
  | .cdata _ :: es, stack, rooted => length_openPaths es stack rooted

theorem begun_withoutTexts (own : Option Path) : ∀ (es : List Event) (inner : List (Option Path)),
    (begun own inner (withoutTexts es)).map Element.path = (begun own inner es).map Element.path
  | [], _ => rfl
  | .start name uri :: es, inner => by
    have hkeep : withoutTexts (.start name uri :: es) = .start name uri :: withoutTexts es := rfl
    rw [hkeep, begun, begun, List.map_cons, List.map_cons, begun_withoutTexts own es]
  | .finish :: _, [] => rfl
  | .finish :: es, _ :: inner => begun_withoutTexts own es inner
  | .text _ :: es, [] => begun_withoutTexts own es []
  | .text _ :: es, p :: inner => begun_withoutTexts own es (p :: inner)
  | .cdata _ :: es, [] => begun_withoutTexts own es []
  | .cdata _ :: es, p :: inner => begun_withoutTexts own es (p :: inner)

end Event

namespace Script

variable {κ τ δ φ ε : Type} (m : Script κ τ δ φ ε)

/-- How the elements with these paths, innermost first, stand for a script. -/
def stands : List (Option Path) → Standing κ
  | [] => .within m.root []
  | path :: outer =>
    match stands outer, path with
    | .within k base, some p =>
      match m.part k (p.drop base.length) with
      | none => .within k base
      | some (.within k) => .within k p
      | some (.text _) => .reading
    | .within _ _, none => .unread
    | .reading, _ => .reading
    | .unread, _ => .unread

theorem stands_reading {path : Option Path} {outer : List (Option Path)} (h : m.stands outer = .reading) :
    m.stands (path :: outer) = .reading := by
  simp only [stands, h]

theorem stands_within {p : Path} {outer : List (Option Path)} {k : κ} {base : Path}
    (h : m.stands outer = .within k base) : m.stands (some p :: outer) =
      match m.part k (p.drop base.length) with
      | none => .within k base
      | some (.within k) => .within k p
      | some (.text _) => .reading := by
  simp only [stands, h]

/-- Whether a script passes all elements of some events, put in where the elements with the paths `outer` are open: in a
section it must look at none of them, and they must have paths. -/
def passes (outer : List (Option Path)) (inserted : List Event) : Bool :=
  match m.stands outer with
  | .within k base =>
    (Event.begun (outer.headD (some [])) [] inserted).all fun e =>
      e.path.any fun p => (m.part k (p.drop base.length)).isNone
  | .reading => false
  | .unread => true

/-- The same of the open elements of a machine. -/
def standing (opened : List (Path × Role κ τ δ)) : Standing κ :=
  match m.place opened with
  | some (k, base) => .within k base
  | none => .reading

/-- The open elements of a machine are those with some paths; inside texts it has paths of its own. -/
inductive Follows : List (Path × Role κ τ δ) → List (Option Path) → Prop
  | nil : Follows [] []
  | cons {p : Path} {role : Role κ τ δ} {opened : List (Path × Role κ τ δ)} {path : Option Path}
      {outer : List (Option Path)} (outside : Follows opened outer)
      (stand : m.stands (path :: outer) = m.standing ((p, role) :: opened))
      (same : m.place ((p, role) :: opened) ≠ none → path = some p) : Follows ((p, role) :: opened) (path :: outer)

namespace Follows

variable {m} {opened : List (Path × Role κ τ δ)} {stack : List (Option Path)}

theorem stands_eq (h : m.Follows opened stack) : m.stands stack = m.standing opened := by
  cases h with
  | nil => rfl
  | cons _ stand _ => exact stand

theorem outside (h : m.Follows opened stack) : m.Follows opened.tail stack.tail := by
  cases h with
  | nil => exact .nil
  | cons outside _ _ => exact outside

theorem length_eq (h : m.Follows opened stack) : opened.length = stack.length := by
  induction h with
  | nil => rfl
  | cons _ _ _ ih => exact congrArg (· + 1) ih

theorem headD_eq (h : m.Follows opened stack) {x : κ × Path} (hplace : m.place opened = some x) :
    stack.headD (some []) = some ((paths opened).headD []) := by
  cases h with
  | nil => rfl
  | cons _ _ same => exact same (by rw [hplace]; exact Option.some_ne_none x)

end Follows

/-- All that an event does to the open elements, unless it is refused. -/
inductive Turned : State κ τ δ → Event → State κ τ δ → Prop
  | inText {st : State κ τ δ} {name : Name} {uri : Option Bytes} (p : Path) (hplace : m.place st.opened = none) :
      Turned st (.start name uri) ⟨(p, .nested) :: st.opened, st.data, true⟩
  | inSection {st : State κ τ δ} {name : Name} {uri : Option Bytes} {k : κ} {base p : Path}
      (hplace : m.place st.opened = some (k, base)) (hp : Content.pathBelow st.path name uri = .ok p) :
      Turned st (.start name uri)
        ⟨(p, (m.begin st.data (m.part k (p.drop base.length))).1) :: st.opened,
          (m.begin st.data (m.part k (p.drop base.length))).2, true⟩
  | finish {st : State κ τ δ} (d : δ) : Turned st .finish ⟨st.opened.tail, d, st.rooted⟩
  | text {st : State κ τ δ} {content : Bytes} : Turned st (.text content) st
  | cdata {st : State κ τ δ} {content : Bytes} : Turned st (.cdata content) st
  | heard {p : Path} {t : τ} {read : List Char} {opened : List (Path × Role κ τ δ)} {d : δ} {rooted : Bool} {e : Event}
      (more : List Char) (he : ∀ stack, Event.openPaths stack [e] = stack) :
      Turned ⟨(p, .text t read) :: opened, d, rooted⟩ e ⟨(p, .text t (read ++ more)) :: opened, d, rooted⟩

theorem turned_of_step {st st' : State κ τ δ} {e : Event} (h : (m.step st e).result = .ok st') :
    m.Turned st e st' := by
  obtain ⟨opened, d, rooted⟩ := st
  cases e with
  | start name uri =>
    rw [step] at h
    cases hplace : m.place opened with
    | none =>
      simp only [hplace] at h
      cases hp : Cursor.enteredPath (State.path ⟨opened, d, rooted⟩) none name with
      | error e => rw [hp] at h; cases h
      | ok p =>
        rw [hp] at h
        cases h
        exact .inText p hplace
    | some x =>
      obtain ⟨k, base⟩ := x
      simp only [hplace] at h
      cases hp : Content.pathBelow (State.path ⟨opened, d, rooted⟩) name uri with
      | error e => rw [hp] at h; cases h
      | ok p =>
        rw [hp] at h
        cases h
        exact .inSection hplace hp
  | finish =>
    rcases opened with _ | ⟨⟨p, role⟩, opened⟩
    · cases h
      exact .finish d
    · cases role with
      | passed => cases h; exact .finish d
      | nested => cases h; exact .finish d
      | text t read =>
        obtain ⟨d', -, h⟩ := Report.andThen_result.1 h
        cases h
        exact .finish d'
      | within k outside =>
        obtain ⟨d', -, h⟩ := Report.andThen_result.1 h
        cases h
        exact .finish d'
  | text content =>
    rcases opened with _ | ⟨⟨p, role⟩, opened⟩
    · cases h
      exact .text
    · cases role with
      | text t read =>
        rw [step] at h
        dsimp only at h
        cases hcs : Cursor.textOf content with
        | error e => rw [hcs] at h; cases h
        | ok cs =>
          rw [hcs] at h
          cases h
          exact .heard cs fun _ => rfl
      | passed => cases h; exact .text
      | nested => cases h; exact .text
      | within k outside => cases h; exact .text
  | cdata content =>
    rcases opened with _ | ⟨⟨p, role⟩, opened⟩
    · cases h
      exact .cdata
    · cases role with
      | text t read => cases h; exact .heard _ fun _ => rfl
      | passed => cases h; exact .cdata
      | nested => cases h; exact .cdata
      | within k outside => cases h; exact .cdata

section

variable {m} {st st' : State κ τ δ} {e : Event} {stack : List (Option Path)}

/-- **What an event opens and closes**, the machine opens and closes. -/
theorem Turned.follows (hturn : m.Turned st e st') (h : m.Follows st.opened stack) :
    m.Follows st'.opened (Event.openPaths stack [e]) := by
  cases hturn with
  | inText p hplace =>
    have hstand : m.stands stack = .reading := by rw [h.stands_eq, standing, hplace]
    exact .cons h (m.stands_reading hstand) fun hsome => absurd rfl hsome
  | @inSection _ name uri k base p hplace hp =>
    have hstand : m.stands stack = .within k base := by rw [h.stands_eq, standing, hplace]
    have hpath : ((stack.headD (some [])).bind fun parent => (Content.pathBelow parent name uri).toOption) = some p := by
      rw [h.headD_eq hplace]
      exact congrArg Except.toOption hp
    rw [Event.openPaths, hpath, Event.openPaths]
    refine .cons h ?_ fun _ => rfl
    rw [m.stands_within hstand]
    rcases m.part k (p.drop base.length) with _ | k' | t
    · show Standing.within k base = m.standing ((p, .passed) :: st.opened)
      rw [standing, place, hplace]
    · rfl
    · rfl
  | finish d => exact h.outside
  | text => exact h
  | cdata => exact h
  | heard more he =>
    rw [he]
    cases h with
    | cons outside stand same => exact .cons outside stand same

theorem Turned.rooted (hturn : m.Turned st e st') (h : st.opened ≠ [] → st.rooted = true) :
    st'.opened ≠ [] → st'.rooted = true := by
  cases hturn with
  | inText p hplace => exact fun _ => rfl
  | inSection hplace hp => exact fun _ => rfl
  | finish d => exact fun hne => h fun hnil => hne (by rw [hnil]; rfl)
  | text => exact h
  | cdata => exact h
  | heard more he => exact fun _ => h (List.cons_ne_nil _ _)

/-- **The machine is where the open elements say.** -/
theorem follows_drive : ∀ (es : List Event) {st : State κ τ δ} {stack : List (Option Path)},
    (m.drive es st).result = .ok st' → m.Follows st.opened stack → (st.opened ≠ [] → st.rooted = true) →
      m.Follows st'.opened (Event.openPaths stack es) ∧ (st'.opened ≠ [] → st'.rooted = true)
  | [], _, _, hdrive, h, hrooted => by
    cases hdrive
    exact ⟨h, hrooted⟩
  | e :: es, _, stack, hdrive, h, hrooted => by
    obtain ⟨mid, hstep, hdrive⟩ := Report.andThen_result.1 hdrive
    have hturn := m.turned_of_step hstep
    rw [Event.openPaths_cons]
    exact follows_drive es hdrive (hturn.follows h) (hturn.rooted hrooted)

end

/-! ## Elements that are passed -/

/-- **Elements that the section does not look at**, begun and ended, lead back to the state before them. -/
theorem drive_passed {k : κ} {base : Path} {opened : List (Path × Role κ τ δ)} (hplace : m.place opened = some (k, base))
    (d : δ) : ∀ (es : List Event) (inside : List Path), Event.Nested inside.length es →
      (es.foldl Event.tally (inside.length, true)).1 = 0 →
      (∀ path ∈ (Event.begun (some ((paths opened).headD [])) (inside.map some) es).map Element.path,
        path.any (fun p => (m.part k (p.drop base.length)).isNone) = true) →
      m.drive es ⟨under .passed inside opened, d, true⟩ = .done ⟨opened, d, true⟩
  | [], inside, _, htally, _ => by
    obtain rfl : inside = [] := List.eq_nil_of_length_eq_zero htally
    rfl
  | .start name uri :: es, inside, hnest, htally, hpassed => by
    have hstate : m.place (under .passed inside opened) = some (k, base) := (place_under inside opened).trans hplace
    have hhead : (inside.map some).headD (some ((paths opened).headD [])) =
        some ((⟨under .passed inside opened, d, true⟩ : State κ τ δ).path) := by
      rw [State.path, paths_under]
      cases inside <;> rfl
    simp only [Event.begun, hhead, Option.bind_some, List.map_cons, List.forall_mem_cons] at hpassed
    obtain ⟨hfirst, hrest⟩ := hpassed
    obtain ⟨p, hp, hnone⟩ := (Option.any_eq_true _ _).1 hfirst
    have hpart : m.part k (p.drop base.length) = none := Option.isNone_iff_eq_none.1 hnone
    have hbelow : Content.pathBelow ((⟨under .passed inside opened, d, true⟩ : State κ τ δ).path) name uri = .ok p :=
      toOption_eq_some.1 hp
    rw [hp] at hrest
    have ih := drive_passed hplace d es (p :: inside) hnest htally hrest
    rw [drive, step, hstate]
    simp only [hbelow, hpart]
    exact ih
  | .finish :: es, [], hnest, _, _ => hnest.elim
  | .finish :: es, q :: inside, hnest, htally, hpassed => drive_passed hplace d es inside hnest htally hpassed
  | .text content :: es, inside, hnest, htally, hpassed => by
    have hstate : m.place (under .passed inside opened) = some (k, base) := (place_under inside opened).trans hplace
    have ih := drive_passed hplace d es inside hnest htally (by cases inside <;> exact hpassed)
    rw [drive, (m.step_text_of_place hstate content).1]
    exact ih
  | .cdata content :: es, inside, hnest, htally, hpassed => by
    have hstate : m.place (under .passed inside opened) = some (k, base) := (place_under inside opened).trans hplace
    have ih := drive_passed hplace d es inside hnest htally (by cases inside <;> exact hpassed)
    rw [drive, (m.step_text_of_place hstate content).2]
    exact ih

theorem play_scrap {st : State κ τ δ} {x : κ × Path} (hplace : m.place st.opened = some x) {short : List Event}
    (h : Scrap Event.text short) (fault : Option Error) (es : List Event) :
    m.play fault (short ++ es) st = m.play fault es st := by
  rcases h with rfl | ⟨content, rfl⟩
  · rfl
  · rw [List.singleton_append, play_cons, (m.step_text_of_place hplace content).1, Report.done_andThen]

variable {beginning bytes : Bytes} {tokens : List Token}

/-- **What is passed can be put in**: the machine does the same with the document and without it. -/
theorem play_insert (hu : Token.before beginning = some tokens)
    (hinert : ∀ before bs names, Event.follow Bindings.initial [] tokens = some (before, bs, names) → names ≠ [] ∧
      ∃ inserted, Event.fragment bs bytes = some inserted ∧ m.passes (Event.openPaths [] before) inserted = true)
    (rest : Bytes) :
    m.play (Event.ofBytes (beginning ++ (bytes ++ rest))).fault (Event.ofBytes (beginning ++ (bytes ++ rest))).items
        m.initial =
      m.play (Event.ofBytes (beginning ++ rest)).fault (Event.ofBytes (beginning ++ rest)).items m.initial := by
  cases hbefore : Event.follow Bindings.initial [] tokens with
  | none => rw [Event.ofBytes_of_fault hu hbefore (bytes ++ rest) rest]
  | some x =>
  obtain ⟨before, bs, names⟩ := x
  obtain ⟨ho, inserted, hw, hpasses⟩ := hinert before bs names hbefore
  obtain ⟨between, short, short', tail, ⟨hsame, hnest, htally⟩, ⟨hshort, hwithout⟩, hshort', hwith⟩ :=
    Event.ofBytes_insert hu hbefore ho hw rest
  rw [hwithout, hwith, play_append, play_append]
  -- where the machine has failed before, what is put in does not matter
  rcases hdrive : m.drive before m.initial with ⟨fs, e | st⟩
  · rfl
  · obtain ⟨hfollows, hrooted⟩ := follows_drive before (congrArg Report.result hdrive) .nil fun h => absurd rfl h
    have hopened : st.opened ≠ [] := fun hnil => by
      have hlength : (Event.openPaths [] before).length = names.length :=
        (Event.length_openPaths before [] true).trans ((Event.follow_tally tokens hbefore).2 true)
      rw [← hfollows.length_eq, hnil] at hlength
      exact ho (List.eq_nil_of_length_eq_zero hlength.symm)
    obtain ⟨opened, d, rooted⟩ := st
    obtain rfl : rooted = true := hrooted hopened
    rw [Report.andThen_ok, Report.andThen_ok]
    congr 1
    cases hplace : m.place opened with
    | none =>
      rw [passes, hfollows.stands_eq, standing, hplace] at hpasses
      cases hpasses
    | some x =>
      obtain ⟨k, base⟩ := x
      rw [passes, hfollows.stands_eq, standing, hplace, hfollows.headD_eq hplace] at hpasses
      dsimp only at hpasses
      have hbetween : m.drive between ⟨opened, d, true⟩ = .done ⟨opened, d, true⟩ := by
        refine m.drive_passed hplace d between [] hnest htally fun path hpath => ?_
        rw [List.map_nil, ← Event.begun_withoutTexts, hsame, Event.begun_withoutTexts] at hpath
        obtain ⟨e, he, rfl⟩ := List.mem_map.1 hpath
        exact List.all_eq_true.1 hpasses e he
      rw [play_append, hbetween, Report.done_andThen, m.play_scrap hplace hshort, m.play_scrap hplace hshort']

end Script

end ScanDiscovery.Xml
