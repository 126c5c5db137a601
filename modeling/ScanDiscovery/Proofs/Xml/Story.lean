import ScanDiscovery.Proofs.Xml.Elements
/-!
# Proofs.Xml.Story — what a scope gives to a client, whatever the client does

A client asks for the next element, and may read or enter the one it was just given; inside, another client does the
same and stops where it likes.  `Story` tells what it was given so far and where it is.  What is left of its scope is
what begins from its cursor on, and that is all it was not given yet: a move to the next element gives the first of it
(`seek_sought`), and reading or entering an element passes over what stands inside (`Going.consume`).  So the scope
gives every element once that is not inside a consumed one (`each_element_once`).  A walk that reads and enters only
what it was just given is such a client (`story_of_run`).  Specification only.
-/
namespace ScanDiscovery.Xml

/-- An element that was given to a client: its path inside the scope, and whether the client has read or entered it. -/
structure Given where
  answer : Path
  element : Element
  consumed : Bool

/-- The element stands inside one that was consumed. -/
def covered (given : List Given) (e : Element) : Bool :=
  given.any fun g => g.consumed && decide (e ∈ g.element.subtree)

/-- What the client of a scope was given, if it has met no error so far, whether the last call gave an element, and
where that has led scope and cursor.  An element is read or entered directly after it was given, if at all. -/
inductive Story : (entry : Cursor) → List Given → (fresh : Bool) → Scope → Cursor → Prop
  | entered (entry : Cursor) : Story entry [] false (.within entry) entry
  | gave {entry : Cursor} {given : List Given} {fresh : Bool} {s s' : Scope} {c c' : Cursor} {path answer : Path}
      (h : Story entry given fresh s c) (hn : s.next c = ⟨.ok (some path), s', c'⟩)
      (hr : s'.relative path = .ok answer) : Story entry (given ++ [⟨answer, ⟨some path, c'.rest⟩, false⟩]) true s' c'
  | ended {entry : Cursor} {given : List Given} {fresh : Bool} {s s' : Scope} {c c' : Cursor}
      (h : Story entry given fresh s c) (hn : s.next c = ⟨.ok none, s', c'⟩) : Story entry given false s' c'
  | read {entry : Cursor} {given : List Given} {s : Scope} {c c' : Cursor} {answer : Path} {e : Element} {t : List Char}
      (h : Story entry (given ++ [⟨answer, e, false⟩]) true s c) (ht : c.readText = (.ok t, c')) :
      Story entry (given ++ [⟨answer, e, true⟩]) false s c'
  | descended {entry : Cursor} {given inner : List Given} {fresh : Bool} {s si : Scope} {c ci : Cursor} {answer : Path}
      {e : Element} (h : Story entry (given ++ [⟨answer, e, false⟩]) true s c) (inside : Story c inner fresh si ci)
      (hs : (si.skip ci).outcome = .ok ()) : Story entry (given ++ [⟨answer, e, true⟩]) false s (si.skip ci).cursor

/-- Where a client may enter a scope: at the beginning of the document, or inside an element that was just given. -/
inductive Entered (document : Bytes) : Cursor → Prop
  | document : Entered document (.ofBytes document)
  | element {entry c : Cursor} {given : List Given} {s : Scope} (h : Entered document entry)
      (story : Story entry given true s c) : Entered document c

/-! ## Moves -/

namespace Cursor

/-- **Reading a text** goes on behind the end of the element. -/
theorem gather_end {depth : Nat} (hdepth : 0 < depth) : ∀ (es : List Event) (read : List Char) (c : Cursor) (n : Nat)
    {t : List Char} {c' : Cursor}, gather depth read es c = (.ok t, c') → c.depth = depth + n →
      Event.behindEnd n es = some c'.rest ∧ c'.opened = c.opened.drop (n + 1)
  | [], _, _, _, _, _, h, _ => by cases h
  | .text x :: es, read, c, n, t, c', h, hd => by
    rw [gather] at h
    split at h
    · cases hx : textOf x with
      | error e => rw [hx] at h; cases h
      | ok cs =>
        rw [hx] at h
        exact gather_end hdepth es _ c n h hd
    · exact gather_end hdepth es _ c n h hd
  | .cdata x :: es, read, c, n, t, c', h, hd => by
    rw [gather] at h
    split at h <;> exact gather_end hdepth es _ c n h hd
  | .start name uri :: es, read, c, n, t, c', h, hd => by
    rw [gather, enter_eq] at h
    cases hp : enteredPath c.path none name with
    | error e => rw [hp] at h; cases h
    | ok p =>
      rw [hp] at h
      have hd' : (c.entered p).depth = depth + (n + 1) := congrArg Nat.succ hd
      exact gather_end hdepth es _ (c.entered p) (n + 1) h hd'
  | .finish :: es, read, c, n, t, c', h, hd => by
    have hl : c.leave.depth = c.depth - 1 := List.length_tail
    rw [gather] at h
    cases n with
    | zero =>
      rw [if_pos (by omega)] at h
      cases h
      exact ⟨rfl, List.drop_one.symm⟩
    | succ n =>
      rw [if_neg (by omega)] at h
      obtain ⟨h1, h2⟩ := gather_end hdepth es _ c.leave n h (by omega)
      exact ⟨h1, by rw [h2, leave, List.drop_tail]⟩

theorem readText_end {c c' : Cursor} {t : List Char} (hd : 0 < c.depth) (h : c.readText = (.ok t, c')) :
    Event.behindEnd 0 c.rest = some c'.rest ∧ c'.opened = c.opened.tail := by
  have hend := gather_end hd c.rest [] c 0 h rfl
  rwa [List.drop_one] at hend

end Cursor

namespace Scope

/-- **Passing over what is left** of an element's scope goes on behind the end of the element. -/
theorem skipFrom_end {s : Scope} (hs : 0 < s.depth) : ∀ (es : List Event) (c : Cursor) (n : Nat),
    (s.skipFrom es c).outcome = .ok () → c.depth = s.depth + n →
      Event.behindEnd n es = some (s.skipFrom es c).cursor.rest ∧
        (s.skipFrom es c).cursor.opened = c.opened.drop (n + 1)
  | [], c, n, h, _ => by
    rw [skipFrom] at h
    cases hf : c.fault with
    | some e => rw [hf] at h; cases h
    | none =>
      rw [hf] at h
      have h0 := (atEnd_ok_iff.1 h).1
      omega
  | .start name uri :: es, c, n, h, hd => by
    rw [skipFrom, Cursor.enter_eq] at h ⊢
    cases hp : Cursor.enteredPath c.path (uri.bind Vocabulary.prefixOf?) name with
    | error e => rw [hp] at h; cases h
    | ok p =>
      rw [hp] at h
      have hd' : (c.entered p).depth = s.depth + (n + 1) := congrArg Nat.succ hd
      simp only [Except.map] at h ⊢
      split at h
      · exact skipFrom_end hs es (c.entered p) (n + 1) h hd'
      · cases h
  | .finish :: es, c, n, h, hd => by
    have hl : c.leave.depth = c.depth - 1 := List.length_tail
    rw [skipFrom] at h ⊢
    cases n with
    | zero =>
      rw [if_pos (by omega)]
      exact ⟨rfl, List.drop_one.symm⟩
    | succ n =>
      rw [if_neg (by omega)] at h ⊢
      obtain ⟨h1, h2⟩ := skipFrom_end hs es c.leave n h (by omega)
      exact ⟨h1, by rw [h2, Cursor.leave, List.drop_tail]⟩
  | .text _ :: es, c, n, h, hd => skipFrom_end hs es c n h hd
  | .cdata _ :: es, c, n, h, hd => skipFrom_end hs es c n h hd

/-- What is said at the end of a document: its fault, or else whether its elements are closed, and whether there was
one.  `path` is that of the innermost element that is open. -/
def lastAnswer (path : Path) : Option Error → Nat × Bool → Except Error (Option Path)
  | some fault, _ => .error fault
  | none, (_ + 1, _) => .error (.unexpectedEnd path)
  | none, (0, true) => .ok none
  | none, (0, false) => .error .missingRoot

theorem lastAnswer_ne_some (path : Path) (fault : Option Error) (outlook : Nat × Bool) (p : Path) :
    lastAnswer path fault outlook ≠ .ok (some p) := by
  unfold lastAnswer
  split <;> exact fun h => by cases h

theorem lastAnswer_eq_none {path : Path} {fault : Option Error} {outlook : Nat × Bool} :
    lastAnswer path fault outlook = .ok none ↔ fault = none ∧ outlook = (0, true) := by
  unfold lastAnswer
  split <;> simp

/-- What a move to the next element comes to, by what is left of the scope that was entered at `entry`: the elements,
and the events behind its end.  The document is at fault behind its events, or not, had an element before the move, or
not, and leaves elements open at its end as `outlook` says. -/
inductive Sought (entry : Cursor) (s : Scope) (fault : Option Error) (rooted : Bool) (outlook : Nat × Bool) :
    List Element → Option (List Event) → Moved (Option Path) → Prop
  | gave (p : Path) (inner : List Path) (es : List Event) :
      Sought entry s fault rooted outlook (⟨some p, es⟩ :: Event.begun (some entry.path) (some p :: inner.map some) es)
        (Event.behindEnd (inner.length + 1) es) ⟨.ok (some p), s, ⟨es, fault, p :: (inner ++ entry.opened), true⟩⟩
  | nameless {es : List Event} {left : List Element} {ends : Option (List Event)} {unread : Utf8.Fault}
      {m : Moved (Option Path)} (h : m.outcome = .error (.name unread)) :
      Sought entry s fault rooted outlook (⟨none, es⟩ :: left) ends m
  | closed (es : List Event) : Sought entry s fault rooted outlook [] (some es)
      ⟨.ok none, { s with finished := true }, ⟨es, fault, entry.opened.tail, rooted⟩⟩
  | lasted (inner : List Path) {s' : Scope} (hs : fault = none → s' = { s with finished := true })
      (ho : outlook = ((inner ++ entry.opened).length, rooted)) :
      Sought entry s fault rooted outlook [] none
        ⟨lastAnswer ((inner ++ entry.opened).headD []) fault outlook, s', ⟨[], fault, inner ++ entry.opened, rooted⟩⟩

theorem nameParts_error {known : Option String} {name : Name} {e : Error} (h : Cursor.nameParts known name = .error e) :
    ∃ fault, e = .name fault := by
  have htext : ∀ bs, Cursor.nameText bs = .error e → ∃ fault, e = .name fault := by
    intro bs hbs
    unfold Cursor.nameText at hbs
    cases hd : Utf8.decode bs with
    | error fault =>
      rw [hd] at hbs
      cases hbs
      exact ⟨fault, rfl⟩
    | ok cs => rw [hd] at hbs; cases hbs
  unfold Cursor.nameParts at h
  cases hl : Cursor.nameText name.localPart with
  | error e' =>
    rw [hl] at h
    cases h
    exact htext _ hl
  | ok localPart =>
    rw [hl] at h
    cases known with
    | some p => cases h
    | none =>
      cases hq : name.qualifier with
      | none => rw [hq] at h; cases h
      | some q =>
        rw [hq] at h
        cases hn : Cursor.nameText q with
        | error e' =>
          simp only [hn] at h
          cases h
          exact htext _ hn
        | ok cs => simp only [hn] at h; cases h

/-- Where the events are used up, the answer is the last one of the document. -/
theorem seek_nil {entry : Cursor} {s : Scope} (hd : s.depth = entry.depth) {inner : List Path} {c : Cursor}
    (ho : c.opened = inner ++ entry.opened) :
    Sought entry s c.fault c.rooted (c.depth, c.rooted) [] none (s.seek [] c) := by
  have hle : s.depth ≤ c.depth := by
    rw [hd, Cursor.depth, Cursor.depth, ho, List.length_append]
    exact Nat.le_add_left _ _
  have hanswer : lastAnswer c.path none (c.depth, c.rooted) = (s.atEnd c).map fun _ => none := by
    unfold atEnd
    cases hdepth : c.depth with
    | succ n =>
      rw [if_pos (by simp)]
      rfl
    | zero =>
      rw [if_neg (by simp; omega)]
      cases c.rooted <;> rfl
  obtain ⟨rest, fault, opened, rooted⟩ := c
  obtain rfl : opened = inner ++ entry.opened := ho
  rw [seek]
  cases fault with
  | some e => exact .lasted inner (fun h => by cases h) rfl
  | none =>
    dsimp only
    rw [← hanswer]
    exact .lasted inner (fun _ => rfl) rfl

/-- **A move to the next element** gives the first that is left, and else finds the end of the scope. -/
theorem seek_sought {entry : Cursor} {s : Scope} (hd : s.depth = entry.depth) : ∀ (es : List Event) (inner : List Path)
    (c : Cursor), c.opened = inner ++ entry.opened →
      Sought entry s c.fault c.rooted (es.foldl Event.tally (c.depth, c.rooted))
        (Event.begun (some entry.path) (inner.map some) es) (Event.behindEnd inner.length es) (s.seek es c)
  | [], inner, c, ho => seek_nil hd ho
  | .start name uri :: es, inner, c, ho => by
    have hpath : (inner.map some).headD (some entry.path) = some c.path := by
      rw [show c.path = c.opened.headD [] from rfl, ho]
      cases inner <;> rfl
    rw [seek, Cursor.enter_eq]
    simp only [Event.begun, hpath, Option.bind_some, Event.behindEnd, Content.pathBelow]
    cases hp : Cursor.enteredPath c.path (uri.bind Vocabulary.prefixOf?) name with
    | error e =>
      rw [Cursor.enteredPath_eq] at hp
      cases hn : Cursor.nameParts (uri.bind Vocabulary.prefixOf?) name with
      | ok n => rw [hn] at hp; cases hp
      | error e' =>
        rw [hn] at hp
        cases hp
        obtain ⟨unread, rfl⟩ := nameParts_error hn
        exact .nameless rfl
    | ok p =>
      have hgave : ∀ outlook, Sought entry s c.fault c.rooted outlook
          (⟨some p, es⟩ :: Event.begun (some entry.path) (some p :: inner.map some) es)
          (Event.behindEnd (inner.length + 1) es) ⟨.ok (some p), s, ⟨es, c.fault, p :: (inner ++ entry.opened), true⟩⟩ :=
        fun _ => .gave p inner es
      rw [← ho] at hgave
      exact hgave _
  | .finish :: es, [], c, ho => by
    have hdepth : c.depth = s.depth := by rw [hd, Cursor.depth, ho]; rfl
    have hleave : c.leave.opened = entry.opened.tail := by rw [Cursor.leave, ho]; rfl
    have hclosed : ∀ outlook, Sought entry s c.fault c.rooted outlook [] (some es)
        ⟨.ok none, { s with finished := true }, ⟨es, c.fault, entry.opened.tail, c.rooted⟩⟩ := fun _ => .closed es
    rw [← hleave] at hclosed
    rw [seek, if_pos hdepth]
    exact hclosed _
  | .finish :: es, p :: inner, c, ho => by
    have hdepth : c.depth ≠ s.depth := by
      rw [hd, Cursor.depth, ho, Cursor.depth]
      simp only [List.length_cons, List.length_append, List.cons_append]
      omega
    have hleave : c.leave.depth = c.depth - 1 := List.length_tail
    have ih := seek_sought hd es inner c.leave (by rw [Cursor.leave, ho]; rfl)
    rw [hleave] at ih
    rw [seek, if_neg hdepth]
    exact ih
  | .text _ :: es, inner, c, ho => seek_sought hd es inner c ho
  | .cdata _ :: es, inner, c, ho => seek_sought hd es inner c ho

end Scope

/-! ## What is left of a scope -/

/-- The element that the cursor has just entered, or the document that it is at the beginning of. -/
def Cursor.own (c : Cursor) : Element := ⟨some c.path, c.rest⟩

theorem covered_append (given : List Given) (g : Given) (e : Element) :
    covered (given ++ [g]) e = (covered given e || g.consumed && decide (e ∈ g.element.subtree)) := by
  simp only [covered, List.any_append, List.any_cons, List.any_nil, Bool.or_false]

theorem covered_fresh (given : List Given) (answer : Path) (e x : Element) :
    covered (given ++ [⟨answer, e, false⟩]) x = covered given x := by
  rw [covered_append, Bool.false_and, Bool.or_false]

theorem covered_eq_false {given : List Given} {e : Element}
    (h : ∀ g ∈ given, g.consumed = true → e ∉ g.element.subtree) : covered given e = false := by
  refine List.any_eq_false.2 fun g hg => ?_
  simp only [Bool.and_eq_true, decide_eq_true_eq, not_and]
  exact h g hg

/-- A story that has not come to the end of its scope.  Inside the scope the elements at the paths `inner` are open, and
`past` are those that began in it before the cursor; what is left begins from the cursor on. -/
structure Going (entry : Cursor) (given : List Given) (c : Cursor) (inner : List Path) (past : List Element) : Prop where
  opened : c.opened = inner ++ entry.opened
  ends : Event.behindEnd inner.length c.rest = Event.behindEnd 0 entry.rest
  subtree : entry.own.subtree = past ++ Event.begun (some entry.path) (inner.map some) c.rest
  accounted : past.filter (fun e => !covered given e) = given.map (·.element)
  passed : ∀ e ∈ past, c.rest.length ≤ e.behind.length
  spent : ∀ g ∈ given, g.consumed = true → ∀ x ∈ g.element.subtree, c.rest.length < x.behind.length

namespace Going

variable {entry c : Cursor} {given : List Given} {inner : List Path} {past : List Element}

theorem entered (entry : Cursor) : Going entry [] entry [] [] where
  opened := rfl
  ends := rfl
  subtree := rfl
  accounted := rfl
  passed _ h := absurd h List.not_mem_nil
  spent _ h := absurd h List.not_mem_nil

/-- Nothing of what is left stands in an element that was consumed. -/
theorem not_covered (h : Going entry given c inner past) {e : Element} (he : e.behind.length ≤ c.rest.length) :
    covered given e = false :=
  covered_eq_false fun g hg hc hx => absurd (h.spent g hg hc e hx) (Nat.not_lt.2 he)

theorem left_not_covered (h : Going entry given c inner past) :
    (Event.begun (some entry.path) (inner.map some) c.rest).filter (fun e => !covered given e) =
      Event.begun (some entry.path) (inner.map some) c.rest := by
  refine List.filter_eq_self.2 fun e he => ?_
  rw [h.not_covered (Nat.le_of_lt (Event.begun_lt _ e he))]
  rfl

/-- **What was given and what is left** are the elements that stand in no consumed one. -/
theorem filter_subtree (h : Going entry given c inner past) :
    entry.own.subtree.filter (fun e => !covered given e) =
      given.map (·.element) ++ Event.begun (some entry.path) (inner.map some) c.rest := by
  rw [h.subtree, List.filter_append, h.accounted, h.left_not_covered]

theorem gave (h : Going entry given c inner past) {p answer : Path} {inner' : List Path} {es : List Event}
    {fault : Option Error} {rooted : Bool}
    (hleft : Event.begun (some entry.path) (inner.map some) c.rest =
      ⟨some p, es⟩ :: Event.begun (some entry.path) (some p :: inner'.map some) es)
    (hends : Event.behindEnd inner.length c.rest = Event.behindEnd (inner'.length + 1) es) :
    Going entry (given ++ [⟨answer, ⟨some p, es⟩, false⟩]) ⟨es, fault, p :: (inner' ++ entry.opened), rooted⟩
      (p :: inner') (past ++ [⟨some p, es⟩]) := by
  have hlt : es.length < c.rest.length := by
    have hmem : (⟨some p, es⟩ : Element) ∈ Event.begun (some entry.path) (inner.map some) c.rest := by
      rw [hleft]
      exact List.mem_cons_self
    exact Event.begun_lt _ _ hmem
  constructor
  · rfl
  · rw [← h.ends, hends]
    rfl
  · rw [h.subtree, hleft, List.append_assoc]
    rfl
  · simp only [covered_fresh, List.filter_append, h.accounted, List.map_append]
    have hnew : covered given ⟨some p, es⟩ = false := h.not_covered (Nat.le_of_lt hlt)
    simp only [List.filter_cons, hnew, Bool.not_false, if_true, List.filter_nil, List.map_cons, List.map_nil]
  · intro e he
    rcases List.mem_append.1 he with he | he
    · exact Nat.le_of_lt (Nat.lt_of_lt_of_le hlt (h.passed e he))
    · exact Nat.le_of_eq (by rw [List.mem_singleton.1 he])
  · intro g hg hc x hx
    rcases List.mem_append.1 hg with hg | hg
    · exact Nat.lt_trans hlt (h.spent g hg hc x hx)
    · rw [List.mem_singleton.1 hg] at hc
      cases hc

/-- **The element just given is consumed**: what stands in it is past, and was not given. -/
theorem consume {answer : Path} (h : Going entry (given ++ [⟨answer, c.own, false⟩]) c inner past)
    (hdepth : entry.depth < c.depth) {c' : Cursor} (hend : Event.behindEnd 0 c.rest = some c'.rest)
    (ho : c'.opened = c.opened.tail) :
    ∃ inner', Going entry (given ++ [⟨answer, c.own, true⟩]) c' inner' (past ++ c.own.subtree) := by
  obtain ⟨p, inner', rfl⟩ : ∃ p inner', inner = p :: inner' := by
    refine List.exists_cons_of_ne_nil fun hnil => ?_
    rw [Cursor.depth, Cursor.depth, h.opened, hnil] at hdepth
    exact Nat.lt_irrefl _ hdepth
  have hpath : c.path = p := by rw [Cursor.path, h.opened]; rfl
  have hlt : c'.rest.length < c.rest.length := Event.behindEnd_lt _ hend
  have hinside : ∀ x ∈ c.own.subtree, c'.rest.length < x.behind.length := Event.lt_of_begun _ hend
  have hpast : ∀ e ∈ past, e ∉ c.own.subtree := fun e he hx =>
    absurd (Element.lt_of_mem_subtree hx) (Nat.not_lt.2 (h.passed e he))
  have hsplit : Event.begun (some entry.path) ((p :: inner').map some) c.rest =
      c.own.subtree ++ Event.begun (some entry.path) (inner'.map some) c'.rest := by
    rw [Element.subtree, Cursor.own, hpath]
    exact Event.begun_append _ [] hend
  refine ⟨inner', ?_, ?_, ?_, ?_, ?_, ?_⟩
  · rw [ho, h.opened]
    rfl
  · rw [← h.ends, ← Event.behindEnd_add _ hend, Nat.zero_add]
    rfl
  · rw [h.subtree, hsplit, List.append_assoc]
  · have hacc : past.filter (fun e => !covered given e) = given.map (·.element) ++ [c.own] := by
      have hbefore := h.accounted
      simp only [covered_fresh] at hbefore
      rw [hbefore, List.map_append]
      rfl
    have hkeep : past.filter (fun e => !covered (given ++ [⟨answer, c.own, true⟩]) e) =
        past.filter (fun e => !covered given e) := List.filter_congr fun e he => by
      rw [covered_append, decide_eq_false (hpast e he), Bool.and_false, Bool.or_false]
    have hdrop : c.own.subtree.filter (fun e => !covered (given ++ [⟨answer, c.own, true⟩]) e) = [] := by
      refine List.filter_eq_nil_iff.2 fun x hx => ?_
      rw [covered_append, decide_eq_true hx]
      simp
    rw [List.filter_append, hkeep, hdrop, List.append_nil, hacc, List.map_append]
    rfl
  · intro e he
    rcases List.mem_append.1 he with he | he
    · exact Nat.le_of_lt (Nat.lt_of_lt_of_le hlt (h.passed e he))
    · exact Nat.le_of_lt (hinside e he)
  · intro g hg hc x hx
    rcases List.mem_append.1 hg with hg | hg
    · exact Nat.lt_trans hlt (h.spent g (List.mem_append_left _ hg) hc x hx)
    · rw [List.mem_singleton.1 hg] at hx
      exact hinside x hx

end Going

/-! ## Stories -/

/-- **What every story keeps.**  Once the scope is at its end, the cursor is behind the end of its element; the scope of
a document ends where the document does. -/
structure Kept (entry : Cursor) (given : List Given) (fresh : Bool) (s : Scope) (c : Cursor) : Prop where
  depth : s.depth = entry.depth
  skipped : s.skipped = entry.path.size
  leads : entry.Leads c
  answers : ∀ g ∈ given, g.element.path = some (entry.path ++ g.answer)
  going : s.finished = false → ∃ inner past, Going entry given c inner past
  accounted : s.finished = true → entry.own.subtree.filter (fun e => !covered given e) = given.map (·.element)
  left : s.finished = true → c.opened = entry.opened.tail ∧
    (Event.behindEnd 0 entry.rest = some c.rest ∨
      entry.depth = 0 ∧ Event.behindEnd 0 entry.rest = none ∧ c.rest = [])
  fresh : fresh = true → s.finished = false ∧ entry.depth < c.depth ∧
    ∃ before answer, given = before ++ [⟨answer, c.own, false⟩]

/-- Paths of elements inside another begin with the path of that. -/
theorem Event.path_of_begun {base : Path} : ∀ (es : List Event) {inner : List (Option Path)},
    (∀ q, some q ∈ inner → base <+: q) → ∀ e ∈ begun (some base) inner es, ∀ p, e.path = some p → base <+: p
  | [], _, _, _, he, _, _ => absurd he List.not_mem_nil
  | .start name uri :: es, inner, hi, e, he, p, hp => by
    have hparent : ∀ q, inner.headD (some base) = some q → base <+: q := by
      intro q hq
      cases inner with
      | nil =>
        cases hq
        exact List.prefix_refl _
      | cons r inner => exact hi q (by rw [← hq]; exact List.mem_cons_self)
    have hpath : ∀ q, ((inner.headD (some base)).bind fun parent => (Content.pathBelow parent name uri).toOption) =
        some q → base <+: q := by
      intro q hq
      obtain ⟨parent, hpar, hbelow⟩ := Option.bind_eq_some_iff.1 hq
      obtain ⟨rel, hrel⟩ := hparent parent hpar
      obtain ⟨rel', hrel'⟩ := Walk.pathBelow_append hrel.symm (toOption_eq_some.1 hbelow)
      exact ⟨rel', hrel'.symm⟩
    rcases List.mem_cons.1 he with rfl | he
    · exact hpath p hp
    · refine path_of_begun es (fun q hq => ?_) e he p hp
      rcases List.mem_cons.1 hq with hq | hq
      · exact hpath q hq.symm
      · exact hi q hq
  | .finish :: _, [], _, _, he, _, _ => absurd he List.not_mem_nil
  | .finish :: es, _ :: _, hi, e, he, p, hp =>
    path_of_begun es (fun q hq => hi q (List.mem_cons_of_mem _ hq)) e he p hp
  | .text _ :: es, _, hi, e, he, p, hp => path_of_begun es hi e he p hp
  | .cdata _ :: es, _, hi, e, he, p, hp => path_of_begun es hi e he p hp

namespace Kept

variable {entry c : Cursor} {given : List Given} {fresh : Bool} {s : Scope}

theorem entered (entry : Cursor) : Kept entry [] false (.within entry) entry where
  depth := rfl
  skipped := rfl
  leads := .refl entry
  answers _ h := absurd h List.not_mem_nil
  going _ := ⟨[], [], .entered entry⟩
  accounted h := by cases h
  left h := by cases h
  fresh h := by cases h

theorem sought (h : Kept entry given fresh s c) {inner : List Path} {past : List Element} (hf : s.finished = false)
    (hg : Going entry given c inner past) :
    s.Sought entry c.fault c.rooted c.outlook (Event.begun (some entry.path) (inner.map some) c.rest)
      (Event.behindEnd inner.length c.rest) (s.next c) := by
  rw [Scope.next_eq_seek hf]
  exact Scope.seek_sought h.depth c.rest inner c hg.opened

theorem gave (h : Kept entry given fresh s c) {s' : Scope} {c' : Cursor} {path answer : Path}
    (hn : s.next c = ⟨.ok (some path), s', c'⟩) (hr : s'.relative path = .ok answer) :
    Kept entry (given ++ [⟨answer, ⟨some path, c'.rest⟩, false⟩]) true s' c' := by
  have hf : s.finished = false := by
    cases hfin : s.finished with
    | false => rfl
    | true =>
      rw [Scope.next, if_pos hfin] at hn
      cases hn
  obtain ⟨inner, past, hg⟩ := h.going hf
  have hm := h.sought hf hg
  have hleads := (Scope.next_advances hn).1.leads
  rw [hn] at hm
  generalize hl : Event.begun (some entry.path) (inner.map some) c.rest = left at hm
  generalize he : Event.behindEnd inner.length c.rest = ends at hm
  generalize hmoved : (⟨.ok (some path), s', c'⟩ : Scope.Moved (Option Path)) = m at hm
  cases hm with
  | nameless h =>
    rw [← hmoved] at h
    cases h
  | closed es => cases hmoved
  | lasted inner hs ho => exact absurd (congrArg Scope.Moved.outcome hmoved).symm (Scope.lastAnswer_ne_some _ _ _ _)
  | gave p inner' es =>
    cases hmoved
    have hg' : Going entry (given ++ [⟨answer, ⟨some path, es⟩, false⟩])
        ⟨es, c.fault, path :: (inner' ++ entry.opened), true⟩ (path :: inner') (past ++ [⟨some path, es⟩]) := hg.gave hl he
    have hmem : (⟨some path, es⟩ : Element) ∈ entry.own.subtree := by
      rw [hg'.subtree]
      simp
    obtain ⟨rel, rfl⟩ := Event.path_of_begun _ (fun q hq => absurd hq List.not_mem_nil) _ hmem path rfl
    have hrel : answer = rel := by
      rw [Scope.relative_append h.skipped] at hr
      exact (Except.ok.inj hr).symm
    refine ⟨h.depth, h.skipped, h.leads.trans hleads, fun g hgiven => ?_, fun _ => ⟨_, _, hg'⟩, ?_, ?_, fun _ => ?_⟩
    · rcases List.mem_append.1 hgiven with hgiven | hgiven
      · exact h.answers g hgiven
      · rw [List.mem_singleton.1 hgiven, hrel]
    · rw [hf]
      intro h
      cases h
    · rw [hf]
      intro h
      cases h
    · refine ⟨hf, ?_, given, answer, rfl⟩
      simp only [Cursor.depth, List.length_cons, List.length_append]
      omega

theorem ended (h : Kept entry given fresh s c) {s' : Scope} {c' : Cursor} (hn : s.next c = ⟨.ok none, s', c'⟩) :
    Kept entry given false s' c' := by
  cases hf : s.finished with
  | true =>
    rw [Scope.next, if_pos hf] at hn
    cases hn
    exact { h with fresh := fun hfresh => by cases hfresh }
  | false =>
    obtain ⟨inner, past, hg⟩ := h.going hf
    have hm := h.sought hf hg
    obtain ⟨hadv, hfin, -⟩ := Scope.next_advances hn
    have hfin' : s'.finished = true := hfin rfl
    have hfilter := hg.filter_subtree
    have hends := hg.ends
    rw [hn] at hm
    generalize hl : Event.begun (some entry.path) (inner.map some) c.rest = left at hm hfilter
    generalize he : Event.behindEnd inner.length c.rest = ends at hm hends
    generalize hmoved : (⟨.ok none, s', c'⟩ : Scope.Moved (Option Path)) = m at hm
    -- the scope and the end of its element are all that is left to tell
    have kept : left = [] → (c'.opened = entry.opened.tail ∧ (Event.behindEnd 0 entry.rest = some c'.rest ∨
        entry.depth = 0 ∧ Event.behindEnd 0 entry.rest = none ∧ c'.rest = [])) → Kept entry given false s' c' := by
      intro hleft hplace
      rw [hleft, List.append_nil] at hfilter
      refine ⟨hadv.depth.trans h.depth, hadv.skipped.trans h.skipped, h.leads.trans hadv.leads, h.answers,
        fun hgo => absurd (hfin'.symm.trans hgo) (by decide), fun _ => hfilter, fun _ => hplace, fun hfresh => ?_⟩
      cases hfresh
    cases hm with
    | nameless h =>
      rw [← hmoved] at h
      cases h
    | gave p inner' es => cases hmoved
    | closed es =>
      cases hmoved
      exact kept rfl ⟨rfl, .inl hends.symm⟩
    | lasted inner' hs ho =>
      have hlast := (congrArg Scope.Moved.outcome hmoved).symm
      have hc' : c' = ⟨[], c.fault, inner' ++ entry.opened, c.rooted⟩ := congrArg Scope.Moved.cursor hmoved
      obtain ⟨-, houtlook⟩ := Scope.lastAnswer_eq_none.1 hlast
      have hnil : inner' ++ entry.opened = [] :=
        List.eq_nil_of_length_eq_zero (congrArg Prod.fst (ho.symm.trans houtlook))
      obtain ⟨-, hentry⟩ := List.append_eq_nil_iff.1 hnil
      refine kept rfl ⟨?_, .inr ⟨congrArg List.length hentry, hends.symm, ?_⟩⟩
      · rw [hc', hnil, hentry]
        rfl
      · rw [hc']

/-- **The end of an element is found from wherever its scope was left.** -/
theorem skip_end (h : Kept entry given fresh s c) (hd : 0 < entry.depth) (hs : (s.skip c).outcome = .ok ()) :
    Event.behindEnd 0 entry.rest = some (s.skip c).cursor.rest ∧ (s.skip c).cursor.opened = entry.opened.tail := by
  rw [Scope.skip] at hs ⊢
  cases hf : s.finished with
  | true =>
    obtain ⟨ho, hrest | ⟨h0, -⟩⟩ := h.left hf
    · exact ⟨hrest, ho⟩
    · omega
  | false =>
    obtain ⟨inner, past, hg⟩ := h.going hf
    rw [hf, if_neg Bool.false_ne_true] at hs
    have hdepth : c.depth = s.depth + inner.length := by
      rw [Cursor.depth, hg.opened, List.length_append, h.depth, Nat.add_comm, Cursor.depth]
    obtain ⟨hend, ho⟩ := Scope.skipFrom_end (by rw [h.depth]; exact hd) c.rest c inner.length hs hdepth
    refine ⟨hg.ends.symm.trans hend, ho.trans ?_⟩
    rw [hg.opened, ← List.tail_drop, List.drop_left]

theorem consume {answer : Path} {e : Element} (h : Kept entry (given ++ [⟨answer, e, false⟩]) true s c) {c' : Cursor}
    (hend : Event.behindEnd 0 c.rest = some c'.rest) (ho : c'.opened = c.opened.tail) (hleads : c.Leads c') :
    Kept entry (given ++ [⟨answer, e, true⟩]) false s c' := by
  obtain ⟨hf, hdepth, before, answer', hgiven⟩ := h.fresh rfl
  obtain ⟨rfl, hlast⟩ := List.append_inj' hgiven rfl
  cases hlast
  obtain ⟨inner, past, hg⟩ := h.going hf
  obtain ⟨inner', hg'⟩ := hg.consume hdepth hend ho
  refine ⟨h.depth, h.skipped, h.leads.trans hleads, fun g hmem => ?_, fun _ => ⟨inner', _, hg'⟩, ?_, ?_, fun hfresh => ?_⟩
  · rcases List.mem_append.1 hmem with hmem | hmem
    · exact h.answers g (List.mem_append_left _ hmem)
    · rw [List.mem_singleton.1 hmem]
      exact h.answers ⟨answer, c.own, false⟩ (List.mem_append_right _ (List.mem_singleton.2 rfl))
  · rw [hf]
    intro h
    cases h
  · rw [hf]
    intro h
    cases h
  · cases hfresh

end Kept

theorem Story.kept {entry : Cursor} {given : List Given} {fresh : Bool} {s : Scope} {c : Cursor}
    (h : Story entry given fresh s c) : Kept entry given fresh s c := by
  induction h with
  | entered entry => exact .entered entry
  | gave _ hn hr ih => exact ih.gave hn hr
  | ended _ hn ih => exact ih.ended hn
  | read _ ht ih =>
    have hdepth := (ih.fresh rfl).2.1
    obtain ⟨hend, ho⟩ := Cursor.readText_end (Nat.zero_lt_of_lt hdepth) ht
    exact ih.consume hend ho (Cursor.readText_leads ht)
  | descended _ _ hs ih ihInside =>
    have hdepth := (ih.fresh rfl).2.1
    obtain ⟨hend, ho⟩ := ihInside.skip_end (Nat.zero_lt_of_lt hdepth) hs
    exact ih.consume hend ho (ihInside.leads.trans (Scope.skip_leads hs))

/-! ## Every element once -/

namespace Entered

variable {document : Bytes} {entry : Cursor}

theorem leads (h : Entered document entry) : (Cursor.ofBytes document).Leads entry := by
  induction h with
  | document => exact .refl _
  | element _ story ih => exact ih.trans story.kept.leads

/-- A scope that is not the document's was entered inside an element. -/
theorem eq_ofBytes_of_depth (h : Entered document entry) (hd : entry.depth = 0) : entry = .ofBytes document := by
  cases h with
  | document => rfl
  | element _ story =>
    have hlt := (story.kept.fresh rfl).2.1
    omega

/-- **A scope is entered on the document or on one of its elements.** -/
theorem own_mem (h : Entered document entry) :
    entry = .ofBytes document ∨ entry.own ∈ (Element.ofBytes document).subtree := by
  induction h with
  | document => exact .inl rfl
  | @element outer c given s _ story ih =>
    obtain ⟨hf, -, before, answer, hgiven⟩ := story.kept.fresh rfl
    obtain ⟨inner, past, hg⟩ := story.kept.going hf
    have hmem : c.own ∈ given.map (·.element) := by
      rw [hgiven]
      exact List.mem_map.2 ⟨_, List.mem_append_right _ (List.mem_singleton.2 rfl), rfl⟩
    have hsub : c.own ∈ outer.own.subtree := by
      rw [← hg.accounted] at hmem
      rw [hg.subtree]
      exact List.mem_append_left _ ((List.mem_filter.1 hmem).1)
    rcases ih with rfl | ih
    · exact .inr hsub
    · exact .inr (Element.mem_begun_of_subtree _ ih hsub)

end Entered

/-- What the next call comes to in a scope that is not at its end, where `left` are the elements still to be given.
Behind the last one it is the end of the scope's element that is found, or the end of the document. -/
def Due (document : Bytes) (entry : Cursor) (m : Scope.Moved (Option Path)) (left : List Element) : Prop :=
  match left, Event.behindEnd 0 entry.rest with
  | e :: _, _ => match e.path with
    | some path => ∃ answer, m.outcome = .ok (some path) ∧ m.scope.relative path = .ok answer ∧
        path = entry.path ++ answer ∧ m.cursor.own = e
    | none => ∃ unread, m.outcome = .error (.name unread)
  | [], some es => m.outcome = .ok none ∧ m.cursor.rest = es
  | [], none => m.cursor.rest = [] ∧ (m.outcome = .ok none → entry = .ofBytes document) ∧
      ∃ path, m.outcome = Scope.lastAnswer path (Event.ofBytes document).fault
        ((Event.ofBytes document).items.foldl Event.tally (0, false))

theorem Kept.due {document : Bytes} {entry c : Cursor} {given : List Given} {fresh : Bool} {s : Scope}
    {inner : List Path} {past : List Element} (he : Entered document entry) (h : Kept entry given fresh s c)
    (hf : s.finished = false) (hg : Going entry given c inner past) :
    Due document entry (s.next c) (Event.begun (some entry.path) (inner.map some) c.rest) := by
  have hm := h.sought hf hg
  have hleads := he.leads.trans h.leads
  have hsub := hg.subtree
  unfold Due
  rw [← hg.ends]
  generalize hl : Event.begun (some entry.path) (inner.map some) c.rest = left at hm hsub
  generalize hends : Event.behindEnd inner.length c.rest = ends at hm
  generalize hmoved : s.next c = m at hm
  cases hm with
  | nameless h => exact ⟨_, h⟩
  | closed es => exact ⟨rfl, rfl⟩
  | gave p inner' es =>
    have hmem : (⟨some p, es⟩ : Element) ∈ entry.own.subtree := by
      rw [hsub]
      exact List.mem_append_right _ List.mem_cons_self
    obtain ⟨answer, rfl⟩ := Event.path_of_begun _ (fun q hq => absurd hq List.not_mem_nil) _ hmem p rfl
    exact ⟨answer, rfl, Scope.relative_append h.skipped answer, rfl, rfl⟩
  | lasted inner' hs ho =>
    refine ⟨rfl, fun hlast => ?_, (inner' ++ entry.opened).headD [], ?_⟩
    · obtain ⟨-, houtlook⟩ := Scope.lastAnswer_eq_none.1 hlast
      have hnil : inner' ++ entry.opened = [] :=
        List.eq_nil_of_length_eq_zero (congrArg Prod.fst (ho.symm.trans houtlook))
      exact he.eq_ofBytes_of_depth (congrArg List.length (List.append_eq_nil_iff.1 hnil).2)
    · rw [hleads.fault, hleads.outlook]
      rfl

/-- **A scope gives every element once that stands in no consumed one**, in document order and by its path inside the
scope, whatever its client does.  It answers that there is none at the end of its own element; the scope of a document
does so at the end of the document, if that has an element and leaves none open. -/
theorem each_element_once {document : Bytes} {entry : Cursor} (he : Entered document entry) {given : List Given}
    {fresh : Bool} {s : Scope} {c : Cursor} (h : Story entry given fresh s c) :
    (entry = .ofBytes document ∧ Event.behindEnd 0 entry.rest = none ∨
      entry.own ∈ (Element.ofBytes document).subtree) ∧
    entry.own.subtree.Nodup ∧
    (∀ g ∈ given, g.element.path = some (entry.path ++ g.answer)) ∧
    ∃ left, entry.own.subtree.filter (fun e => !covered given e) = given.map (·.element) ++ left ∧
      if s.finished then
        left = [] ∧ c.rest = (Event.behindEnd 0 entry.rest).getD [] ∧ s.next c = ⟨.ok none, s, c⟩
      else Due document entry (s.next c) left := by
  have hk := h.kept
  refine ⟨?_, Event.nodup_begun _ _ _, hk.answers, ?_⟩
  · rcases he.own_mem with rfl | hmem
    · exact .inl ⟨rfl, Event.behindEnd_nested _ (Event.nested_ofBytes document)⟩
    · exact .inr hmem
  · cases hf : s.finished with
    | true =>
      have hrest : c.rest = (Event.behindEnd 0 entry.rest).getD [] := by
        rcases (hk.left hf).2 with hend | ⟨-, hend, hrest⟩
        · rw [hend]
          rfl
        · rw [hend, hrest]
          rfl
      exact ⟨[], by rw [hk.accounted hf, List.append_nil], rfl, hrest, by rw [Scope.next, if_pos hf]⟩
    | false =>
      obtain ⟨inner, past, hg⟩ := hk.going hf
      exact ⟨_, hg.filter_subtree, hk.due he hf hg⟩

/-- `<a><b><x/></b><q:c xmlns:q="…"><q:y/><z/></q:c></a>`, where `q` stands for the scanners' vocabulary. -/
def nestedSample : Bytes :=
  Utf8.encode ("<a><b><x/></b><q:c xmlns:q=\"" ++ Vocabulary.scan ++ "\"><q:y/><z/></q:c></a>").toList

/-- A client reads `b`, and in `q:c` looks at one element only: neither `x`, nor `q:y` and `z`, are given outside.  The
paths have the prefix of the vocabulary, whatever the document calls it. -/
theorem nestedSample_once : ∃ given s c, Story (.ofBytes nestedSample) given false s c ∧ s.finished = true ∧
    given.map (·.answer) = ["a".toList, "a/b".toList, "a/scan:c".toList] ∧
    (Cursor.ofBytes nestedSample).own.subtree.filter (fun e => !covered given e) = given.map (·.element) := by
  let begins (name : String) (uri : Option Bytes) : Event := .start ⟨Utf8.encode name.toList⟩ uri
  let scan : Option Bytes := some (Vocabulary.bytesOf Vocabulary.scan)
  let inC : List Event := [begins "q:y" scan, .finish, begins "z" none, .finish, .finish, .finish]
  let inB : List Event := begins "x" none :: .finish :: .finish :: begins "q:c" scan :: inC
  let inA : List Event := begins "b" none :: inB
  have hbegin : Cursor.ofBytes nestedSample = ⟨begins "a" none :: inA, none, [], false⟩ := by decide +kernel
  have entered : Story (.ofBytes nestedSample) [] false .document ⟨begins "a" none :: inA, none, [], false⟩ := by
    rw [hbegin]
    exact .entered _
  have gaveA := @Story.gave _ _ _ _ .document _ ⟨inA, none, ["a".toList], true⟩ "a".toList "a".toList
    entered rfl rfl
  have gaveB := @Story.gave _ _ _ _ .document _ ⟨inB, none, ["a/b".toList, "a".toList], true⟩ "a/b".toList "a/b".toList
    gaveA rfl rfl
  have readB := @Story.read _ _ _ _ ⟨begins "q:c" scan :: inC, none, ["a".toList], true⟩ _ _ [] gaveB rfl
  have gaveC := @Story.gave _ _ _ _ .document _ ⟨inC, none, ["a/scan:c".toList, "a".toList], true⟩
    "a/scan:c".toList "a/scan:c".toList readB rfl rfl
  have gaveY := @Story.gave _ _ _ _ ⟨2, 8, false⟩ _
    ⟨.finish :: begins "z" none :: [.finish, .finish, .finish], none,
      ["a/scan:c/scan:y".toList, "a/scan:c".toList, "a".toList], true⟩
    "a/scan:c/scan:y".toList "/scan:y".toList
    (.entered ⟨inC, none, ["a/scan:c".toList, "a".toList], true⟩) rfl rfl
  have enteredC := gaveC.descended gaveY rfl
  have ended := @Story.ended _ _ _ _ ⟨0, 0, true⟩ _ ⟨[], none, [], true⟩ enteredC rfl
  obtain ⟨-, -, -, left, hleft, hlast⟩ := each_element_once .document ended
  rw [hlast.1, List.append_nil] at hleft
  exact ⟨_, _, _, ended, rfl, rfl, hleft⟩

/-! ## Walks as clients -/

namespace Walk

variable {φ ε α σ : Type}

/-- A walk reads and enters only what it was just given; `fresh` says whether it starts with that. -/
def Disciplined : {α : Type} → (fresh : Bool) → Walk φ ε α → Prop
  | _, _, .done _ => True
  | _, _, .fail _ => True
  | _, fresh, .note _ w => Disciplined fresh w
  | _, _, .next k => Disciplined false (k none) ∧ ∀ p, Disciplined true (k (some p))
  | _, _, .each visit _ k => (∀ a p, Disciplined true (visit a p)) ∧ ∀ b, Disciplined false (k b)
  | _, fresh, .text k => fresh = true ∧ ∀ t, Disciplined false (k t)
  | _, fresh, .within w k => fresh = true ∧ Disciplined false w ∧ ∀ b, Disciplined false (k b)

/-- An outcome that is no failure is the end of a story. -/
def Tells (entry : Cursor) (o : Outcome φ ε α) : Prop :=
  ∀ a, o.result = .ok a → ∃ given fresh, Story entry given fresh o.scope o.cursor

theorem Disciplined.of_stale {w : Walk φ ε α} (h : Disciplined false w) (fresh : Bool) : Disciplined fresh w := by
  induction w with
  | done a => trivial
  | fail e => trivial
  | note finding w ih => exact ih h
  | next k _ => exact h
  | each visit a k _ _ => exact h
  | text k _ => cases h.1
  | within w k _ _ => cases h.1

section

variable (lift : Error → ε) {entry : Cursor}

theorem tells_andThen {β : Type} {o : Outcome φ ε α} {k : α → Scope → Cursor → Outcome φ ε β} (h : Tells entry o)
    (hk : ∀ a given fresh s c, Story entry given fresh s c → Tells entry (k a s c)) : Tells entry (o.andThen k) := by
  obtain ⟨result, trace, s, c⟩ := o
  cases result with
  | error e => exact fun _ hb => by cases hb
  | ok a =>
    obtain ⟨given, fresh, story⟩ := h a rfl
    exact hk a given fresh s c story

theorem tells_advance {k : Option Path → Scope → Cursor → Outcome φ ε α}
    (hk : ∀ p given s c, Story entry given p.isSome s c → Tells entry (k p s c)) {given : List Given} {fresh : Bool}
    {s : Scope} {c : Cursor} (h : Story entry given fresh s c) : Tells entry (advance lift k s c) := by
  rcases hn : s.next c with ⟨outcome, s', c'⟩
  simp only [advance, hn]
  rcases outcome with e | (_ | path)
  · exact fun _ ha => by cases ha
  · exact hk none _ s' c' (h.ended hn)
  · simp only
    cases hr : s'.relative path with
    | error e => exact fun _ ha => by cases ha
    | ok p => exact hk (some p) _ s' c' (h.gave hn hr)

theorem tells_loop {visit : σ → Path → Scope → Cursor → Outcome φ ε σ}
    (hv : ∀ a p given s c, Story entry given true s c → Tells entry (visit a p s c)) : ∀ (fuel : Nat) (a : σ)
    {given : List Given} {fresh : Bool} {s : Scope} {c : Cursor}, Story entry given fresh s c →
      Tells entry (loop lift visit fuel a s c)
  | 0, _, given, fresh, _, _, h => fun _ _ => ⟨given, fresh, h⟩
  | fuel + 1, a, _, _, _, _, h => by
    rw [loop]
    refine tells_advance lift (fun p given s c hs => ?_) h
    cases p with
    | none => exact fun _ _ => ⟨given, false, hs⟩
    | some p => exact tells_andThen (hv a p given s c hs) fun b _ _ _ _ hs => tells_loop hv fuel b hs

/-- **A disciplined walk is a client**: where it has not failed, it has come to the end of a story. -/
theorem story_of_run (w : Walk φ ε α) : ∀ {entry : Cursor} {given : List Given} {fresh : Bool} {s : Scope} {c : Cursor},
    Story entry given fresh s c → Disciplined fresh w → Tells entry (run lift w s c) := by
  induction w with
  | done a => exact fun h _ _ _ => ⟨_, _, h⟩
  | fail e => exact fun _ _ _ ha => by cases ha
  | note finding w ih => exact fun h hw => ih h hw
  | next k ih =>
    intro entry given fresh s c h hw
    refine tells_advance lift (fun p given s c hs => ?_) h
    cases p with
    | none => exact ih none hs hw.1
    | some p => exact ih (some p) hs (hw.2 p)
  | each visit a k ihVisit ihRest =>
    intro entry given fresh s c h hw
    rw [run]
    have hloop := tells_loop lift (fun a p _ _ _ hs => ihVisit a p hs (hw.1 a p)) (c.rest.length + 1) a h
    exact tells_andThen hloop fun b _ fresh _ _ hs => ihRest b hs ((hw.2 b).of_stale fresh)
  | text k ih =>
    intro entry given fresh s c h hw
    obtain ⟨rfl, hk⟩ := hw
    obtain ⟨-, -, before, answer, rfl⟩ := h.kept.fresh rfl
    rw [run]
    rcases ht : c.readText with ⟨result, c'⟩
    cases result with
    | error e => exact fun _ ha => by cases ha
    | ok t => exact ih t (h.read ht) (hk t)
  | within w k ihInner ihRest =>
    intro entry given fresh s c h hw
    obtain ⟨rfl, hin, hk⟩ := hw
    obtain ⟨-, -, before, answer, rfl⟩ := h.kept.fresh rfl
    have hinner := ihInner (.entered c) hin
    rw [run]
    generalize run lift w (.within c) c = o at hinner ⊢
    obtain ⟨result, trace, si, ci⟩ := o
    cases result with
    | error e => exact fun _ ha => by cases ha
    | ok b =>
      obtain ⟨_, _, inside⟩ := hinner b rfl
      simp only
      cases hs : (si.skip ci).outcome with
      | error e => exact fun _ ha => by cases ha
      | ok u => exact ihRest b (h.descended inside hs) (hk b)

end

end Walk

end ScanDiscovery.Xml
