import ScanDiscovery.Proofs.Xml.Trail
/-!
# Proofs.Xml.Machine — a reader at work, event by event

A `Machine` is a reader in the midst of a call: the scopes of its client, what it is at, and the text that it keeps of
the path.  `Reachable` are the states that the calls of any client lead to, one event at a time.  What an event does is
said once (`find_start`, `gather_finish` and so on); so every event keeps text and scopes in order (`Sound.round`), and
so does every run (`Reachable.sound`).  Specification only.
-/
namespace ScanDiscovery.Xml

/-- What a reader is at: between two calls (and then what the last one gave, in its scope), on the way to the next
element (or through all that are left in a scope that is being left), or in a text. -/
inductive Task where
  | idle (given : Option Path)
  | seeking (leaving : Bool)
  | reading (depth : Nat) (read : List Char)
  | refused (e : Error)
  /-- a cut was asked for that there is none of -/
  | broken
  deriving DecidableEq

/-- A reader in the scopes of a client, the innermost first. -/
structure Machine where
  inner : Frame
  outer : List Frame
  task : Task
  cursor : Cursor
  trail : Trail

namespace Machine

/-- The reader of a document that was not asked for anything. -/
def ofBytes (document : Bytes) : Machine :=
  ⟨.document document, [], .idle none, .ofBytes document, ⟨[], []⟩⟩

def pass (m : Machine) (es : List Event) : Machine := { m with cursor := { m.cursor with rest := es } }

def refuse (m : Machine) (e : Error) : Machine := { m with task := .refused e }

def push (m : Machine) (n : Option (List Char) × List Char) (es : List Event) : Machine :=
  { m with
    cursor := { m.cursor.entered (m.cursor.path.child n.1 n.2) with rest := es }
    trail := m.trail.push n.1 n.2 }

/-- An element ends, and `k` follows. -/
def pop (m : Machine) (es : List Event) (k : Machine → Machine) : Machine :=
  match m.trail.pop? with
  | none => { m with task := .broken }
  | some t => k { m with cursor := { m.cursor.leave with rest := es }, trail := t }

/-- The scope is at its end; one that was being left is left. -/
def close (m : Machine) (leaving : Bool) : Machine :=
  match leaving, m.outer with
  | true, f :: fs => { m with inner := f, outer := fs, task := .idle none }
  | _, _ => { m with task := .idle none }

def finish (m : Machine) : Machine := { m with inner := m.inner.finish }

/-- The element that has begun is given by its path in the scope; one that is passed over is cut out all the same. -/
def give (m : Machine) (leaving : Bool) : Machine :=
  match m.trail.path.dropBytes? m.inner.scope.skipped with
  | none => { m with task := .broken }
  | some p => if leaving then m else { m with task := .idle (some p) }

/-- One event on the way to the next element. -/
def find (m : Machine) (leaving : Bool) : Machine :=
  match m.cursor.rest with
  | [] =>
    match m.cursor.fault with
    | some e => m.refuse e
    | none =>
      match m.inner.scope.atEnd m.cursor with
      | .error e => m.finish.refuse e
      | .ok () => m.finish.close leaving
  | .start name uri :: es =>
    match Cursor.nameParts (uri.bind Vocabulary.prefixOf?) name with
    | .error e => (m.pass es).refuse e
    | .ok n => (m.push n es).give leaving
  | .finish :: es =>
    m.pop es fun below => if m.cursor.depth = m.inner.scope.depth then below.finish.close leaving else below
  | .text _ :: es => m.pass es
  | .cdata _ :: es => m.pass es

/-- One event of the text of the element that is open at `depth`. -/
def gather (m : Machine) (depth : Nat) (read : List Char) : Machine :=
  match m.cursor.rest with
  | [] => m.refuse m.cursor.endFault
  | .text content :: es =>
    if m.cursor.depth = depth then
      match Cursor.textOf content with
      | .error e => (m.pass es).refuse e
      | .ok cs => { m.pass es with task := .reading depth (read ++ cs) }
    else m.pass es
  | .cdata content :: es =>
    if m.cursor.depth = depth then { m.pass es with task := .reading depth (read ++ Utf8.decodeLossy content) }
    else m.pass es
  | .start name _ :: es =>
    match Cursor.nameParts none name with
    | .error e => (m.pass es).refuse e
    | .ok n => m.push n es
  | .finish :: es =>
    m.pop es fun below => if below.cursor.depth < depth then { below with task := .idle none } else below

/-- One event of whatever the reader is at. -/
def round (m : Machine) : Machine :=
  match m.task with
  | .seeking leaving => if m.inner.scope.finished then m.close leaving else m.find leaving
  | .reading depth read => m.gather depth read
  | .idle _ | .refused _ | .broken => m

/-- The reader set to a task. -/
def doing (m : Machine) (t : Task) : Machine := { m with task := t }

/-- The reader in the scope of the element that it has just given. -/
def descended (m : Machine) : Machine :=
  { m with inner := .within m.cursor, outer := m.inner :: m.outer, task := .idle none }

/-- **The states of a reader**, in the calls of a client that reads or enters an element directly after it was given,
if at all, and stops where it is refused. -/
inductive Reachable (document : Bytes) : Machine → Prop
  | start : Reachable document (.ofBytes document)
  | next {m : Machine} {given : Option Path} (h : Reachable document m) (ht : m.task = .idle given) :
      Reachable document (m.doing (.seeking false))
  | text {m : Machine} {p : Path} (h : Reachable document m) (ht : m.task = .idle (some p)) :
      Reachable document (m.doing (.reading m.cursor.depth []))
  | descend {m : Machine} {p : Path} (h : Reachable document m) (ht : m.task = .idle (some p)) :
      Reachable document m.descended
  | leave {m : Machine} {given : Option Path} (h : Reachable document m) (ht : m.task = .idle given)
      (ho : m.outer ≠ []) : Reachable document (m.doing (.seeking true))
  /-- the client inside fails for a reason of its own, and the one outside goes on from there -/
  | abandon {m : Machine} {given : Option Path} {f : Frame} {fs : List Frame} (h : Reachable document m)
      (ht : m.task = .idle given) (ho : m.outer = f :: fs) :
      Reachable document { m with inner := f, outer := fs, task := .idle none }
  /-- the document is taken up again where the reader is -/
  | again {m : Machine} {given : Option Path} (h : Reachable document m) (ht : m.task = .idle given) :
      Reachable document { m with inner := .document document, outer := [] }
  | round {m : Machine} (h : Reachable document m) : Reachable document m.round

/-- What a task takes for granted. -/
def Fits (m : Machine) : Task → Prop
  | .idle (some _) => m.inner.scope.finished = false ∧ m.inner.entry.depth < m.cursor.depth
  | .reading depth _ => m.inner.scope.finished = false ∧ m.inner.entry.depth < depth ∧ depth ≤ m.cursor.depth
  | .broken => False
  | .idle none | .seeking _ | .refused _ => True

/-- **The invariant**: the text is that of the open elements, which the scopes stand in. -/
structure Sound (m : Machine) : Prop where
  trail : m.trail = m.cursor.trail
  stacked : Stacked m.inner m.outer m.cursor.opened
  fits : m.Fits m.task

/-- The reader at a cursor, of whose open elements it has the text. -/
def on (inner : Frame) (outer : List Frame) (task : Task) (c : Cursor) : Machine := ⟨inner, outer, task, c, c.trail⟩

variable {m : Machine}

theorem Sound.eq_on (h : m.Sound) : m = on m.inner m.outer m.task m.cursor := by
  rw [on, ← h.trail]

section

variable {i : Frame} {o : List Frame} {t : Task} {c : Cursor} {r : List Event}

theorem pop_on (hc : Chained c.opened) (k : Machine → Machine) :
    (on i o t c).pop r k = k (on i o t { c.leave with rest := r }) := by
  rw [pop, show (on i o t c).trail = c.trail from rfl, Cursor.trail_pop hc]
  rfl

/-- The path of an element begins with that of its scope. -/
theorem give_on (h : i.Holds c.opened) (hc : Chained c.opened) (leaving : Bool) : ∃ p,
    i.scope.relative c.path = .ok p ∧
      (on i o t c).give leaving = on i o (if leaving then t else .idle (some p)) c := by
  obtain ⟨p, -, hdrop⟩ := h.cut hc
  refine ⟨p, by rw [Scope.relative, Cursor.path, hdrop], ?_⟩
  rw [give, show (on i o t c).trail.path.dropBytes? (on i o t c).inner.scope.skipped = some p from hdrop]
  cases leaving <;> rfl

theorem find_nil (leaving : Bool) : (on i o t { c with rest := [] }).find leaving =
    match c.fault with
    | some e => on i o (.refused e) { c with rest := [] }
    | none =>
      match i.scope.atEnd c with
      | .error e => on i.finish o (.refused e) { c with rest := [] }
      | .ok () => (on i.finish o t { c with rest := [] }).close leaving := rfl

theorem find_start (name : Name) (uri : Option Bytes) (leaving : Bool) :
    (on i o t { c with rest := .start name uri :: r }).find leaving =
      match Cursor.nameParts (uri.bind Vocabulary.prefixOf?) name with
      | .error e => on i o (.refused e) { c with rest := r }
      | .ok n => (on i o t { c.entered (c.path.child n.1 n.2) with rest := r }).give leaving := rfl

theorem find_finish (hc : Chained c.opened) (leaving : Bool) :
    (on i o t { c with rest := .finish :: r }).find leaving =
      if c.depth = i.scope.depth then (on i.finish o t { c.leave with rest := r }).close leaving
      else on i o t { c.leave with rest := r } :=
  pop_on (c := { c with rest := .finish :: r }) hc fun below =>
    if c.depth = i.scope.depth then below.finish.close leaving else below

theorem gather_text (content : Bytes) (depth : Nat) (read : List Char) :
    (on i o t { c with rest := .text content :: r }).gather depth read =
      if c.depth = depth then
        match Cursor.textOf content with
        | .error e => on i o (.refused e) { c with rest := r }
        | .ok cs => on i o (.reading depth (read ++ cs)) { c with rest := r }
      else on i o t { c with rest := r } := rfl

theorem gather_cdata (content : Bytes) (depth : Nat) (read : List Char) :
    (on i o t { c with rest := .cdata content :: r }).gather depth read =
      if c.depth = depth then on i o (.reading depth (read ++ Utf8.decodeLossy content)) { c with rest := r }
      else on i o t { c with rest := r } := rfl

theorem gather_start (name : Name) (uri : Option Bytes) (depth : Nat) (read : List Char) :
    (on i o t { c with rest := .start name uri :: r }).gather depth read =
      match Cursor.nameParts none name with
      | .error e => on i o (.refused e) { c with rest := r }
      | .ok n => on i o t { c.entered (c.path.child n.1 n.2) with rest := r } := rfl

theorem gather_finish (hc : Chained c.opened) (depth : Nat) (read : List Char) :
    (on i o t { c with rest := .finish :: r }).gather depth read =
      if c.leave.depth < depth then on i o (.idle none) { c.leave with rest := r }
      else on i o t { c.leave with rest := r } :=
  pop_on (c := { c with rest := .finish :: r }) hc fun below =>
    if below.cursor.depth < depth then { below with task := .idle none } else below

theorem Sound.close (h : Stacked i o c.opened) (leaving : Bool) : ((Machine.on i o t c).close leaving).Sound := by
  cases leaving with
  | false => exact ⟨rfl, h, trivial⟩
  | true =>
    cases o with
    | nil => exact ⟨rfl, h, trivial⟩
    | cons f o => exact ⟨rfl, h.leave, trivial⟩

/-- **An event on the way to the next element** keeps what is recorded in order. -/
theorem Sound.find {leaving : Bool} (hf : i.scope.finished = false) : ∀ (es : List Event),
    Stacked i o c.opened → ((Machine.on i o (.seeking leaving) { c with rest := es }).find leaving).Sound
  | [], h => by
    rw [find_nil]
    cases c.fault with
    | some e => exact ⟨rfl, h, trivial⟩
    | none =>
      cases i.scope.atEnd c with
      | error e => exact ⟨rfl, h.finish, trivial⟩
      | ok _ => exact Sound.close (c := ⟨[], none, c.opened, c.rooted⟩) h.finish leaving
  | .start name uri :: es, h => by
    rw [find_start]
    cases Cursor.nameParts (uri.bind Vocabulary.prefixOf?) name with
    | error e => exact ⟨rfl, h, trivial⟩
    | ok n =>
      -- the scope holds of the element that has begun as well, and so it can be given
      have hpush := h.push n
      obtain ⟨p, -, hgive⟩ := give_on (t := .seeking leaving)
        (c := { c.entered (c.path.child n.1 n.2) with rest := es }) (hpush.inside hf) hpush.chained leaving
      show ((Machine.on i o _ _).give leaving).Sound
      rw [hgive]
      refine ⟨rfl, hpush, ?_⟩
      cases leaving with
      | true => trivial
      | false => exact ⟨hf, Nat.lt_succ_of_le (h.inside hf).depth_le⟩
  | .finish :: es, h => by
    rw [find_finish h.chained]
    split
    next hd => exact Sound.close (c := { c.leave with rest := es }) (h.popLast hf) leaving
    next hd => exact ⟨rfl, h.pop hf (h.depth_lt hf hd), trivial⟩
  | .text _ :: _, h => ⟨rfl, h, trivial⟩
  | .cdata _ :: _, h => ⟨rfl, h, trivial⟩

/-- **An event of a text** keeps what is recorded in order. -/
theorem Sound.gather {depth : Nat} {read : List Char} (hf : i.scope.finished = false) (hi : i.entry.depth < depth)
    (hd : depth ≤ c.depth) : ∀ (es : List Event), Stacked i o c.opened →
      ((Machine.on i o (.reading depth read) { c with rest := es }).gather depth read).Sound
  | [], h => ⟨rfl, h, trivial⟩
  | .text content :: es, h => by
    rw [gather_text]
    split
    next =>
      cases Cursor.textOf content with
      | error e => exact ⟨rfl, h, trivial⟩
      | ok cs => exact ⟨rfl, h, hf, hi, hd⟩
    next => exact ⟨rfl, h, hf, hi, hd⟩
  | .cdata content :: es, h => by
    rw [gather_cdata]
    split <;> exact ⟨rfl, h, hf, hi, hd⟩
  | .start name uri :: es, h => by
    rw [gather_start]
    cases Cursor.nameParts none name with
    | error e => exact ⟨rfl, h, trivial⟩
    | ok n => exact ⟨rfl, h.push n, hf, hi, Nat.le_succ_of_le hd⟩
  | .finish :: es, h => by
    -- what ends is the element that is read, or one inside it
    have hpop := h.pop hf (Nat.lt_of_lt_of_le hi hd)
    rw [gather_finish h.chained]
    split
    next => exact ⟨rfl, hpop, trivial⟩
    next hlast => exact ⟨rfl, hpop, hf, hi, Nat.le_of_not_lt hlast⟩

end

/-- **A step keeps what is recorded in order.** -/
theorem Sound.round (h : m.Sound) : m.round.Sound := by
  have hfits := h.fits
  unfold Machine.round
  split
  next leaving ht =>
    rw [h.eq_on, ht]
    split
    next => exact Sound.close h.stacked leaving
    next hf => exact Sound.find (c := m.cursor) (Bool.eq_false_iff.2 hf) m.cursor.rest h.stacked
  next depth read ht =>
    rw [ht] at hfits
    rw [h.eq_on, ht]
    exact Sound.gather (c := m.cursor) hfits.1 hfits.2.1 hfits.2.2 m.cursor.rest h.stacked
  next => exact h
  next => exact h
  next => exact h

/-- **What is recorded is in order** wherever a client has come. -/
theorem Reachable.sound {document : Bytes} (h : Reachable document m) : m.Sound := by
  induction h with
  | start =>
    exact ⟨rfl, ⟨List.Pairwise.nil, List.pairwise_singleton _ _, fun _ hg => (List.not_mem_nil hg).elim,
      fun _ => ⟨rfl, List.suffix_refl _⟩⟩, trivial⟩
  | next h ht ih => exact ⟨ih.trail, ih.stacked, trivial⟩
  | @text m p h ht ih =>
    obtain ⟨hf, hd⟩ : m.Fits (.idle (some p)) := ht ▸ ih.fits
    exact ⟨ih.trail, ih.stacked, hf, hd, Nat.le_refl _⟩
  | @descend m p h ht ih =>
    obtain ⟨hf, hd⟩ : m.Fits (.idle (some p)) := ht ▸ ih.fits
    exact ⟨ih.trail, ih.stacked.enter hf hd, trivial⟩
  | leave h ht ho ih => exact ⟨ih.trail, ih.stacked, trivial⟩
  | abandon h ht ho ih => exact ⟨ih.trail, (ho ▸ ih.stacked).leave, trivial⟩
  | @again m given h ht ih =>
    refine ⟨ih.trail, ih.stacked.document document, ?_⟩
    have hfits := ih.fits
    rw [ht] at hfits
    show Fits _ m.task
    rw [ht]
    -- an element that was given before is inside the document's scope too
    cases given with
    | none => trivial
    | some p => exact ⟨rfl, Nat.zero_lt_of_lt hfits.2⟩
  | round h ih => exact ih.round

end Machine

end ScanDiscovery.Xml
