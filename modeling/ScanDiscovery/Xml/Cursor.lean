import ScanDiscovery.Text.Blank
import ScanDiscovery.Xml.Event
import ScanDiscovery.Xml.Reference
import ScanDiscovery.Xml.Vocabulary
/-!
# Xml.Cursor — a place in a document, and the moves from it

A cursor stands between two events. It knows the events left and the path of every open element; the path of an
element is its parent's, a slash if that is not empty, and its own name, under the prefix of the vocabulary where
its namespace is known and else under the prefix of the document.

A scope bounds a walk to the subtree of the element it was entered on. It remembers the depth at which it was
entered and how many bytes of a path that element accounts for; paths inside it are given without those bytes.
Every move is one recursion over the events left.
-/
namespace ScanDiscovery.Xml

abbrev Path := List Char

namespace Path

/-- A name with its prefix. -/
def qualified : Option (List Char) → List Char → List Char
  | some q, localPart => q ++ ':' :: localPart
  | none, localPart => localPart

/-- The path of an element below `parent`. -/
def child (parent : Path) (qualifier : Option (List Char)) (localPart : List Char) : Path :=
  if parent.isEmpty then qualified qualifier localPart else parent ++ '/' :: qualified qualifier localPart

/-- How many bytes a path takes. -/
def size : Path → Nat
  | [] => 0
  | c :: p => c.utf8Size + size p

/-- What is left of a path after its first `n` bytes, if a character ends there. -/
def dropBytes? : Nat → Path → Option Path
  | 0, p => some p
  | _ + 1, [] => none
  | n + 1, c :: p => if c.utf8Size ≤ n + 1 then dropBytes? (n + 1 - c.utf8Size) p else none

@[simp] theorem size_nil : size [] = 0 := rfl

@[simp] theorem size_cons (c : Char) (p : Path) : size (c :: p) = c.utf8Size + size p := rfl

@[simp] theorem size_append (p q : Path) : size (p ++ q) = size p + size q := by
  induction p with
  | nil => rw [List.nil_append, size_nil, Nat.zero_add]
  | cons c p ih => rw [List.cons_append, size_cons, size_cons, ih, Nat.add_assoc]

theorem dropBytes?_append (p q : Path) : dropBytes? (size p) (p ++ q) = some q := by
  induction p with
  | nil => simp [dropBytes?]
  | cons c p ih =>
    obtain ⟨n, hn⟩ : ∃ n, size (c :: p) = n + 1 :=
      ⟨size (c :: p) - 1, by have := c.utf8Size_pos; simp; omega⟩
    have h : c.utf8Size + size p = n + 1 := by simpa using hn
    rw [hn, List.cons_append, dropBytes?, if_pos (by omega), show n + 1 - c.utf8Size = size p by omega, ih]

/-- A child's path begins with its parent's. -/
theorem child_eq_append (parent : Path) (qualifier : Option (List Char)) (localPart : List Char) :
    ∃ rest, child parent qualifier localPart = parent ++ rest := by
  unfold child
  split
  · rename_i h
    exact ⟨qualified qualifier localPart, by rw [List.isEmpty_iff.1 h, List.nil_append]⟩
  · exact ⟨_, rfl⟩

end Path

/-- A place in a document. -/
structure Cursor where
  /-- the events not yet passed -/
  rest : List Event
  /-- the fault that follows them; without one, the document ends there -/
  fault : Option Error
  /-- the paths of the open elements, innermost first -/
  opened : List Path
  /-- whether any element was entered -/
  rooted : Bool
  deriving DecidableEq, Repr

/-- The bounds of a walk. -/
structure Scope where
  depth : Nat
  skipped : Nat
  finished : Bool
  deriving DecidableEq, Repr

namespace Cursor

/-- The beginning of a document. -/
def ofBytes (document : Bytes) : Cursor :=
  let events := Event.ofBytes document
  ⟨events.items, events.fault, [], false⟩

def depth (c : Cursor) : Nat := c.opened.length

/-- The path of the innermost open element. -/
def path (c : Cursor) : Path := c.opened.headD []

/-- The bytes of a name as text. -/
def nameText (bs : Bytes) : Except Error (List Char) :=
  (Utf8.decode bs).mapError .name

/-- The name of an element in paths. A prefix of the vocabulary, where there is one, replaces the one the document
has; of the rest, the local part is read first. -/
def enteredPath (parent : Path) (known : Option String) (name : Name) : Except Error Path := do
  let localPart ← nameText name.localPart
  let qualifier ← match known with
    | some p => pure (some p.toList)
    | none => match name.qualifier with
      | some q => some <$> nameText q
      | none => pure none
  pure (parent.child qualifier localPart)

/-- The cursor inside an element that begins here. -/
def enter (c : Cursor) (known : Option String) (name : Name) : Except Error Cursor := do
  let path ← enteredPath c.path known name
  pure { c with opened := path :: c.opened, rooted := true }

/-- The cursor after the end of the innermost element. -/
def leave (c : Cursor) : Cursor := { c with opened := c.opened.tail }

/-- What the end of a text or an element adds to the text of the element that is read. -/
def textOf (content : Bytes) : Except Error (List Char) :=
  match Utf8.decode content with
  | .error e => .error (.encoding e)
  | .ok cs => (Reference.replace cs).mapError .reference

/-- What stops the reading where the events are used up and an element is open. -/
def endFault (c : Cursor) : Error :=
  c.fault.getD (.unexpectedEnd c.path)

/-- The text of the element that is open at `depth`, from the events on, after `read`; texts of elements inside it
do not count. -/
def gather (depth : Nat) (read : List Char) : List Event → Cursor → Except Error (List Char) × Cursor
  | [], c => (.error c.endFault, { c with rest := [] })
  | .text content :: es, c =>
    if c.depth = depth then
      match textOf content with
      | .ok cs => gather depth (read ++ cs) es c
      | .error e => (.error e, { c with rest := es })
    else gather depth read es c
  | .cdata content :: es, c =>
    if c.depth = depth then gather depth (read ++ Utf8.decodeLossy content) es c
    else gather depth read es c
  | .start name _ :: es, c =>
    match c.enter none name with
    | .ok c => gather depth read es c
    | .error e => (.error e, { c with rest := es })
  | .finish :: es, c =>
    let c := c.leave
    if c.depth < depth then (.ok (Blank.trim read), { c with rest := es })
    else gather depth read es c

/-- The text of the innermost element, up to and including its end, without the blanks around it. -/
def readText (c : Cursor) : Except Error (List Char) × Cursor :=
  gather c.depth [] c.rest c

end Cursor

namespace Scope

/-- The scope of a whole document. -/
def document : Scope := ⟨0, 0, false⟩

/-- The scope of the element the cursor has just entered. -/
def within (c : Cursor) : Scope := ⟨c.depth, c.path.size, false⟩

/-- The path of the innermost element inside the scope. -/
def relative (s : Scope) (path : Path) : Except Error Path :=
  match path.dropBytes? s.skipped with
  | some p => .ok p
  | none => .error .strayed

/-- The outcome of a move inside a scope. -/
structure Moved (α : Type) where
  outcome : Except Error α
  scope : Scope
  cursor : Cursor

/-- What a scope finds where the document ends. -/
def atEnd (s : Scope) (c : Cursor) : Except Error Unit :=
  if s.depth > 0 || c.depth > 0 then .error (.unexpectedEnd c.path)
  else if c.rooted then .ok () else .error .missingRoot

/-- The next element from the events on: its absolute path, the scope and the cursor inside it; or nothing, once
the end of the scope's own element (or of the document) is passed. -/
def seek (s : Scope) : List Event → Cursor → Moved (Option Path)
  | [], c =>
    match c.fault with
    | some e => ⟨.error e, s, { c with rest := [] }⟩
    | none => ⟨(s.atEnd c).map fun _ => none, { s with finished := true }, { c with rest := [] }⟩
  | .start name uri :: es, c =>
    match c.enter (uri.bind Vocabulary.prefixOf?) name with
    | .ok c => ⟨.ok (some c.path), s, { c with rest := es }⟩
    | .error e => ⟨.error e, s, { c with rest := es }⟩
  | .finish :: es, c =>
    if c.depth = s.depth then ⟨.ok none, { s with finished := true }, { c.leave with rest := es }⟩
    else seek s es c.leave
  | .text _ :: es, c => seek s es c
  | .cdata _ :: es, c => seek s es c

/-- The next element of the scope. -/
def next (s : Scope) (c : Cursor) : Moved (Option Path) :=
  if s.finished then ⟨.ok none, s, c⟩ else s.seek c.rest c

/-- The way to the end of a scope: the absolute paths of the elements passed, and where it leads. -/
structure Skipped where
  passed : List Path
  outcome : Except Error Unit
  cursor : Cursor

def Skipped.after (path : Path) (k : Skipped) : Skipped := { k with passed := path :: k.passed }

/-- All that is left of the scope, from the events on. -/
def skipFrom (s : Scope) : List Event → Cursor → Skipped
  | [], c =>
    match c.fault with
    | some e => ⟨[], .error e, { c with rest := [] }⟩
    | none => ⟨[], s.atEnd c, { c with rest := [] }⟩
  | .start name uri :: es, c =>
    match c.enter (uri.bind Vocabulary.prefixOf?) name with
    | .ok c =>
      match s.relative c.path with
      | .ok _ => (skipFrom s es c).after c.path
      | .error e => ⟨[c.path], .error e, { c with rest := es }⟩
    | .error e => ⟨[], .error e, { c with rest := es }⟩
  | .finish :: es, c =>
    if c.depth = s.depth then ⟨[], .ok (), { c.leave with rest := es }⟩
    else skipFrom s es c.leave
  | .text _ :: es, c => skipFrom s es c
  | .cdata _ :: es, c => skipFrom s es c

/-- All that is left of the scope. -/
def skip (s : Scope) (c : Cursor) : Skipped :=
  if s.finished then ⟨[], .ok (), c⟩ else s.skipFrom c.rest c

end Scope
end ScanDiscovery.Xml
