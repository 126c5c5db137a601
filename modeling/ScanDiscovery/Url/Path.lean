import ScanDiscovery.Url.Basic
/-!
# Url.Path — the segments of a path, resolved

A path is read segment by segment: one dot stays where it is, two dots take the last segment back, and any other
segment is added. A drive letter is never taken back. As the first segment of a file's address it is a place on
this machine, whatever host was named before.
-/
namespace ScanDiscovery.Url

/-- Tabs and line breaks, which count for nothing in an address. -/
def isBreak (c : Char) : Bool := c = '\t' || c = '\n' || c = '\r'

def withoutBreaks (text : List Char) : List Char := text.filter (!isBreak ·)

def isSlash (kind : SchemeKind) (c : Char) : Bool :=
  c = '/' || (c = '\\' && kind ≠ .other)

/-- What a segment of a path stands for. -/
inductive Segment where
  | here
  | up
  | named (name : List Char)
  deriving DecidableEq, Repr

def Segment.classify (segment : List Char) : Segment :=
  let lower := String.ofList (segment.map Char.toLower)
  if [".", "%2e"].contains lower then .here
  else if ["..", ".%2e", "%2e.", "%2e%2e"].contains lower then .up
  else .named segment

namespace Drive

def isColon (c : Char) : Bool := c = ':' || c = '|'

def isLetter (segment : List Char) : Bool :=
  match segment with
  | [c, d] => c.isAlpha && isColon d
  | _ => false

/-- A segment that begins with a drive, up to its end or a backslash. -/
def begins (segment : List Char) : Bool :=
  match segment with
  | c :: d :: rest => c.isAlpha && isColon d && rest.head?.all (· = '\\')
  | _ => false

/-- A drive and the segment behind it, where no more than a break divides them. -/
def beforeBreak? (segment : List Char) : Option (Char × List Char) :=
  match segment.dropWhile isBreak with
  | c :: cs =>
    match cs.dropWhile isBreak with
    | ':' :: b :: rest =>
      if c.isAlpha && isBreak b && !(withoutBreaks rest).isEmpty then some (c, withoutBreaks rest) else none
    | _ => none
  | [] => none

end Drive

/-- How far a path is read. -/
structure Path where
  /-- the last one first -/
  segments : List (List Char)
  /-- it begins with a drive of this machine -/
  isLocal : Bool
  deriving DecidableEq, Repr

namespace Path

def root : Path := ⟨[], false⟩

/-- The path with one more segment. -/
def add (p : Path) (segment : List Char) : Path := { p with segments := segment :: p.segments }

/-- The path without its last segment; a drive stays. -/
def parent (p : Path) : Path :=
  if p.segments.head?.any Drive.begins then p else { p with segments := p.segments.tail }

/-- The path with a segment that has a name; a drive that begins a file's path is written with a colon. -/
def enter (kind : SchemeKind) (p : Path) (segment : List Char) : Path :=
  if kind = .file && p.segments.isEmpty && Drive.isLetter segment then ⟨[segment.take 1 ++ [':']], true⟩
  else p.add segment

/-- The path that a segment leads to. A dot segment at the end leaves an empty one. -/
def follow (kind : SchemeKind) (p : Path) (segment : List Char) (isLast : Bool) : Path :=
  let stay (p : Path) : Path := if isLast then p.add [] else p
  match Segment.classify segment with
  | .here => stay p
  | .up => stay p.parent
  | .named name => p.enter kind name

/-- The path that the segments of a text lead to. -/
def resolve (kind : SchemeKind) : Path → List (List Char) → Path
  | p, [] => p
  | p, segment :: segments =>
    let drive? := if kind = .file && p.segments.isEmpty then Drive.beforeBreak? segment else none
    match drive? with
    | some (letter, name) => resolve kind ((p.add [letter, ':']).add (encode pathSet name)) segments
    | none => resolve kind (p.follow kind (encode pathSet (withoutBreaks segment)) segments.isEmpty) segments

/-- Splits at slashes. -/
def segmentsOf (kind : SchemeKind) (text : List Char) : List (List Char) := text.splitOnP (isSlash kind)

/-- A path from the text after a slash. -/
def ofText (kind : SchemeKind) (text : List Char) : Path := resolve kind root (segmentsOf kind text)

/-- A path from the text after a host, which it may follow without a slash. -/
def afterHost (kind : SchemeKind) (text : List Char) : Path :=
  match text.dropWhile isBreak with
  | [] => if kind = .other then root else ofText kind []
  | c :: cs => if isSlash kind c then ofText kind cs else ofText kind text

/-- The path as text. A file's begins with one slash, whatever it was read from. -/
def text (kind : SchemeKind) (p : Path) : String :=
  let segments := p.segments.reverse
  let shown :=
    if kind = .file then
      match segments.dropWhile List.isEmpty with
      | [] => [[]]
      | named => named
    else segments
  String.ofList (shown.flatMap ('/' :: ·))

example : ((ofText .special "a/./b/%2E./c".toList).text .special) = "/a/c" := by decide

example : ((ofText .special "a/C:/../b/..".toList).text .special) = "/a/C:/" := by decide

end Path
end ScanDiscovery.Url
