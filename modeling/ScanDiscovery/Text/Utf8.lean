/-!
# UTF-8 — reading characters out of bytes, strictly or with replacements

A machine is fed one byte at a time. Between characters it owes nothing; inside one it knows how many bytes are
still owed and between which bounds the next of them lies. The bytes fall into pieces: whole characters, and
broken pieces, each the longest beginning of a character that its next byte (or the end) cuts short. The strict
reading stops at the first broken piece and names its place; the lenient one puts one replacement character for
each.
-/
namespace ScanDiscovery

abbrev Bytes := List UInt8

namespace Utf8

/-- The bytes of a text. -/
def encode (text : List Char) : Bytes :=
  text.flatMap String.utf8EncodeChar

theorem encode_append (s t : List Char) : encode (s ++ t) = encode s ++ encode t := by
  simp [encode]

/-- Where the machine stands: `got` bytes of a character are read, `owed` more must come, the next one between
`low` and `high`, and `value` is what the bits read so far spell. -/
inductive State where
  | between
  | inside (got owed : Nat) (low high : UInt8) (value : Nat)
  deriving DecidableEq, Repr

/-- What a run of bytes turns out to be. -/
inductive Piece where
  | char (c : Char)
  /-- `size` bytes that begin a character (or nothing) and are not followed by one that continues it -/
  | broken (size : Nat)
  /-- `size` bytes that begin a character, then the end -/
  | cut (size : Nat)
  deriving DecidableEq, Repr

/-- A first byte: a character of its own, the beginning of a longer one, or nothing. -/
inductive Lead where
  | whole (c : Char)
  | more (s : State)
  | never
  deriving DecidableEq, Repr

def lead (b : UInt8) : Lead :=
  if b < 0x80 then .whole (Char.ofNat b.toNat)
  else if b < 0xC2 then .never
  else if b < 0xE0 then .more (.inside 1 1 0x80 0xBF (b.toNat - 0xC0))
  else if b = 0xE0 then .more (.inside 1 2 0xA0 0xBF 0)
  else if b = 0xED then .more (.inside 1 2 0x80 0x9F 0xD)
  else if b < 0xF0 then .more (.inside 1 2 0x80 0xBF (b.toNat - 0xE0))
  else if b = 0xF0 then .more (.inside 1 3 0x90 0xBF 0)
  else if b < 0xF4 then .more (.inside 1 3 0x80 0xBF (b.toNat - 0xF0))
  else if b = 0xF4 then .more (.inside 1 3 0x80 0x8F 4)
  else .never

/-- A byte between characters. -/
def begin (b : UInt8) : List Piece × State :=
  match lead b with
  | .whole c => ([.char c], .between)
  | .more s => ([], s)
  | .never => ([.broken 1], .between)

/-- One byte: the pieces it completes, and where the machine stands then. A byte that cannot continue the
character that was begun is looked at again as a first one. -/
def step : State → UInt8 → List Piece × State
  | .between, b => begin b
  | .inside got owed low high value, b =>
    if low ≤ b && b ≤ high then
      let value := value * 64 + (b.toNat - 0x80)
      if owed ≤ 1 then ([.char (Char.ofNat value)], .between)
      else ([], .inside (got + 1) (owed - 1) 0x80 0xBF value)
    else
      let (ps, s) := begin b
      (.broken got :: ps, s)

def finish : State → List Piece
  | .between => []
  | .inside got _ _ _ _ => [.cut got]

/-- The pieces of some bytes, from a state on. -/
def piecesFrom : State → Bytes → List Piece
  | s, [] => finish s
  | s, b :: bs =>
    let (ps, s) := step s b
    ps ++ piecesFrom s bs

def pieces (bs : Bytes) : List Piece :=
  piecesFrom .between bs

/-- Why bytes are not UTF-8, and at which byte the first broken piece begins. -/
inductive Fault where
  | invalid (size index : Nat)
  | incomplete (index : Nat)
  deriving DecidableEq, Repr

def Fault.message : Fault → String
  | .invalid size index => s!"invalid utf-8 sequence of {size} bytes from index {index}"
  | .incomplete index => s!"incomplete utf-8 byte sequence from index {index}"

/-- The characters of the pieces, whose first byte stands at `index`. -/
def chars (index : Nat) : List Piece → Except Fault (List Char)
  | [] => .ok []
  | .char c :: ps => (c :: ·) <$> chars (index + c.utf8Size) ps
  | .broken size :: _ => .error (.invalid size index)
  | .cut _ :: _ => .error (.incomplete index)

/-- Strict reading: every byte belongs to a character. -/
def decode (bs : Bytes) : Except Fault (List Char) :=
  chars 0 (pieces bs)

def Piece.orReplacement : Piece → Char
  | .char c => c
  | .broken _ => '\uFFFD'
  | .cut _ => '\uFFFD'

/-- Lenient reading: each broken piece becomes U+FFFD. -/
def decodeLossy (bs : Bytes) : List Char :=
  (pieces bs).map Piece.orReplacement

theorem pieces_nil : pieces [] = [] := rfl

/-- Where the strict reading succeeds, the lenient one agrees with it. -/
theorem map_orReplacement_of_chars {index : Nat} {ps : List Piece} {cs : List Char}
    (h : chars index ps = .ok cs) : ps.map Piece.orReplacement = cs := by
  induction ps generalizing index cs with
  | nil => cases h; rfl
  | cons p ps ih =>
    cases p with
    | char c =>
      rw [chars] at h
      cases hr : chars (index + c.utf8Size) ps with
      | error e => rw [hr] at h; cases h
      | ok ds => rw [hr] at h; cases h; simp [Piece.orReplacement, ih hr]
    | broken n => cases h
    | cut n => cases h

theorem decodeLossy_of_decode {bs : Bytes} {cs : List Char} (h : decode bs = .ok cs) : decodeLossy bs = cs :=
  map_orReplacement_of_chars h

end Utf8
end ScanDiscovery
