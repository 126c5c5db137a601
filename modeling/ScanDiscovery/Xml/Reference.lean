import ScanDiscovery.Text.Digit
import ScanDiscovery.Xml.Error
/-!
# Xml.Reference — the references in a text

A reference begins with an ampersand and ends with the next semicolon, before any other ampersand. It is one of
the five named ones, or the number of a character, decimal or (after a small x) hexadecimal. Positions in faults
count bytes.
-/
namespace ScanDiscovery.Xml.Reference

/-- The five characters with a name. -/
def entities : List (String × Char) :=
  [("lt", '<'), ("gt", '>'), ("amp", '&'), ("apos", '\''), ("quot", '"')]

def entity? (name : List Char) : Option Char :=
  entities.lookup (String.ofList name)

/-- The digits from left to right; the first that is none, or that takes the number past 32 bits, decides. -/
def digits (radix : Nat) (acc : Nat) : List Char → Except NumberFault Nat
  | [] => .ok acc
  | c :: cs =>
    match Text.digit? radix c with
    | none => .error .digit
    | some d =>
      let acc := acc * radix + d
      if acc < Nat.pow 2 32 then digits radix acc cs else .error .tooLarge

def number (radix : Nat) (text : List Char) : Except NumberFault Nat :=
  match text with
  | [] => .error .empty
  | c :: cs => if c = '+' || c = '-' then .error .signed else digits radix 0 (c :: cs)

/-- The character with a number. -/
def ofCode (code : Nat) : Except NumberFault Char :=
  if code = 0 then .error .zero
  else if code.isValidChar then .ok (Char.ofNat code)
  else .error (.notScalar code)

def numbered (text : List Char) : Except NumberFault Char :=
  match text with
  | 'x' :: cs => (number 16 cs).bind ofCode
  | cs => (number 10 cs).bind ofCode

/-- What the text between the ampersand and the semicolon stands for; it begins at byte `first`. -/
def resolve (first : Nat) (body : List Char) : Except ReferenceFault Char :=
  match body with
  | '#' :: cs => (numbered cs).mapError .number
  | cs =>
    match entity? cs with
    | some c => .ok c
    | none => .error (.unknownEntity first (first + (Utf8.encode cs).length) cs)

/-- The text with its references replaced. `pending` is the reference being read, newest character first, and the
byte at which its ampersand stands; `index` is the byte at which the rest begins, `size` the length of it all. -/
def replaceFrom (size : Nat) : Option (Nat × List Char) → Nat → List Char → Except ReferenceFault (List Char)
  | none, _, [] => .ok []
  | some (start, _), _, [] => .error (.unterminated start size)
  | none, index, c :: cs =>
    if c = '&' then replaceFrom size (some (index, [])) (index + 1) cs
    else (c :: ·) <$> replaceFrom size none (index + c.utf8Size) cs
  | some (start, read), index, c :: cs =>
    if c = '&' then .error (.unterminated start size)
    else if c = ';' then
      match resolve (start + 1) read.reverse with
      | .error e => .error e
      | .ok r => (r :: ·) <$> replaceFrom size none (index + 1) cs
    else replaceFrom size (some (start, c :: read)) (index + c.utf8Size) cs

/-- The characters that a text stands for. -/
def replace (text : List Char) : Except ReferenceFault (List Char) :=
  replaceFrom (Utf8.encode text).length none 0 text

/-- A character as it is written in a text or a value. -/
def escapeChar (c : Char) : List Char :=
  match c with
  | '<' => "&lt;".toList
  | '>' => "&gt;".toList
  | '&' => "&amp;".toList
  | '\'' => "&apos;".toList
  | '"' => "&quot;".toList
  | c => [c]

/-- A text in which none of the five characters stands for itself. -/
def escape (text : List Char) : List Char :=
  text.flatMap escapeChar

end ScanDiscovery.Xml.Reference
