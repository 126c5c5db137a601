import ScanDiscovery.Text.Digit
import ScanDiscovery.Text.Utf8
/-!
# Http.Reply — replies, read from bytes

A reply has a head of lines: a status, then fields, then an empty line. The status and the fields say how much of
what follows is its body. Replies that only inform come before the one that counts. Bytes whose head cannot be read
are no reply; where the bytes end before the announced body does, there is a reply, but not its body.
-/
namespace ScanDiscovery.Http

structure Reply where
  code : Nat
  /-- what the status says besides its code, in ASCII -/
  reason : List Char
  /-- absent if it is not complete -/
  body : Option Bytes
  deriving DecidableEq

/-! Lines. -/

/-- The text before the first line feed, without a carriage return at its end, and what follows it. -/
def splitLine? (bs : Bytes) : Option (Bytes × Bytes) :=
  let line := bs.takeWhile (· ≠ 0x0A)
  match bs.dropWhile (· ≠ 0x0A) with
  | [] => none
  | _ :: rest => some (if line.getLast? = some 0x0D then line.dropLast else line, rest)

/-- The lines up to an empty one, at most `fuel`, and what follows it. -/
def headLines? : Nat → Bytes → Option (List Bytes × Bytes)
  | 0, _ => none
  | fuel + 1, bs => do
    let (line, rest) ← splitLine? bs
    if line.isEmpty then some ([], rest)
    else
      let (lines, body) ← headLines? fuel rest
      some (line :: lines, body)

/-- The bytes without the empty lines that they begin with. -/
def skipEmptyLines : Bytes → Bytes
  | 0x0A :: bs => skipEmptyLines bs
  | 0x0D :: 0x0A :: bs => skipEmptyLines bs
  | bs => bs

/-- What a line may hold behind its first words: no control but the tab. -/
def isText (b : UInt8) : Bool := b = 0x09 || (0x20 ≤ b && b ≠ 0x7F)

def isDigit (b : UInt8) : Bool := 0x30 ≤ b && b ≤ 0x39

def character (b : UInt8) : Char := Char.ofNat b.toNat

/-! Heads. -/

structure Field where
  name : String
  value : Bytes
  deriving DecidableEq

structure Head where
  code : Nat
  reason : List Char
  fields : List Field
  deriving DecidableEq

def versions : List Bytes := ["HTTP/1.0 ", "HTTP/1.1 "].map fun v => Utf8.encode v.toList

/-- A reason, none if a byte of it is not ASCII. -/
def reason? (bs : Bytes) : Option (List Char) :=
  if !bs.all isText then none else if bs.all (· < 0x80) then some (bs.map character) else some []

/-- Code and reason from the first line: three digits, and a blank before the reason. -/
def status? (line : Bytes) : Option (Nat × List Char) := do
  let status ← versions.findSome? fun v => v.isPrefixOf? line
  let digits := status.take 3
  let code := Text.decimalValue (digits.map character)
  if digits.length < 3 || !digits.all isDigit || code < 100 then none
  else
    match status.drop 3 with
    | [] => some (code, [])
    | 0x20 :: reason => (reason? reason).map fun r => (code, r)
    | _ => none

/-- What a field's name is made of. -/
def inName (b : UInt8) : Bool :=
  (character b).isAlphanum || (Utf8.encode "!#$%&'*+-.^_`|~".toList).contains b

def isBlank (b : UInt8) : Bool := b = 0x20 || b = 0x09

def trim (bs : Bytes) : Bytes := ((bs.dropWhile isBlank).reverse.dropWhile isBlank).reverse

/-- A name, in lower case, a colon and a value. -/
def field? (line : Bytes) : Option Field :=
  let name := line.takeWhile inName
  match line.dropWhile inName with
  | 0x3A :: value =>
    if name.isEmpty || !value.all isText then none
    else some ⟨String.ofList (name.map fun b => (character b).toLower), trim value⟩
  | _ => none

/-- A head, and what follows it. -/
def head? (bs : Bytes) : Option (Head × Bytes) := do
  let (lines, rest) ← headLines? bs.length (skipEmptyLines bs)
  let (first, others) ← lines.head?.map fun first => (first, lines.tail)
  let (code, reason) ← status? first
  let fields ← others.mapM field?
  some (⟨code, reason, fields⟩, rest)

/-! Bodies. -/

/-- How much of what follows a head is its body. -/
inductive Extent where
  | nothing
  | announced (length : Nat)
  | toEnd
  deriving DecidableEq, Repr

/-- No body can be announced to be longer. -/
def longestBody : Nat := Nat.pow 2 64 - 3

def length? (digits : Bytes) : Option Nat :=
  if digits.isEmpty || !digits.all isDigit then none else some (Text.decimalValue (digits.map character))

/-- A status that comes without a body, whatever is announced. -/
def isBodiless (code : Nat) : Bool := code = 101 || code = 204 || code = 304

/-- A status that only informs, and has another reply behind it. -/
def isInterim (code : Nat) : Bool := 100 ≤ code && code < 200 && code ≠ 101

/-- The extent of the body, unless it is announced in a wrong way: lengths may be repeated, but must agree. -/
def Head.extent? (h : Head) : Option Extent :=
  if isBodiless h.code then some .nothing
  else
    let lengths := (h.fields.filter (·.name = "content-length")).flatMap fun f => f.value.splitOn 0x2C
    match lengths.mapM fun l => length? (trim l) with
    | none => none
    | some [] => some .toEnd
    | some (n :: ns) => if ns.all (· = n) && n ≤ longestBody then some (.announced n) else none

/-- The body in what follows a head, if it is complete. -/
def Extent.body? (e : Extent) (bs : Bytes) : Option Bytes :=
  match e with
  | .nothing => some []
  | .announced n => if n ≤ bs.length then some (bs.take n) else none
  | .toEnd => some bs

/-- The first reply that counts, with at most `fuel` before it. -/
def Reply.ofBytesWithin? : Nat → Bytes → Option Reply
  | 0, _ => none
  | fuel + 1, bs =>
    match head? bs with
    | none => none
    | some (h, rest) =>
      if isInterim h.code then ofBytesWithin? fuel rest
      else h.extent?.map fun e => ⟨h.code, h.reason, e.body? rest⟩

/-- The reply in some bytes. -/
def Reply.ofBytes? (bs : Bytes) : Option Reply := ofBytesWithin? bs.length bs

example :
    (Reply.ofBytes? (Utf8.encode "HTTP/1.1 100 Continue\n\nHTTP/1.1 200 OK\nContent-Length: 2\n\nabc".toList)) =
      some ⟨200, "OK".toList, some (Utf8.encode "ab".toList)⟩ := by decide +kernel

end ScanDiscovery.Http
