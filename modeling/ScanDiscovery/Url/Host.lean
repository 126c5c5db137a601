import ScanDiscovery.Url.Domain.Name
import ScanDiscovery.Url.Encoding
/-!
# Url.Host — the host in an address

A host is a name or a number: four bytes, or eight words between brackets. A name in an address of a known scheme
is an international one, written in ASCII, and one that ends in a number is a number.
-/
namespace ScanDiscovery.Url

inductive Host where
  | domain (name : String)
  | ipv4 (address : Nat)
  | ipv6 (words : List Nat)
  deriving DecidableEq, Repr

/-- Why a text is not an address. -/
inductive Fault where
  | relative
  | emptyHost
  | port
  | ipv4
  | ipv6
  | domainCharacter
  | domainName
  deriving DecidableEq, Repr

def Fault.message : Fault → String
  | .relative => "relative URL without a base"
  | .emptyHost => "empty host"
  | .port => "invalid port number"
  | .ipv4 => "invalid IPv4 address"
  | .ipv6 => "invalid IPv6 address"
  | .domainCharacter => "invalid domain character"
  | .domainName => "invalid international domain name"

/-- The number with these digits, if they are digits. -/
def readDigits? (radix : Nat) (text : List Char) : Option Nat :=
  text.foldlM (fun n c => (Text.digit? radix c).map (n * radix + ·)) 0

namespace Ipv4

/-- A number of an address: hexadecimal, octal or decimal by its beginning. -/
def number? (text : List Char) : Option Nat :=
  match text with
  | [] => none
  | '0' :: 'x' :: digits => readDigits? 16 digits
  | '0' :: 'X' :: digits => readDigits? 16 digits
  | '0' :: d :: digits => readDigits? 8 (d :: digits)
  | digits => readDigits? 10 digits

/-- The parts between the dots, without an empty one at the end. -/
def parts (name : List Char) : List (List Char) :=
  let ps := name.splitOn '.'
  if ps.length > 1 && ps.getLast? = some [] then ps.dropLast else ps

/-- Whether a name must be an address. -/
def isNumeric (name : List Char) : Bool :=
  match (parts name).getLast? with
  | none => false
  | some [] => false
  | some last => last.all Char.isDigit || (number? last).isSome

/-- The last number of an address fills what the others, of a byte each, leave. -/
def ofParts (numbers : List Nat) : Except Fault Nat :=
  match numbers.reverse with
  | [] => .error .ipv4
  | last :: firsts =>
    if firsts.length > 3 || firsts.any (255 < ·) || Nat.pow 256 (4 - firsts.length) ≤ last then .error .ipv4
    else .ok (firsts.reverse.zipIdx.foldl (fun value (n, i) => value + n * Nat.pow 256 (3 - i)) last)

def parse (name : List Char) : Except Fault Nat :=
  match (parts name).mapM number? with
  | some numbers => ofParts numbers
  | none => .error .ipv4

def text (address : Nat) : String :=
  ".".intercalate ([16777216, 65536, 256, 1].map fun unit => toString (address / unit % 256))

example : text 3221226001 = "192.0.2.17" := by decide

end Ipv4

namespace Ipv6

/-- A word: one to four hexadecimal digits. -/
def word? (text : List Char) : Option Nat :=
  if text.isEmpty || 4 < text.length then none else readDigits? 16 text

/-- A byte in decimal, without zeros before it. -/
def byte? (text : List Char) : Option Nat :=
  if text.isEmpty || (text.head? = some '0' && 1 < text.length) then none
  else (readDigits? 10 text).filter (· < 256)

/-- The two words of four bytes in decimal. -/
def dotted? (text : List Char) : Option (List Nat) :=
  match (text.splitOn '.').mapM byte? with
  | some [a, b, c, d] => some [a * 256 + b, c * 256 + d]
  | _ => none

/-- The words between colons; the last of an address may be two, in decimal. -/
def words? (isLast : Bool) (text : List Char) : Option (List Nat) :=
  if text.isEmpty then some []
  else
    let groups := text.splitOn ':'
    match groups.mapM word? with
    | some ws => some ws
    | none =>
      if isLast then do
        let ws ← groups.dropLast.mapM word?
        let tail ← dotted? (groups.getLast?.getD [])
        pure (ws ++ tail)
      else none

/-- What stands before and after the first two colons in a row. -/
def splitGap : List Char → Option (List Char × List Char)
  | ':' :: ':' :: cs => some ([], cs)
  | c :: cs => (splitGap cs).map fun (before, behind) => (c :: before, behind)
  | [] => none

/-- The eight words of an address; a gap stands for one or more words of zero. -/
def parse? (text : List Char) : Option (List Nat) :=
  match splitGap text with
  | none => (words? true text).filter (·.length = 8)
  | some (before, behind) => do
    let ws ← words? false before
    let ws' ← words? true behind
    if ws.length + ws'.length < 8 then
      some (ws ++ List.replicate (8 - ws.length - ws'.length) 0 ++ ws')
    else none

/-- How many zeros the list begins with. -/
def leadingZeros (words : List Nat) : Nat := (words.takeWhile (· = 0)).length

/-- Where the first of the longest runs of zeros begins, and its length, among those from `index` on. -/
def longestGap : Nat → List Nat → Nat × Nat
  | _, [] => (0, 0)
  | index, w :: ws =>
    let later := longestGap (index + 1) ws
    let here := leadingZeros (w :: ws)
    if later.2 ≤ here then (index, here) else later

def joined (words : List Nat) : String :=
  ":".intercalate (words.map fun w => String.ofList (Nat.toDigits 16 w))

/-- The shortest text of an address. -/
def text (words : List Nat) : String :=
  let (start, size) := longestGap 0 words
  if size < 2 then joined words
  else joined (words.take start) ++ "::" ++ joined (words.drop (start + size))

/-- The text of an address as a value: one that stands for four bytes shows them. -/
def shown (words : List Nat) : String :=
  match words with
  | [0, 0, 0, 0, 0, 0xFFFF, a, b] => "::ffff:" ++ Ipv4.text (a * 65536 + b)
  | _ => text words

example : (parse? "fe80::1".toList).map text = some "fe80::1" := by decide

example : (parse? "::".toList).map text = some "::" ∧ parse? "::1::".toList = none := by decide

example : parse? "1:2:3:4:5:6:7::8".toList = none := by decide

end Ipv6

namespace Host

def text : Host → String
  | .domain name => name
  | .ipv4 address => Ipv4.text address
  | .ipv6 words => "[" ++ Ipv6.text words ++ "]"

/-- What no host may hold. -/
def isForbidden (c : Char) : Bool :=
  ['\x00', '\t', '\n', '\r', ' ', '#', '/', ':', '<', '>', '?', '@', '[', '\\', ']', '^', '|'].contains c

/-- The host between brackets. -/
def bracketed (text : List Char) : Except Fault Host :=
  match text.reverse with
  | ']' :: inner =>
    match Ipv6.parse? inner.reverse with
    | some words => .ok (.ipv6 words)
    | none => .error .ipv6
  | _ => .error .ipv6

/-- The host of an address of a known scheme. -/
def parseSpecial (text : List Char) : Except Fault Host :=
  match text with
  | '[' :: inner => bracketed inner
  | text =>
    match (Utf8.decode (decode (Utf8.encode text))).toOption.bind Domain.ascii? with
    | none => .error .domainName
    | some name =>
      if name.isEmpty then .error .emptyHost
      else if Ipv4.isNumeric name then (Ipv4.parse name).map .ipv4
      else .ok (.domain (String.ofList name))

/-- The host of an address of another scheme, of which nothing is known. -/
def parseOther (text : List Char) : Except Fault Host :=
  match text with
  | '[' :: inner => bracketed inner
  | text =>
    if text.any isForbidden then .error .domainCharacter
    else .ok (.domain (String.ofList (encode controls text)))

end Host
end ScanDiscovery.Url
