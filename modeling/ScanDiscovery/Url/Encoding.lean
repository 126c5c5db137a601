import ScanDiscovery.Text.Digit
import ScanDiscovery.Text.Utf8
/-!
# Url.Encoding — bytes written by number

A percent sign and two hexadecimal digits stand for a byte. Which characters are written so depends on the part
of an address they stand in; controls and all that is not ASCII always are.
-/
namespace ScanDiscovery.Url

/-- A set of ASCII characters that a part of an address does not show as they are. -/
abbrev EncodeSet := Char → Bool

def isControl (c : Char) : Bool := c.toNat < 0x20 || 0x7E < c.toNat

def controls : EncodeSet := isControl

def fragmentSet : EncodeSet := fun c => isControl c || [' ', '"', '<', '>', '`'].contains c

def pathSet : EncodeSet := fun c => fragmentSet c || ['#', '?', '{', '}'].contains c

def userinfoSet : EncodeSet := fun c => pathSet c || ['/', ':', ';', '=', '@', '[', '\\', ']', '^', '|'].contains c

def querySet : EncodeSet := fun c => isControl c || [' ', '"', '#', '<', '>'].contains c

def specialQuerySet : EncodeSet := fun c => querySet c || c = '\''

def encodeByte (b : UInt8) : List Char :=
  ['%', Text.hexDigit (b.toNat / 16), Text.hexDigit (b.toNat % 16)]

def encodeChar (set : EncodeSet) (c : Char) : List Char :=
  if set c then (String.utf8EncodeChar c).flatMap encodeByte else [c]

def encode (set : EncodeSet) (text : List Char) : List Char :=
  text.flatMap (encodeChar set)

def hexValue? (b : UInt8) : Option Nat := Text.digit? 16 (Char.ofNat b.toNat)

/-- The bytes with each escape replaced; what is no escape stays. `held` is what was read of one, at most a
percent sign and a digit. -/
def decodeFrom : Bytes → Bytes → Bytes
  | held, [] => held
  | [], b :: bs => if b = 0x25 then decodeFrom [b] bs else b :: decodeFrom [] bs
  | [p], b :: bs =>
    if b = 0x25 then p :: decodeFrom [b] bs
    else if (hexValue? b).isSome then decodeFrom [p, b] bs
    else p :: b :: decodeFrom [] bs
  | p :: h :: _, b :: bs =>
    match hexValue? h, hexValue? b with
    | some x, some y => UInt8.ofNat (x * 16 + y) :: decodeFrom [] bs
    | _, _ => p :: h :: (if b = 0x25 then decodeFrom [b] bs else b :: decodeFrom [] bs)

def decode (bs : Bytes) : Bytes := decodeFrom [] bs

example : decode (Utf8.encode "%41%4".toList) = Utf8.encode "A%4".toList := by decide

end ScanDiscovery.Url
