import ScanDiscovery.Text.Composed
import ScanDiscovery.Url.Domain.Joining
import ScanDiscovery.Url.Domain.Mapping
import ScanDiscovery.Url.Punycode
/-!
# Url.Domain.Label — what stands between the dots of a name

A label has characters, and a form in ASCII in which they are written if some of them are not. Where a label is
given in this form, the characters must be some that a label can have, and that no other label has.
-/
namespace ScanDiscovery.Url.Domain

def isAscii (c : Char) : Bool := c.toNat < 0x80

/-- What has a meaning in an address, and so none in a name. -/
def isReserved (c : Char) : Bool :=
  c.toNat ≤ 0x20 || c = '\x7f' || ['#', '%', '/', ':', '<', '>', '?', '@', '[', '\\', ']', '^', '|'].contains c

/-- How many characters a label may have, if one is not ASCII. -/
def longestLabel : Nat := 1000

/-- How long a label's form in ASCII may be. -/
def longestWritten : Nat := 2000

/-- Whether a label can have these characters. -/
def isLabel (text : List Char) : Bool :=
  !text.head?.any Text.isMark && joinersFit [] text && (text.all isAscii || text.length ≤ longestLabel)

/-- What a form in ASCII begins with. -/
def asciiMark : List Char := "xn--".toList

structure Label where
  text : List Char
  ascii : List Char
  deriving DecidableEq, Repr

/-- The label whose form in ASCII is the mark and this. -/
def Label.ofWritten? (written : List Char) : Option Label :=
  if written.getLast?.all (· = '-') || longestWritten < written.length then none
  else
    (Punycode.decode? written).bind fun text =>
      if text.all isValid && Text.composed text = text && isLabel text then some ⟨text, asciiMark ++ written⟩
      else none

/-- The label that is given by these characters of a name. -/
def Label.ofText? (text : List Char) : Option Label :=
  if text.any isReserved then none
  else
    match asciiMark.isPrefixOf? text with
    | some written => Label.ofWritten? written
    | none =>
      if text.all isAscii then some ⟨text, text⟩
      else if isLabel text then some ⟨text, asciiMark ++ Punycode.encode text⟩
      else none

end ScanDiscovery.Url.Domain
