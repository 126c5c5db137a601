/-!
# Text.Digit — digits and their values

Letters of either case count on from ten. Digits that are written are hexadecimal, with capital letters.
-/
namespace ScanDiscovery.Text

/-- The value of a digit, if it is one in this radix, which is at most 36. -/
def digit? (radix : Nat) (c : Char) : Option Nat :=
  let d :=
    if '0' ≤ c && c ≤ '9' then c.toNat - '0'.toNat
    else if 'a' ≤ c && c ≤ 'z' then c.toNat - 'a'.toNat + 10
    else if 'A' ≤ c && c ≤ 'Z' then c.toNat - 'A'.toNat + 10
    else radix
  if d < radix then some d else none

/-- The value of decimal digits, most significant first. -/
def decimalValue (digits : List Char) : Nat :=
  digits.foldl (fun n d => n * 10 + (d.toNat - '0'.toNat)) 0

def hexDigit (n : Nat) : Char := (Nat.digitChar n).toUpper

theorem decimalValue_append_singleton (ds : List Char) (d : Char) :
    decimalValue (ds ++ [d]) = decimalValue ds * 10 + (d.toNat - '0'.toNat) := by
  simp [decimalValue]

end ScanDiscovery.Text
