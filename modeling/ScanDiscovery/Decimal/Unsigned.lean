import ScanDiscovery.Text.Digit
/-!
# Decimal.Unsigned — numbers of 32 bits in decimal digits

An optional plus sign, then one or more ASCII digits, with a value below 2 ^ 32. Leading zeros count for nothing.
-/
namespace ScanDiscovery.Decimal

/-- A text without the plus sign it may begin with. -/
def dropPlus : List Char → List Char
  | '+' :: digits => digits
  | digits => digits

/-- The number that a text spells. -/
def unsigned? (text : List Char) : Option UInt32 :=
  let digits := dropPlus text
  if digits.isEmpty || !digits.all Char.isDigit then none
  else if Text.decimalValue digits < Nat.pow 2 32 then some (UInt32.ofNat (Text.decimalValue digits))
  else none

example : unsigned? "+007".toList = some 7 := by decide

example : unsigned? "4294967295".toList = some 4294967295 ∧ unsigned? "4294967296".toList = none := by decide

example : unsigned? "+".toList = none ∧ unsigned? "-0".toList = none ∧ unsigned? "++1".toList = none := by decide

end ScanDiscovery.Decimal
