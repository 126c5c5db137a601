import ScanDiscovery.Decimal.Binary
/-!
# Decimal.Shortest — the fewest decimal digits that read back as the same number

All reals nearer to a number than to its neighbours read back as it, and the ends of that interval do if the
mantissa is even. On the grid of decimals of a length, the number has one neighbour below and one above it; the
first length at which one of them lies in the interval wins, and of two the nearer.
-/
namespace ScanDiscovery.Decimal

/-- `digits * 10 ^ exponent` -/
structure Scaled where
  digits : Nat
  exponent : Int
  deriving DecidableEq, Repr

def digitCount (n : Nat) : Nat := (Nat.toDigits 10 n).length

/-- The exponent of the power of ten at or below a positive quotient. -/
def magnitude (num den : Nat) : Int :=
  if den ≤ num then (digitCount (num / den) : Int) - 1
  else Int.negOfNat (digitCount ((num + den - 1) / num - 1))

/-- The neighbours of `4 * mantissa` quarter units on the grid of step `10 ^ k`, if they read back. A quarter unit
is `2 ^ quarter`; `below` quarter units lie between the number and the lower end of its interval. -/
def onGrid? (mantissa below : Nat) (quarter k : Int) : Option Scaled :=
  let unit := Nat.pow 2 quarter.toNat * Nat.pow 10 (-k).toNat
  let step := Nat.pow 10 k.toNat * Nat.pow 2 (-quarter).toNat
  let value := 4 * mantissa * unit
  let low := (4 * mantissa - below) * unit
  let high := (4 * mantissa + 2) * unit
  let d := value / step
  let inside (n : Nat) : Bool :=
    if mantissa % 2 = 0 then low ≤ n * step && n * step ≤ high else low < n * step && n * step < high
  match inside d, inside (d + 1) with
  | true, true => if value - d * step < (d + 1) * step - value then some ⟨d, k⟩ else some ⟨d + 1, k⟩
  | true, false => some ⟨d, k⟩
  | false, true => some ⟨d + 1, k⟩
  | false, false => none

/-- The digits without zeros at their end, of which there are at most `fuel`. -/
def Scaled.strip : Nat → Scaled → Scaled
  | 0, s => s
  | fuel + 1, s =>
    if s.digits ≠ 0 && s.digits % 10 = 0 then Scaled.strip fuel ⟨s.digits / 10, s.exponent + 1⟩ else s

/-- The shortest decimal for `mantissa * 2 ^ exponent`, which is positive. Seventeen digits always suffice. -/
def shortest (mantissa : Nat) (exponent : Int) : Scaled :=
  let quarter := exponent - 2
  let below := if mantissa = Binary.leadingMantissa && exponent ≠ Binary.leastExponent then 1 else 2
  let (num, den) := dyadic mantissa exponent
  let e := magnitude num den
  match (List.range 17).findSome? fun (n : Nat) => onGrid? mantissa below quarter (e - n) with
  | some s => s.strip 17
  | none => ⟨0, 0⟩

end ScanDiscovery.Decimal
