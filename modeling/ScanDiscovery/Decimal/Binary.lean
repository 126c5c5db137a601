/-!
# Decimal.Binary — the exact value of a binary floating-point number

A finite number is a natural number times a power of two. The parts are read off the bits.
-/
namespace ScanDiscovery.Decimal

inductive Binary where
  | nan
  | infinite (negative : Bool)
  /-- `mantissa * 2 ^ exponent`, or its negative -/
  | finite (negative : Bool) (mantissa : Nat) (exponent : Int)
  deriving DecidableEq, Repr

namespace Binary

/-- The mantissa of the smallest number of a binade, and the exponent of the smallest numbers of all. -/
def leadingMantissa : Nat := Nat.pow 2 52

def leastExponent : Int := -1074

def ofFloat (x : Float) : Binary :=
  let bits := x.toBits.toNat
  let negative := bits / Nat.pow 2 63 = 1
  let field : Nat := bits / leadingMantissa % Nat.pow 2 11
  let fraction := bits % leadingMantissa
  if field = Nat.pow 2 11 - 1 then if fraction = 0 then .infinite negative else .nan
  else if field = 0 then .finite negative fraction leastExponent
  else .finite negative (fraction + leadingMantissa) (leastExponent + field - 1)

end Binary

/-- The quotient rounded to the nearest whole number, a half to the even one. -/
def roundDiv (num den : Nat) : Nat :=
  let q := num / den
  let r := num % den
  if 2 * r < den then q else if den < 2 * r then q + 1 else if q % 2 = 0 then q else q + 1

/-- `n * 2 ^ e` as a quotient of natural numbers. -/
def dyadic (n : Nat) (e : Int) : Nat × Nat :=
  (n * Nat.pow 2 e.toNat, Nat.pow 2 (-e).toNat)

end ScanDiscovery.Decimal
