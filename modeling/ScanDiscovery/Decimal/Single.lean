import ScanDiscovery.Decimal.Binary
import ScanDiscovery.Text.Digit
/-!
# Decimal.Single — numbers of single precision read from text

A text is an optional sign and either digits with an optional point and an optional exponent, or the name of
infinity or of no number, in letters of either case. Its exact value is rounded to the nearest number of 24 bits,
a tie to the even one.
-/
namespace ScanDiscovery.Decimal.Single

inductive Fault where
  | empty
  | invalid
  deriving DecidableEq, Repr

def Fault.message : Fault → String
  | .empty => "cannot parse float from empty string"
  | .invalid => "invalid float literal"

/-- The exponent of the units of the number of 24 bits just at or below a quotient, but not below the least one. -/
def unitOf (num den : Nat) : Int :=
  let e : Int := (Nat.log2 num : Int) - Nat.log2 den
  let (a, b) := dyadic den e
  let e := if num * b < a then e - 1 else e
  max (e - 23) (-149)

/-- A positive quotient rounded. -/
def roundQuotient (negative : Bool) (num den : Nat) : Binary :=
  let e := unitOf num den
  let m := roundDiv (num * Nat.pow 2 (-e).toNat) (den * Nat.pow 2 e.toNat)
  if Nat.pow 2 128 ≤ m * Nat.pow 2 e.toNat then .infinite negative else .finite negative m e

/-- `digits * 10 ^ exponent` rounded. Exponents far outside the range of single precision are not computed. -/
def round (negative : Bool) (digits : Nat) (exponent : Int) : Binary :=
  let size : Int := (Nat.toDigits 10 digits).length
  if digits = 0 || size + exponent < -60 then .finite negative 0 (-149)
  else if 60 < size + exponent then .infinite negative
  else roundQuotient negative (digits * Nat.pow 10 exponent.toNat) (Nat.pow 10 (-exponent).toNat)

def digitsOf (text : List Char) : List Char := text.takeWhile Char.isDigit

def afterDigits (text : List Char) : List Char := text.dropWhile Char.isDigit

def signOf : List Char → Bool × List Char
  | '-' :: text => (true, text)
  | '+' :: text => (false, text)
  | text => (false, text)

/-- The exponent at the end of a number. -/
def exponent? (text : List Char) : Option Int :=
  match text with
  | [] => some 0
  | e :: text =>
    let (negative, digits) := signOf text
    if (e = 'e' || e = 'E') && !digits.isEmpty && digits.all Char.isDigit then
      some (if negative then -(Text.decimalValue digits : Int) else Text.decimalValue digits)
    else none

/-- Digits with an optional point, and an optional exponent. -/
def number? (negative : Bool) (text : List Char) : Option Binary :=
  let whole := digitsOf text
  let rest := afterDigits text
  let (places, rest) := match rest with
    | '.' :: rest => (digitsOf rest, afterDigits rest)
    | rest => ([], rest)
  if whole.isEmpty && places.isEmpty then none
  else (exponent? rest).map fun e => round negative (Text.decimalValue (whole ++ places)) (e - places.length)

/-- The values with a name. -/
def named? (negative : Bool) (text : List Char) : Option Binary :=
  let lower := String.ofList (text.map Char.toLower)
  if lower = "inf" || lower = "infinity" then some (.infinite negative)
  else if lower = "nan" then some .nan
  else none

def read (text : List Char) : Except Fault Binary :=
  if text.isEmpty then .error .empty
  else
    let (negative, rest) := signOf text
    match (named? negative rest).or (number? negative rest) with
    | some b => .ok b
    | none => .error .invalid

example : (read "16777217".toList).toOption = some (.finite false 8388608 1) := by decide +kernel

example : (read "1e-45".toList).toOption = some (.finite false 1 (-149)) := by decide +kernel

example : (read "3.5e38".toList).toOption = some (.infinite false) := by decide +kernel

example : (read ".".toList).toOption = none ∧ (read "1e".toList).toOption = none := by decide +kernel

end ScanDiscovery.Decimal.Single
