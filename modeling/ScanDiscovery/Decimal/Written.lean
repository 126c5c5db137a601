import ScanDiscovery.Decimal.Shortest
/-!
# Decimal.Written — numbers written out

A number is written with all its shortest digits, in positional notation while its magnitude is moderate, or with
a fixed number of places, the exact value rounded to the nearest and a half to the even digit.
-/
namespace ScanDiscovery.Decimal

/-- How numbers are written when all their digits are to be seen. -/
structure Style where
  /-- the magnitudes that are written in positional notation -/
  least : Int
  greatest : Int

/-- From a ten-thousandth on, and below ten to the sixteenth. -/
def Style.plain : Style := ⟨-4, 15⟩

def zeros (n : Nat) : List Char := List.replicate n '0'

/-- Digits with a point before the digit at `place`, counted from the left; a number has a digit on either side of
its point. -/
def positional (digits : List Char) (place : Int) : List Char :=
  if place ≤ 0 then '0' :: '.' :: zeros (-place).toNat ++ digits
  else if digits.length ≤ place then digits ++ zeros (place.toNat - digits.length) ++ ['.', '0']
  else digits.take place.toNat ++ '.' :: digits.drop place.toNat

/-- Digits with a point after the first, if there are more, and the exponent. -/
def scientific (digits : List Char) (exponent : Int) : List Char :=
  let point := if digits.length ≤ 1 then [] else ['.']
  digits.take 1 ++ point ++ digits.drop 1 ++ 'e' :: (toString exponent).toList

def Scaled.text (form : Style) (s : Scaled) : List Char :=
  let digits := Nat.toDigits 10 s.digits
  let e := s.exponent + digits.length - 1
  if form.least ≤ e && e ≤ form.greatest then positional digits (e + 1) else scientific digits e

def signed (negative : Bool) (text : List Char) : String :=
  String.ofList (if negative then '-' :: text else text)

/-- A number with all its digits. -/
def full (x : Float) : String :=
  match Binary.ofFloat x with
  | .nan => "NaN"
  | .infinite negative => signed negative "inf".toList
  | .finite negative 0 _ => signed negative "0.0".toList
  | .finite negative m e => signed negative ((shortest m e).text .plain)

/-- A natural number of units of ten to the minus `places`, with a point. -/
def withPlaces (places n : Nat) : List Char :=
  let digits := Nat.toDigits 10 n
  let digits := zeros (places + 1 - digits.length) ++ digits
  digits.take (digits.length - places) ++ '.' :: digits.drop (digits.length - places)

/-- A number with so many places. -/
def fixed (places : Nat) (x : Float) : String :=
  match Binary.ofFloat x with
  | .nan => "NaN"
  | .infinite negative => signed negative "inf".toList
  | .finite negative m e =>
    let (num, den) := dyadic m e
    signed negative (withPlaces places (roundDiv (num * Nat.pow 10 places) den))

example : full 0.0 = "0.0" ∧ full 215.9 = "215.9" ∧ full 42418.0 = "42418.0" := by decide +kernel

example : full 5.913898350185225e-9 = "5.913898350185225e-9" := by decide +kernel

example : fixed 1 0.25 = "0.2" ∧ fixed 1 0.35 = "0.3" ∧ fixed 1 215.9 = "215.9" := by decide +kernel

end ScanDiscovery.Decimal
