import ScanDiscovery.Decimal.Single
/-!
# Duration — lengths of time in whole nanoseconds

A number of seconds becomes the nearest length, a tie the even one. Lengths are written in the largest unit of
which they have one, with all their decimals.
-/
namespace ScanDiscovery

structure Duration where
  nanoseconds : Nat
  deriving DecidableEq, Repr

namespace Duration

def nanosPerSecond : Nat := 1000000000

def ofSeconds (n : Nat) : Duration := ⟨n * nanosPerSecond⟩

def seconds (d : Duration) : Nat := d.nanoseconds / nanosPerSecond

def subsecond (d : Duration) : Nat := d.nanoseconds % nanosPerSecond

/-- Why a text is no length of time. -/
inductive Fault where
  | number (fault : Decimal.Single.Fault)
  | negative
  | tooLong
  deriving DecidableEq, Repr

def Fault.message : Fault → String
  | .number fault => fault.message
  | .negative => "cannot convert float seconds to Duration: value is negative"
  | .tooLong => "cannot convert float seconds to Duration: value is either too big or NaN"

/-- The length of a number of seconds; seconds are counted in 64 bits. -/
def ofBinary : Decimal.Binary → Except Fault Duration
  | .nan => .error .tooLong
  | .infinite negative => .error (if negative then .negative else .tooLong)
  | .finite negative m e =>
    if negative && m ≠ 0 then .error .negative
    else
      let (num, den) := Decimal.dyadic m e
      if Nat.pow 2 64 * den ≤ num then .error .tooLong
      else .ok ⟨Decimal.roundDiv (num * nanosPerSecond) den⟩

/-- The length that a text states in seconds. -/
def read (text : String) : Except Fault Duration :=
  match Decimal.Single.read text.toList with
  | .ok b => ofBinary b
  | .error e => .error (.number e)

def stripZeros (digits : List Char) : List Char :=
  (digits.reverse.dropWhile (· = '0')).reverse

/-- A count of units, each of `10 ^ places` nanoseconds, with its decimals. -/
def inUnits (places : Nat) (suffix : String) (nanoseconds : Nat) : String :=
  let digits := Nat.toDigits 10 (nanoseconds % Nat.pow 10 places)
  let decimals := stripZeros (List.replicate (places - digits.length) '0' ++ digits)
  let point := if decimals.isEmpty then [] else ['.']
  toString (nanoseconds / Nat.pow 10 places) ++ String.ofList (point ++ decimals) ++ suffix

def text (d : Duration) : String :=
  if Nat.pow 10 9 ≤ d.nanoseconds then inUnits 9 "s" d.nanoseconds
  else if Nat.pow 10 6 ≤ d.nanoseconds then inUnits 6 "ms" d.nanoseconds
  else if Nat.pow 10 3 ≤ d.nanoseconds then inUnits 3 "µs" d.nanoseconds
  else toString d.nanoseconds ++ "ns"

end Duration
end ScanDiscovery
