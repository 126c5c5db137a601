import ScanDiscovery.Text.Digit
/-!
# Url.Punycode — any characters written in letters and digits

The ASCII characters of a label come first. The others follow by ascending number; each is written as its distance
from the one before, counted over all the places it might stand in, in digits whose thresholds adapt to what was
written before.
-/
namespace ScanDiscovery.Url.Punycode

def digit (d : Nat) : Char :=
  if d < 26 then Char.ofNat (0x61 + d) else Char.ofNat (0x30 + d - 26)

/-- The value of a digit: letters come before numbers. -/
def digit? (c : Char) : Option Nat := (Text.digit? 36 c).map fun d => (d + 26) % 36

def threshold (k bias : Nat) : Nat :=
  if k ≤ bias then 1 else if bias + 26 ≤ k then 26 else k - bias

/-- A distance in digits, at most `fuel` of them, where `k` is 36 times the place of the first. -/
def distance (bias : Nat) : Nat → Nat → Nat → List Char
  | 0, _, _ => []
  | fuel + 1, k, q =>
    let t := threshold k bias
    if q < t then [digit q]
    else digit (t + (q - t) % (36 - t)) :: distance bias fuel (k + 36) ((q - t) / (36 - t))

/-- The bias that fits distances like `delta`, which is divided by 35 until it is small. -/
def settleBias : Nat → Nat → Nat → Nat
  | 0, k, delta => k + 36 * delta / (delta + 38)
  | fuel + 1, k, delta =>
    if delta ≤ 455 then k + 36 * delta / (delta + 38) else settleBias fuel (k + 36) (delta / 35)

def adapt (delta points : Nat) (isFirst : Bool) : Nat :=
  let delta := if isFirst then delta / 700 else delta / 2
  settleBias 32 0 (delta + delta / points)

/-- How far the writing of a label has come. -/
structure State where
  delta : Nat
  bias : Nat
  handled : Nat
  written : List Char

/-- One pass over the label, which writes each place where `n` stands. -/
def pass (basic n : Nat) (label : List Char) (s : State) : State :=
  label.foldl (fun s c =>
    if c.toNat < n then { s with delta := s.delta + 1 }
    else if c.toNat = n then
      { delta := 0
        bias := adapt s.delta (s.handled + 1) (s.handled = basic)
        handled := s.handled + 1
        written := s.written ++ distance s.bias 32 36 s.delta }
    else s) s

/-- The passes for the numbers above `n`, of which there are at most `fuel`. -/
def passes (basic : Nat) (label : List Char) : Nat → Nat → State → State
  | 0, _, s => s
  | fuel + 1, n, s =>
    match ((label.map Char.toNat).filter (n ≤ ·)).min? with
    | none => s
    | some m =>
      let s := pass basic m label { s with delta := s.delta + (m - n) * (s.handled + 1) }
      passes basic label fuel (m + 1) { s with delta := s.delta + 1 }

def encode (label : List Char) : List Char :=
  let basic := label.filter (·.toNat < 128)
  let s : State := ⟨0, 72, basic.length, []⟩
  let written := (passes basic.length label label.length 128 s).written
  basic ++ (if basic.isEmpty then [] else ['-']) ++ written

/-- How far the reading of a label has come: the characters that are in their places, the least number and the
place that the next one can have, and what the digits of its distance come to so far, of which the next counts
`weight`. -/
structure Reading where
  label : List Char
  least : Nat
  place : Nat
  bias : Nat
  distance : Nat
  weight : Nat
  k : Nat

namespace Reading

def start (basic : List Char) : Reading := ⟨basic, 128, 0, 72, 0, 1, 36⟩

/-- No number of a reading may be as great. -/
def limit : Nat := Nat.pow 2 32

/-- Puts a character where its distance, which is complete, says. -/
def put? (r : Reading) : Option Reading :=
  let places := r.label.length + 1
  let n := r.least + (r.place + r.distance) / places
  let place := (r.place + r.distance) % places
  if n.isValidChar then
    some { label := r.label.take place ++ Char.ofNat n :: r.label.drop place
           least := n
           place := place + 1
           bias := adapt r.distance places (r.place = 0)
           distance := 0
           weight := 1
           k := 36 }
  else none

/-- Reads a digit; one below its threshold is the last of its distance. -/
def step? (r : Reading) (c : Char) : Option Reading := do
  let d ← digit? c
  let r := { r with distance := r.distance + d * r.weight }
  let t := threshold r.k r.bias
  if limit ≤ r.place + r.distance then none
  else if d < t then r.put?
  else if limit ≤ r.weight * (36 - t) then none
  else some { r with weight := r.weight * (36 - t), k := r.k + 36 }

/-- No distance is begun. -/
def isComplete (r : Reading) : Bool := r.weight = 1

end Reading

/-- The label that is written so. The last hyphen ends its ASCII characters, if there are any. -/
def decode? (written : List Char) : Option (List Char) :=
  let digits := (written.reverse.takeWhile (· ≠ '-')).reverse
  let basic := written.take (written.length - digits.length - 1)
  if !basic.all (·.toNat < 128) then none
  else
    let digits := if basic.isEmpty then written else digits
    ((digits.foldlM Reading.step? (Reading.start basic)).filter Reading.isComplete).map Reading.label

example : encode "bücher".toList = "bcher-kva".toList := by decide

example : decode? "bcher-kva".toList = some "bücher".toList := by decide

example : decode? "bcher-kv".toList = none ∧ decode? "-kva".toList = none := by decide

end ScanDiscovery.Url.Punycode
