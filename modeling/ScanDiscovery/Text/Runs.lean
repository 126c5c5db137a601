import ScanDiscovery.Text.Digit
/-!
# Text.Runs — sets of characters, written as runs

A set of characters is a list of runs of code points, in ascending order. It is written in hexadecimal numbers: one
for a character, two with a hyphen between them for a run, and blanks between the runs.
-/
namespace ScanDiscovery.Text

/-- What stands between blanks. -/
def words (text : String) : List (List Char) :=
  (text.toList.splitOnP (·.isWhitespace)).filter (!·.isEmpty)

/-- The code point with these hexadecimal digits. -/
def codePoint (digits : List Char) : Nat :=
  digits.foldl (fun n d => n * 16 + (digit? 16 d).getD 0) 0

/-- The code points from one to another. -/
structure Run where
  first : Nat
  last : Nat
  deriving DecidableEq, Repr

namespace Run

/-- A run from its text. -/
def ofWord (word : List Char) : Run :=
  match (word.splitOn '-').map codePoint with
  | [first, last] => ⟨first, last⟩
  | _ => ⟨codePoint word, codePoint word⟩

/-- Whether one of the runs holds the code point; those that begin behind it are not looked at. -/
def cover : List Run → Nat → Bool
  | [], _ => false
  | r :: rs, n => r.first ≤ n && (n ≤ r.last || cover rs n)

end Run

/-- The runs of a set from their text. -/
def runs (text : String) : List Run := (words text).map Run.ofWord

/-- Whether a character belongs to the set of these runs. -/
def inRuns (rs : List Run) (c : Char) : Bool := Run.cover rs c.toNat

example : runs "41-5A 5F" = [⟨0x41, 0x5A⟩, ⟨0x5F, 0x5F⟩] := by decide

example : (['@', 'A', 'Z', '^', '_'].map (inRuns (runs "41-5A 5F"))) = [false, true, true, false, true] := by decide

end ScanDiscovery.Text
