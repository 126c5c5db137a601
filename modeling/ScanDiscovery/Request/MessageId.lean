/-!
# Request.MessageId — the identifiers of messages

An identifier is 128 random bits, six of which say that they are random. It is written in hexadecimal, as a name.
-/
namespace ScanDiscovery.Request

structure MessageId where
  high : UInt64
  low : UInt64
  deriving DecidableEq, Repr

namespace MessageId

/-- The identifier with these bits, apart from the version (4) and the variant (binary 10). -/
def ofRandom (high low : UInt64) : MessageId :=
  ⟨(high &&& 0xFFFFFFFFFFFF0FFF) ||| 0x4000, (low &&& 0x3FFFFFFFFFFFFFFF) ||| 0x8000000000000000⟩

/-- The last `count` hexadecimal digits of a number. -/
def hex : Nat → Nat → List Char
  | 0, _ => []
  | count + 1, n => hex count (n / 16) ++ [Nat.digitChar (n % 16)]

theorem length_hex (count n : Nat) : (hex count n).length = count := by
  induction count generalizing n with
  | zero => rfl
  | succ count ih => simp [hex, ih]

/-- The five groups of digits. -/
def groups (high low : Nat) : List (List Char) :=
  [hex 8 (high / Nat.pow 2 32), hex 4 (high / Nat.pow 2 16), hex 4 high, hex 4 (low / Nat.pow 2 48), hex 12 low]

/-- What stands before the digits. -/
def scheme : List Char := ['u', 'r', 'n', ':', 'u', 'u', 'i', 'd', ':']

def text (i : MessageId) : List Char :=
  scheme ++ ['-'].intercalate (groups i.high.toNat i.low.toNat)

example : String.ofList (ofRandom 0 0).text = "urn:uuid:00000000-0000-4000-8000-000000000000" := by decide

theorem length_intercalate_groups (h l : Nat) : (['-'].intercalate (groups h l)).length = 36 := by
  simp [groups, List.intercalate, List.intersperse, length_hex]

/-- Every identifier is written with as many characters. -/
theorem length_text (i : MessageId) : i.text.length = 45 := by
  rw [text, List.length_append, length_intercalate_groups, scheme]
  simp

end MessageId
end ScanDiscovery.Request
