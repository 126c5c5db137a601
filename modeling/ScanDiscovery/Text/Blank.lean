/-!
# Blank — the Unicode property `White_Space`, and trimming by it

The twenty-five characters with the property. They include the no-break space, the ideographic space and the
next-line control, and leave out the zero-width ones (U+200B, U+FEFF), which are not white space to Unicode.
-/
namespace ScanDiscovery.Blank

/-- First and last code point of each run of blank characters. -/
def ranges : List (Nat × Nat) :=
  [(0x09, 0x0D), (0x20, 0x20), (0x85, 0x85), (0xA0, 0xA0), (0x1680, 0x1680), (0x2000, 0x200A), (0x2028, 0x2029),
    (0x202F, 0x202F), (0x205F, 0x205F), (0x3000, 0x3000)]

def isBlank (c : Char) : Bool :=
  ranges.any fun (first, last) => first ≤ c.toNat && c.toNat ≤ last

/-- The text without the blanks at its two ends. -/
def trim (text : List Char) : List Char :=
  ((text.dropWhile isBlank).reverse.dropWhile isBlank).reverse

example : (ranges.map fun (first, last) => last + 1 - first).sum = 25 := by decide

example : trim "\u00a0 a b\t\u3000".toList = "a b".toList := by decide

example : isBlank '\u200b' = false ∧ isBlank '\ufeff' = false := by decide

end ScanDiscovery.Blank
