import Mathlib.Data.List.Induction
import Mathlib.Data.Nat.Digits.Defs
import ScanDiscovery.Decimal.Unsigned
/-!
# Proofs.Decimal.Numeral — the texts that spell a number of 32 bits

A numeral is a row of decimal digits, at least one, behind a plus sign or not, and worth what it is worth in base ten
(`Spells`).  A text is read as a number where it is a numeral of less than 2 ^ 32, and as what it is worth
(`unsigned?_eq_some_iff`); a numeral that is worth more is not read as anything, so nothing wraps.  The digits of a number
spell it, and zeros before them make no difference (`spells_padded`).  Specification only.
-/
namespace ScanDiscovery.Decimal

open Text (decimalValue)

/-- A text, and the number that it spells. -/
inductive Spells : List Char → Nat → Prop
  | plain {digits : List Nat} (some : digits ≠ []) (decimal : ∀ d ∈ digits, d < 10) :
      Spells (digits.map Nat.digitChar) (Nat.ofDigits 10 digits.reverse)
  | signed {digits : List Nat} (some : digits ≠ []) (decimal : ∀ d ∈ digits, d < 10) :
      Spells ('+' :: digits.map Nat.digitChar) (Nat.ofDigits 10 digits.reverse)

/-- **Digits are read for what they are worth.** -/
theorem decimalValue_digits {digits : List Nat} (h : ∀ d ∈ digits, d < 10) :
    decimalValue (digits.map Nat.digitChar) = Nat.ofDigits 10 digits.reverse := by
  induction digits using List.reverseRecOn with
  | nil => rfl
  | append_singleton digits d ih =>
    have hd : (Nat.digitChar d).toNat - '0'.toNat = d := Nat.toNat_digitChar_sub_48_of_lt_ten (h d (by simp))
    have hrest := ih fun e he => h e (List.mem_append_left _ he)
    rw [List.map_append, List.map_singleton, Text.decimalValue_append_singleton, hd, hrest, List.reverse_append,
      List.reverse_singleton, List.singleton_append, Nat.ofDigits_cons]
    omega

theorem digitChar_of_isDigit {c : Char} (h : c.isDigit = true) :
    c.toNat - '0'.toNat < 10 ∧ Nat.digitChar (c.toNat - '0'.toNat) = c := by
  have hzero : '0'.toNat = 48 := rfl
  have hnine : '9'.toNat = 57 := rfl
  obtain ⟨hle, hge⟩ := Char.isDigit_iff_toNat.1 h
  have hlt : c.toNat - '0'.toNat < 10 := by omega
  refine ⟨hlt, Char.toNat_inj.1 ?_⟩
  rw [Nat.toNat_digitChar_of_lt_ten hlt]
  omega

theorem exists_digits : ∀ {cs : List Char}, cs.all Char.isDigit = true →
    ∃ digits : List Nat, (∀ d ∈ digits, d < 10) ∧ digits.map Nat.digitChar = cs
  | [], _ => ⟨[], by simp, rfl⟩
  | c :: cs, h => by
    rw [List.all_cons, Bool.and_eq_true] at h
    obtain ⟨hlt, hchar⟩ := digitChar_of_isDigit h.1
    obtain ⟨digits, hdigits, rfl⟩ := exists_digits h.2
    exact ⟨_ :: digits, List.forall_mem_cons.2 ⟨hlt, hdigits⟩, by rw [List.map_cons, hchar]⟩

theorem isDigit_of_digits {digits : List Nat} (h : ∀ d ∈ digits, d < 10) :
    (digits.map Nat.digitChar).all Char.isDigit = true := by
  rw [List.all_map, List.all_eq_true]
  intro d hd
  rw [Function.comp_apply, Nat.isDigit_digitChar, decide_eq_true_eq]
  exact h d hd

/-- What stands behind the sign of a numeral are digits, and there is one. -/
theorem spells_iff {text : List Char} {n : Nat} : Spells text n ↔
    dropPlus text ≠ [] ∧ (dropPlus text).all Char.isDigit = true ∧ decimalValue (dropPlus text) = n := by
  constructor
  · intro h
    cases h with
    | @plain digits hne h =>
      obtain ⟨d, ds, rfl⟩ := List.exists_cons_of_ne_nil hne
      have hplus : dropPlus ((d :: ds).map Nat.digitChar) = (d :: ds).map Nat.digitChar := by
        rw [List.map_cons, dropPlus]
        intro more hmore
        have hd := isDigit_of_digits h
        rw [List.map_cons, (List.cons.inj hmore).1, List.all_cons, Bool.and_eq_true] at hd
        exact absurd hd.1 (by decide)
      rw [hplus]
      exact ⟨List.cons_ne_nil _ _, isDigit_of_digits h, decimalValue_digits h⟩
    | signed hne h => exact ⟨fun hnil => hne (List.map_eq_nil_iff.1 hnil), isDigit_of_digits h, decimalValue_digits h⟩
  · rintro ⟨hne, hdigits, rfl⟩
    obtain ⟨digits, hlt, hmap⟩ := exists_digits hdigits
    have hsome : digits ≠ [] := by
      rintro rfl
      exact hne hmap.symm
    rw [← hmap, decimalValue_digits hlt]
    unfold dropPlus at hmap
    split at hmap
    · rw [← hmap]
      exact .signed hsome hlt
    · rw [← hmap]
      exact .plain hsome hlt

/-- **A text is read as a number where it spells it.** -/
theorem unsigned?_eq_some_iff {text : List Char} {n : UInt32} : unsigned? text = some n ↔ Spells text n.toNat := by
  rw [spells_iff, unsigned?]
  by_cases hbad : ((dropPlus text).isEmpty || !(dropPlus text).all Char.isDigit) = true
  · rw [if_pos hbad]
    refine iff_of_false (fun h => by cases h) ?_
    rintro ⟨hne, hdigits, -⟩
    rw [hdigits, Bool.not_true, Bool.or_false, List.isEmpty_iff] at hbad
    exact hne hbad
  · rw [if_neg hbad]
    simp only [Bool.or_eq_true, List.isEmpty_iff, Bool.not_eq_true', not_or, Bool.not_eq_false] at hbad
    by_cases hlt : decimalValue (dropPlus text) < Nat.pow 2 32
    · have hnat : (UInt32.ofNat (decimalValue (dropPlus text))).toNat = decimalValue (dropPlus text) := by
        rw [UInt32.toNat_ofNat']
        exact Nat.mod_eq_of_lt hlt
      rw [if_pos hlt, Option.some.injEq, ← UInt32.toNat_inj, hnat]
      exact ⟨fun h => ⟨hbad.1, hbad.2, h⟩, fun h => h.2.2⟩
    · rw [if_neg hlt]
      refine iff_of_false (fun h => by cases h) ?_
      rintro ⟨-, -, h⟩
      exact hlt (h ▸ n.toNat_lt)

/-- **The digits of a number spell it**, with any zeros before them. -/
theorem spells_padded (zeros n : Nat) : Spells (List.replicate zeros '0' ++ Nat.toDigits 10 n) n := by
  have hdigits : (List.replicate zeros '0' ++ Nat.toDigits 10 n).all Char.isDigit = true := by
    rw [List.all_append, Bool.and_eq_true, List.all_eq_true, List.all_eq_true]
    refine ⟨fun c hc => ?_, fun c hc => Nat.isDigit_of_mem_toDigits (by decide) (by decide) hc⟩
    rw [List.eq_of_mem_replicate hc]
    rfl
  have hplus : dropPlus (List.replicate zeros '0' ++ Nat.toDigits 10 n) = List.replicate zeros '0' ++ Nat.toDigits 10 n := by
    unfold dropPlus
    split
    · rename_i more hmore
      rw [hmore, List.all_cons, Bool.and_eq_true] at hdigits
      exact absurd hdigits.1 (by decide)
    · rfl
  have hvalue : ∀ cs, decimalValue cs = Nat.ofDigitChars 10 cs 0 := fun cs => by
    unfold decimalValue Nat.ofDigitChars
    simp only [Nat.mul_comm]
  rw [spells_iff, hplus, hvalue, Nat.ofDigitChars_append, Nat.ofDigitChars_replicate_zero, Nat.mul_zero,
    Nat.ofDigitChars_ten_toDigits]
  exact ⟨by simp, hdigits, rfl⟩

end ScanDiscovery.Decimal
