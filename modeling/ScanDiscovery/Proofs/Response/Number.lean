import ScanDiscovery.Proofs.Decimal.Numeral
import ScanDiscovery.Proofs.Response.Stated
import ScanDiscovery.Proofs.Xml.Written
/-!
# Proofs.Response.Number — the texts that are read as a number

A text is read as the number that it spells, if that has 32 bits, and told as it is if there is no such number
(`run_readNumber`).  So whatever blanks and zeros stand around a number, it is read (`number_read`).  Specification only.
-/
namespace ScanDiscovery.Response

open Decimal (Spells)
open Utf8 (encode)
open Xml (Cursor Event GivenBehind Scope Walk)

/-- **A text that spells a number of 32 bits is read as it**; of any other it is told that it does not. -/
theorem number_spells (element : String) (t : List Char) :
    (∀ n : Nat, (∃ w : UInt32, number element t = .ok w ∧ w.toNat = n) ↔ Spells t n ∧ n ≤ 4294967295) ∧
    ((∀ n, Spells t n → 4294967295 < n) → number element t = .error (.malformedValue element t)) := by
  refine ⟨fun n => ⟨?_, ?_⟩, fun h => ?_⟩
  · rintro ⟨w, hw, rfl⟩
    exact ⟨Decimal.unsigned?_eq_some_iff.1 (number_eq_ok.1 hw), Nat.le_of_lt_succ w.toNat_lt⟩
  · rintro ⟨hn, hle⟩
    have hnat : (UInt32.ofNat n).toNat = n := by
      rw [UInt32.toNat_ofNat']
      exact Nat.mod_eq_of_lt (Nat.lt_succ_of_le hle)
    exact ⟨UInt32.ofNat n, number_eq_ok.2 (Decimal.unsigned?_eq_some_iff.2 (hnat.symm ▸ hn)), hnat⟩
  · unfold number
    cases hu : Decimal.unsigned? t with
    | none => rfl
    | some w =>
      have hlt := h _ (Decimal.unsigned?_eq_some_iff.1 hu)
      exact absurd hlt (Nat.not_lt.2 (Nat.le_of_lt_succ w.toNat_lt))

theorem run_readNumber {lift : Xml.Error → DecodeError} {element : String} {s : Scope} {c : Cursor} {t : List Char}
    (h : c.readText.1 = .ok t) : (Walk.run lift (readNumber element) s c).result = number element t := by
  rcases hread : c.readText with ⟨result, c'⟩
  rw [hread] at h
  obtain rfl : result = .ok t := h
  rw [readNumber, Walk.run, hread]
  simp only
  cases number element t <;> rfl

/-! ## Blanks and zeros -/

/-- In a document that begins with these bytes an element is open behind them, and what else there is begins with its end
tag; `before` are the events up to the start tag of the element. -/
def Encloses (front back : Bytes) (before : List Event) : Prop :=
  ∃ tokens bs o opened, Xml.Token.reach (.content []) (Xml.Token.dropMark front) = some (tokens, .content []) ∧
    Event.follow Xml.Bindings.initial [] tokens = some (before, bs, o :: opened) ∧
    (Xml.Token.scan (.content []) (0x3C :: back)).items.head? = some (.closing o.name)

theorem not_blank_of_isDigit {c : Char} (h : c.isDigit = true) : Blank.isBlank c = false := by
  have hzero : '0'.toNat = 48 := rfl
  have hnine : '9'.toNat = 57 := rfl
  obtain ⟨hle, hge⟩ := Char.isDigit_iff_toNat.1 h
  simp only [Blank.isBlank, Blank.ranges, List.any_cons, List.any_nil, Bool.or_false, Bool.or_eq_false_iff,
    Bool.and_eq_false_iff, decide_eq_false_iff_not, Nat.not_le]
  omega

/-- **Blanks around digits are not read.** -/
theorem readText_padded {front back : Bytes} {before : List Event} (h : Encloses front back before)
    {x digits y : List Char} (hx : ∀ c ∈ x, Blank.isBlank c = true) (hdigits : ∀ c ∈ digits, c.isDigit = true)
    (hy : ∀ c ∈ y, Blank.isBlank c = true) {c : Cursor}
    (hc : GivenBehind (front ++ (encode (x ++ (digits ++ y)) ++ 0x3C :: back)) before c) : c.readText.1 = .ok digits := by
  obtain ⟨tokens, bs, o, opened, hfront, hbefore, hback⟩ := h
  have hplain : ∀ d, Blank.isBlank d = false → d.isDigit = false → d ∉ x ++ (digits ++ y) := by
    intro d hblank hdigit hmem
    rcases List.mem_append.1 hmem with hmem | hmem
    · rw [hx d hmem] at hblank
      cases hblank
    · rcases List.mem_append.1 hmem with hmem | hmem
      · rw [hdigits d hmem] at hdigit
        cases hdigit
      · rw [hy d hmem] at hblank
        cases hblank
  have hrun : 0x3C ∉ encode (x ++ (digits ++ y)) := fun hmem =>
    hplain '<' (by decide) (by decide) (Utf8.mem_of_encode hmem (by decide))
  have hself : ∀ d ∈ digits, Blank.isBlank d = false := by
    intro d hd
    exact not_blank_of_isDigit (hdigits d hd)
  rw [Xml.readText_run hfront hbefore hback hrun hc,
    Xml.value_encode (Xml.Reference.Replaced.of_plain (hplain '&' (by decide) (by decide))), Blank.trim_append hx hy,
    Blank.trim_eq_self hself]

/-- **A number is read whatever is written for it**: of an element whose text is read the number is that which the text
spells, if it is one of 32 bits, and any other text is told with the label of the element; and the digits of a number are
read as it, with any zeros before them and any blanks around them. -/
theorem number_read (lift : Xml.Error → DecodeError) (element : String) (s : Scope) :
    (∀ (c c' : Cursor) (t : List Char), c.readText = (.ok t, c') →
      (∀ n : Nat, (∃ w : UInt32, (Walk.run lift (readNumber element) s c).result = .ok w ∧ w.toNat = n) ↔
        Spells t n ∧ n ≤ 4294967295) ∧
      ((∀ n, Spells t n → 4294967295 < n) →
        (Walk.run lift (readNumber element) s c).result = .error (.malformedValue element t))) ∧
    ∀ (front back : Bytes) (before : List Event), Encloses front back before → ∀ (n : UInt32) (zeros : Nat)
      (x y : List Char), (∀ c ∈ x, Blank.isBlank c = true) → (∀ c ∈ y, Blank.isBlank c = true) → ∀ c : Cursor,
        GivenBehind (front ++ (encode (x ++ (List.replicate zeros '0' ++ Nat.toDigits 10 n.toNat ++ y)) ++ 0x3C :: back))
          before c → (Walk.run lift (readNumber element) s c).result = .ok n := by
  constructor
  · intro c c' t h
    rw [run_readNumber (congrArg Prod.fst h)]
    exact number_spells element t
  · intro front back before h n zeros x y hx hy c hc
    have hdigits : ∀ d ∈ List.replicate zeros '0' ++ Nat.toDigits 10 n.toNat, d.isDigit = true := by
      intro d hd
      rcases List.mem_append.1 hd with hd | hd
      · rw [List.eq_of_mem_replicate hd]
        rfl
      · exact Nat.isDigit_of_mem_toDigits (by decide) (by decide) hd
    have hspells := Decimal.unsigned?_eq_some_iff.2 (Decimal.spells_padded zeros n.toNat)
    rw [run_readNumber (readText_padded h hx hdigits hy hc), number_eq_ok.2 hspells]

/-- A cursor in an element with a text -/
def textCursor (text : List Char) : Cursor := ⟨[.text (encode text), .finish], none, [['a']], true⟩

/-- A number with a sign and zeros, the least number that is too large, and one between blanks. -/
theorem sampleNumbers_read :
    (∃ c', (textCursor "+0300".toList).readText = (.ok "+0300".toList, c') ∧ ∃ w : UInt32,
      (Walk.run .malformedXml (readNumber "Value") .document (textCursor "+0300".toList)).result = .ok w ∧ w.toNat = 300) ∧
    (∃ c', (textCursor "4294967296".toList).readText = (.ok "4294967296".toList, c') ∧
      (Walk.run .malformedXml (readNumber "Value") .document (textCursor "4294967296".toList)).result =
        .error (.malformedValue "Value" "4294967296".toList)) ∧
    ∃ c, GivenBehind (Xml.rootWith (encode "\u3000 0042\u00a0".toList)) [.start ⟨[0x61]⟩ none] c ∧
      (Walk.run .malformedXml (readNumber "Value") .document c).result = .ok 42 := by
  obtain ⟨hread, hpadded⟩ := number_read .malformedXml "Value" .document
  have hclosed : (textCursor "+0300".toList).readText = (.ok "+0300".toList, ⟨[], none, [], true⟩) ∧
      (textCursor "4294967296".toList).readText = (.ok "4294967296".toList, ⟨[], none, [], true⟩) ∧
      Event.ofBytes (Xml.rootWith (encode "\u3000 0042\u00a0".toList)) =
        ⟨[.start ⟨[0x61]⟩ none, .text (encode "\u3000 0042\u00a0".toList), .finish], none⟩ ∧
      Decimal.unsigned? "+0300".toList = some 300 := by
    decide +kernel
  obtain ⟨hsigned, hlarge, hevents, hvalue⟩ := hclosed
  have hnone : ∀ n, Spells "4294967296".toList n → 4294967295 < n := by
    intro n hn
    rw [← (Decimal.spells_iff.1 hn).2.2]
    decide +kernel
  obtain ⟨hfront, hbefore, hback⟩ := Xml.rootWith_around
  have hgiven := Xml.givenBehind_root hevents (p := ['a']) rfl
  refine ⟨⟨_, hsigned, ((hread _ _ _ hsigned).1 300).2 ⟨Decimal.unsigned?_eq_some_iff.1 hvalue, by decide⟩⟩,
    ⟨_, hlarge, (hread _ _ _ hlarge).2 hnone⟩, _, hgiven, ?_⟩
  exact hpadded _ _ _ ⟨_, _, _, _, hfront, hbefore, hback⟩ 42 2 "\u3000 ".toList "\u00a0".toList
    (List.all_eq_true.1 (by decide)) (List.all_eq_true.1 (by decide)) _ hgiven

end ScanDiscovery.Response
