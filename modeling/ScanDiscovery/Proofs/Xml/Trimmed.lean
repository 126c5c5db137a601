import ScanDiscovery.Proofs.Text.Joined
import ScanDiscovery.Proofs.Xml.References
import ScanDiscovery.Proofs.Xml.Stripped
/-!
# Proofs.Xml.Trimmed — a text with the blanks at its ends and without them

The blanks of markup are ASCII bytes, and blank characters.  So a text whose bytes are stripped stands for the same, less
blanks at the ends (`textOf_strip`), and which of the two is trimmed makes no difference (`trim_append`).  Specification
only.
-/
namespace ScanDiscovery

namespace Blank

/-- **Blanks around a text are trimmed with it.** -/
theorem trim_append {x text y : List Char} (hx : ∀ c ∈ x, isBlank c = true) (hy : ∀ c ∈ y, isBlank c = true) :
    trim (x ++ (text ++ y)) = trim text := by
  have hy' : y.dropWhile isBlank = [] := List.dropWhile_eq_nil_iff.2 hy
  rw [trim, trim, List.dropWhile_append_of_pos hx, List.dropWhile_append]
  split
  · rename_i hnil
    rw [hy', List.isEmpty_iff.1 hnil]
  · rw [List.reverse_append, List.dropWhile_append_of_pos fun c hc => hy c (List.mem_reverse.1 hc)]

theorem trim_eq_self {text : List Char} (h : ∀ c ∈ text, isBlank c = false) : trim text = text := by
  have hself : ∀ cs : List Char, (∀ c ∈ cs, isBlank c = false) → cs.dropWhile isBlank = cs
    | [], _ => rfl
    | c :: cs, hcs => List.dropWhile_cons_of_neg (by simp [hcs c List.mem_cons_self])
  rw [trim, hself text h, hself _ fun c hc => h c (List.mem_reverse.1 hc), List.reverse_reverse]

end Blank

namespace Xml

open Utf8 (asciiChar decode)
open Reference (Replaced Settled)

/-- A blank of markup is an ASCII byte, and its character a blank that is not part of a reference. -/
theorem blank_byte {b : UInt8} (h : isBlankByte b = true) :
    b < 0x80 ∧ Blank.isBlank (asciiChar b) = true ∧ asciiChar b ≠ '&' ∧ asciiChar b ≠ ';' := by
  simp only [isBlankByte, Bool.or_eq_true, decide_eq_true_eq] at h
  rcases h with ((rfl | rfl) | rfl) | rfl <;> decide

theorem textOf_eq_ok_iff {bs : Bytes} {chars : List Char} :
    Cursor.textOf bs = .ok chars ↔ ∃ cs, decode bs = .ok cs ∧ Replaced cs chars := by
  unfold Cursor.textOf
  cases decode bs with
  | error e => simp
  | ok cs =>
    simp only [Except.ok.injEq, exists_eq_left', ← Reference.replace_eq_ok_iff]
    cases Reference.replace cs <;> simp [Except.mapError]

section

variable {bs : Bytes} {cs chars : List Char}

theorem ascii_of_blank (h : ∀ b ∈ bs, isBlankByte b = true) : ∀ b ∈ bs, b < 0x80 := fun b hb => (blank_byte (h b hb)).1

theorem not_mem_of_blank (h : ∀ b ∈ bs, isBlankByte b = true) :
    '&' ∉ bs.map asciiChar ∧ ';' ∉ bs.map asciiChar ∧ ∀ c ∈ bs.map asciiChar, Blank.isBlank c = true := by
  simp only [List.mem_map, not_exists, not_and, forall_exists_index, and_imp, forall_apply_eq_imp_iff₂]
  exact ⟨fun b hb => (blank_byte (h b hb)).2.2.1, fun b hb => (blank_byte (h b hb)).2.2.2,
    fun b hb => (blank_byte (h b hb)).2.1⟩

/-- **Stripped bytes are decoded** where the bytes are, to what is left of their characters between blanks. -/
theorem decode_strip (h : decode bs = .ok cs) : ∃ before inside behind : List Char, decode (strip bs) = .ok inside ∧
    cs = before ++ (inside ++ behind) ∧ ('&' ∉ before ∧ ';' ∉ before ∧ ∀ c ∈ before, Blank.isBlank c = true) ∧
    ('&' ∉ behind ∧ ';' ∉ behind ∧ ∀ c ∈ behind, Blank.isBlank c = true) := by
  obtain ⟨before, behind, hbs, hbefore, hbehind⟩ := exists_blanks_strip bs
  rw [hbs, Utf8.decode_ascii_append (ascii_of_blank hbefore)] at h
  obtain ⟨rest, hrest, rfl⟩ := h
  obtain ⟨inside, hinside, rfl⟩ := (Utf8.decode_append_ascii (ascii_of_blank hbehind)).1 hrest
  exact ⟨_, inside, _, hinside, rfl, not_mem_of_blank hbefore, not_mem_of_blank hbehind⟩

theorem exists_decode_of_strip {inside : List Char} (h : decode (strip bs) = .ok inside) : ∃ cs, decode bs = .ok cs := by
  obtain ⟨before, behind, hbs, hbefore, hbehind⟩ := exists_blanks_strip bs
  have hrest := (Utf8.decode_append_ascii (ascii_of_blank hbehind)).2 ⟨inside, h, rfl⟩
  have hall := (Utf8.decode_ascii_append (ascii_of_blank hbefore)).2 ⟨_, hrest, rfl⟩
  rw [← hbs] at hall
  exact ⟨_, hall⟩

/-- **A stripped text stands for the same**, less blanks at its ends. -/
theorem textOf_strip (hd : decode bs = .ok cs) (hr : Replaced cs chars) : ∃ before inside behind : List Char,
    Cursor.textOf (strip bs) = .ok inside ∧ chars = before ++ (inside ++ behind) ∧
    (∀ c ∈ before, Blank.isBlank c = true) ∧ ∀ c ∈ behind, Blank.isBlank c = true := by
  obtain ⟨before, inside, behind, hinside, rfl, ⟨hamp, -, hblank⟩, hamp', hsemi', hblank'⟩ := decode_strip hd
  obtain ⟨front, rest, hfront, hrest, rfl⟩ := hr.split (Settled.of_plain hamp)
  obtain ⟨middle, back, hmiddle, hback, rfl⟩ := hrest.split (hrest.settled.before hsemi')
  obtain rfl := hfront.unique (.of_plain hamp)
  obtain rfl := hback.unique (.of_plain hamp')
  exact ⟨front, middle, back, textOf_eq_ok_iff.2 ⟨inside, hinside, hmiddle⟩, rfl, hblank, hblank'⟩

/-- Bytes that cannot be decoded cannot be decoded when they are stripped either. -/
theorem textOf_strip_error {fault : Utf8.Fault} (h : decode bs = .error fault) :
    ∃ fault', Cursor.textOf (strip bs) = .error (.encoding fault') := by
  cases hs : decode (strip bs) with
  | ok inside =>
    obtain ⟨cs, hcs⟩ := exists_decode_of_strip hs
    rw [hcs] at h
    cases h
  | error fault' => exact ⟨fault', by rw [Cursor.textOf, hs]⟩

end

end Xml

end ScanDiscovery
