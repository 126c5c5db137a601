import ScanDiscovery.Text.Utf8
/-!
# Proofs.Text.Ascii — an ASCII character in a text is a byte of it

A character of several bytes is never spelt where one byte would do: while the machine owes bytes, what it has read and
the least that the next byte can be rule that out (`State.Wide`).  So where an ASCII character is read, there was a byte
of its own (`mem_of_decode`).  Specification only.
-/
namespace ScanDiscovery.Utf8

/-- What was read of a character is too much for one byte, whatever comes. -/
def State.Wide : State → Prop
  | .between => True
  | .inside _ owed low _ value =>
    0x80 ≤ low.toNat ∧ (if owed ≤ 1 then 0x80 else 2) ≤ value * 64 + (low.toNat - 0x80)

instance : ∀ s : State, Decidable s.Wide
  | .between => inferInstanceAs (Decidable True)
  | .inside _ _ _ _ _ => inferInstanceAs (Decidable (_ ∧ _))

/-- A character is that of a byte, or no ASCII character. -/
def FromByte (b : UInt8) (c : Char) : Prop := c.toNat = b.toNat ∨ 0x80 ≤ c.toNat ∨ c = '\x00'

theorem fromByte_ofNat {b : UInt8} {n : Nat} (h : 0x80 ≤ n) : FromByte b (Char.ofNat n) := by
  by_cases hvalid : n.isValidChar
  · have hchar : Char.ofNat n = Char.ofNatAux n hvalid := dif_pos hvalid
    rw [hchar]
    exact .inr (.inl h)
  · exact .inr (.inr (dif_neg hvalid))

/-- A first byte spells itself, or begins what is too much for one byte. -/
def Lead.Sound (b : UInt8) : Lead → Prop
  | .whole c => c.toNat = b.toNat
  | .more s => s.Wide
  | .never => True

instance (b : UInt8) : ∀ l : Lead, Decidable (l.Sound b)
  | .whole _ => inferInstanceAs (Decidable (_ = _))
  | .more s => inferInstanceAs (Decidable s.Wide)
  | .never => inferInstanceAs (Decidable True)

theorem sound_lead (b : UInt8) : (lead b).Sound b := by
  have hbytes : ∀ n < 256, (lead (UInt8.ofNat n)).Sound (UInt8.ofNat n) := by decide +kernel
  have hb := hbytes b.toNat b.toNat_lt
  rwa [UInt8.ofNat_toNat] at hb

theorem begin_wide (b : UInt8) : (begin b).2.Wide ∧ ∀ c, .char c ∈ (begin b).1 → FromByte b c := by
  have hb := sound_lead b
  unfold begin
  cases hl : lead b with
  | whole c =>
    rw [hl] at hb
    refine ⟨trivial, fun d hd => ?_⟩
    cases List.mem_singleton.1 hd
    exact .inl hb
  | more s =>
    rw [hl] at hb
    exact ⟨hb, fun d hd => absurd hd List.not_mem_nil⟩
  | never => exact ⟨trivial, fun d hd => Piece.noConfusion (List.mem_singleton.1 hd)⟩

/-- **What a byte completes** is its own character or no ASCII character. -/
theorem step_wide {s : State} (hs : s.Wide) (b : UInt8) :
    (step s b).2.Wide ∧ ∀ c, .char c ∈ (step s b).1 → FromByte b c := by
  cases s with
  | between => exact begin_wide b
  | inside got owed low high value =>
    obtain ⟨hlow, hvalue⟩ := hs
    rw [step]
    by_cases hin : (low ≤ b && b ≤ high) = true
    · rw [if_pos hin]
      rw [Bool.and_eq_true, decide_eq_true_eq, UInt8.le_iff_toNat_le] at hin
      have hle := hin.1
      by_cases howed : owed ≤ 1
      · rw [if_pos howed] at hvalue ⊢
        refine ⟨trivial, fun c hc => ?_⟩
        have hmany : 0x80 ≤ value * 64 + (b.toNat - 0x80) := by omega
        rw [Piece.char.inj (List.mem_singleton.1 hc)]
        exact fromByte_ofNat hmany
      · rw [if_neg howed] at hvalue ⊢
        refine ⟨⟨by decide, ?_⟩, fun c hc => absurd hc List.not_mem_nil⟩
        have hlast : (0x80 : UInt8).toNat = 128 := rfl
        split <;> omega
    · rw [if_neg hin]
      obtain ⟨hwide, hchar⟩ := begin_wide b
      refine ⟨hwide, fun c hc => ?_⟩
      rcases List.mem_cons.1 hc with hc | hc
      · cases hc
      · exact hchar c hc

theorem mem_of_pieces {c : Char} (hascii : c.toNat < 0x80) (hc : c ≠ '\x00') : ∀ (bs : Bytes) {s : State}, s.Wide →
    .char c ∈ piecesFrom s bs → UInt8.ofNat c.toNat ∈ bs
  | [], .between, _, h => absurd h List.not_mem_nil
  | [], .inside _ _ _ _ _, _, h => Piece.noConfusion (List.mem_singleton.1 h)
  | b :: bs, s, hs, h => by
    obtain ⟨hwide, hchar⟩ := step_wide hs b
    rcases List.mem_append.1 h with h | h
    · rcases hchar c h with he | hge | h0
      · rw [he, UInt8.ofNat_toNat]
        exact List.mem_cons_self
      · omega
      · exact absurd h0 hc
    · exact List.mem_cons_of_mem _ (mem_of_pieces hascii hc bs hwide h)

theorem mem_of_chars {c : Char} : ∀ {ps : List Piece} {index : Nat} {cs : List Char}, chars index ps = .ok cs →
    c ∈ cs → .char c ∈ ps
  | [], _, _, h, hc => by
    cases h
    exact absurd hc List.not_mem_nil
  | .char d :: ps, index, cs, h, hc => by
    rw [chars] at h
    cases hr : chars (index + d.utf8Size) ps with
    | error e => rw [hr] at h; cases h
    | ok ds =>
      rw [hr] at h
      cases h
      rcases List.mem_cons.1 hc with rfl | hc
      · exact List.mem_cons_self
      · exact List.mem_cons_of_mem _ (mem_of_chars hr hc)
  | .broken _ :: _, _, _, h, _ => by cases h
  | .cut _ :: _, _, _, h, _ => by cases h

/-- **An ASCII character in a text is a byte of it.** -/
theorem mem_of_decode {bs : Bytes} {cs : List Char} {c : Char} (h : decode bs = .ok cs) (hc : c ∈ cs)
    (hascii : c.toNat < 0x80) (hne : c ≠ '\x00') : UInt8.ofNat c.toNat ∈ bs :=
  mem_of_pieces (s := .between) hascii hne bs trivial (mem_of_chars h hc)

end ScanDiscovery.Utf8
