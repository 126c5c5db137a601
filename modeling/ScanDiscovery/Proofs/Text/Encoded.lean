import ScanDiscovery.Proofs.Text.Joined
/-!
# Proofs.Text.Encoded — what is written is read

The first byte of a character says how many bytes are owed and how far the next one may go (`lead_two`, `lead_three`,
`lead_four`); the bytes that are written keep to that, so they are one piece (`pieces_encodeChar`), and the bytes of a
text are read as the text (`decode_encode`).  An ASCII byte among them is a character of the text (`mem_of_encode`).
Specification only.
-/
namespace ScanDiscovery.Utf8

/-- A byte that is owed, within its bounds. -/
theorem step_inside {got owed value n : Nat} {low high : UInt8} (hn : n < 0x40) (hlow : low.toNat ≤ n + 0x80)
    (hhigh : n + 0x80 ≤ high.toNat) : step (.inside got owed low high value) (UInt8.ofNat (n + 0x80)) =
      if owed ≤ 1 then ([.char (Char.ofNat (value * 64 + n))], .between)
      else ([], .inside (got + 1) (owed - 1) 0x80 0xBF (value * 64 + n)) := by
  have hnat : (UInt8.ofNat (n + 0x80)).toNat = n + 0x80 := by
    rw [UInt8.toNat_ofNat']
    exact Nat.mod_eq_of_lt (by omega)
  have hin : (low ≤ UInt8.ofNat (n + 0x80) && UInt8.ofNat (n + 0x80) ≤ high) = true := by
    rw [Bool.and_eq_true, decide_eq_true_eq, decide_eq_true_eq, UInt8.le_iff_toNat_le, UInt8.le_iff_toNat_le, hnat]
    exact ⟨hlow, hhigh⟩
  rw [step, if_pos hin, hnat, Nat.add_sub_cancel]

/-- A byte before the last one of a character. -/
theorem piecesFrom_more {got owed value n : Nat} {low high : UInt8} (howed : 1 < owed) (hn : n < 0x40)
    (hlow : low.toNat ≤ n + 0x80) (hhigh : n + 0x80 ≤ high.toNat) (v : Bytes) :
    piecesFrom (.inside got owed low high value) (UInt8.ofNat (n + 0x80) :: v) =
      piecesFrom (.inside (got + 1) (owed - 1) 0x80 0xBF (value * 64 + n)) v := by
  rw [piecesFrom_cons, step_inside hn hlow hhigh, if_neg (Nat.not_le.2 howed)]
  rfl

theorem tail_le {n : Nat} (hn : n < 0x40) : n + 0x80 ≤ (0xBF : UInt8).toNat := by
  rw [show (0xBF : UInt8).toNat = 0xBF from rfl]
  omega

/-- The last byte of a character. -/
theorem piecesFrom_last {got value n : Nat} (hn : n < 0x40) (v : Bytes) :
    piecesFrom (.inside got 1 0x80 0xBF value) (UInt8.ofNat (n + 0x80) :: v) =
      .char (Char.ofNat (value * 64 + n)) :: pieces v := by
  rw [piecesFrom_cons, step_inside hn (Nat.le_add_left _ _) (tail_le hn)]
  rfl

theorem pieces_lead {b : UInt8} {s : State} (h : lead b = .more s) (v : Bytes) : pieces (b :: v) = piecesFrom s v := by
  rw [pieces, piecesFrom_cons, step, begin, h]
  rfl

theorem lead_two : ∀ n < 32, 2 ≤ n → lead (UInt8.ofNat (n + 0xC0)) = .more (.inside 1 1 0x80 0xBF n) := by decide

/-- What three bytes spell is not spelt in two, and no surrogate. -/
theorem lead_three : ∀ n < 16, lead (UInt8.ofNat (n + 0xE0)) =
    .more (.inside 1 2 (if n = 0 then 0xA0 else 0x80) (if n = 0xD then 0x9F else 0xBF) n) := by decide

/-- What four bytes spell is not spelt in three, and no more than the last character. -/
theorem lead_four : ∀ n < 5, lead (UInt8.ofNat (n + 0xF0)) =
    .more (.inside 1 3 (if n = 0 then 0x90 else 0x80) (if n = 4 then 0x8F else 0xBF) n) := by decide

theorem pieces_two {n : Nat} (h : 0x80 ≤ n) (h' : n ≤ 0x7FF) (v : Bytes) :
    pieces (UInt8.ofNat (n / 64 % 0x20 + 0xC0) :: UInt8.ofNat (n % 0x40 + 0x80) :: v) =
      .char (Char.ofNat n) :: pieces v := by
  have hvalue : n / 64 % 0x20 * 64 + n % 0x40 = n := by omega
  rw [pieces_lead (lead_two (n / 64 % 0x20) (by omega) (by omega)), piecesFrom_last (by omega), hvalue]

theorem pieces_three {n : Nat} (h : 0x800 ≤ n) (h' : n ≤ 0xFFFF) (hvalid : n < 0xD800 ∨ 0xDFFF < n) (v : Bytes) :
    pieces (UInt8.ofNat (n / 4096 % 0x10 + 0xE0) :: UInt8.ofNat (n / 64 % 0x40 + 0x80) ::
      UInt8.ofNat (n % 0x40 + 0x80) :: v) = .char (Char.ofNat n) :: pieces v := by
  have hlow : (if n / 4096 % 0x10 = 0 then (0xA0 : UInt8) else 0x80).toNat ≤ n / 64 % 0x40 + 0x80 := by
    split
    · rw [show (0xA0 : UInt8).toNat = 0xA0 from rfl]
      omega
    · exact Nat.le_add_left _ _
  have hhigh : n / 64 % 0x40 + 0x80 ≤ (if n / 4096 % 0x10 = 0xD then (0x9F : UInt8) else 0xBF).toNat := by
    split
    · rw [show (0x9F : UInt8).toNat = 0x9F from rfl]
      omega
    · exact tail_le (by omega)
  have hvalue : (n / 4096 % 0x10 * 64 + n / 64 % 0x40) * 64 + n % 0x40 = n := by omega
  rw [pieces_lead (lead_three (n / 4096 % 0x10) (by omega)), piecesFrom_more (by decide) (by omega) hlow hhigh,
    piecesFrom_last (by omega), hvalue]

theorem pieces_four {n : Nat} (h : 0x10000 ≤ n) (h' : n < 0x110000) (v : Bytes) :
    pieces (UInt8.ofNat (n / 262144 % 0x08 + 0xF0) :: UInt8.ofNat (n / 4096 % 0x40 + 0x80) ::
      UInt8.ofNat (n / 64 % 0x40 + 0x80) :: UInt8.ofNat (n % 0x40 + 0x80) :: v) =
        .char (Char.ofNat n) :: pieces v := by
  have hlow : (if n / 262144 % 0x08 = 0 then (0x90 : UInt8) else 0x80).toNat ≤ n / 4096 % 0x40 + 0x80 := by
    split
    · rw [show (0x90 : UInt8).toNat = 0x90 from rfl]
      omega
    · exact Nat.le_add_left _ _
  have hhigh : n / 4096 % 0x40 + 0x80 ≤ (if n / 262144 % 0x08 = 4 then (0x8F : UInt8) else 0xBF).toNat := by
    split
    · rw [show (0x8F : UInt8).toNat = 0x8F from rfl]
      omega
    · exact tail_le (by omega)
  have hthird : n / 64 % 0x40 < 0x40 := by omega
  have hvalue : ((n / 262144 % 0x08 * 64 + n / 4096 % 0x40) * 64 + n / 64 % 0x40) * 64 + n % 0x40 = n := by omega
  rw [pieces_lead (lead_four (n / 262144 % 0x08) (by omega)), piecesFrom_more (by decide) (by omega) hlow hhigh,
    piecesFrom_more (by decide) hthird (Nat.le_add_left _ _) (tail_le hthird), piecesFrom_last (by omega), hvalue]

/-- **The bytes of a character are one piece**, whatever follows them. -/
theorem pieces_encodeChar (c : Char) (v : Bytes) : pieces (String.utf8EncodeChar c ++ v) = .char c :: pieces v := by
  have hvalid : c.toNat < 0xD800 ∨ 0xDFFF < c.toNat ∧ c.toNat < 0x110000 := c.valid
  have hchar : Char.ofNat c.toNat = c := Char.ofNat_toNat c
  have hval : c.val.toNat = c.toNat := rfl
  unfold String.utf8EncodeChar
  simp only [hval]
  split
  · rename_i hone
    have hascii : UInt8.ofNat c.toNat < 0x80 := by
      rw [UInt8.lt_iff_toNat_lt, UInt8.toNat_ofNat', Nat.mod_eq_of_lt (by omega)]
      exact Nat.lt_succ_of_le hone
    have hnat : (UInt8.ofNat c.toNat).toNat = c.toNat := by
      rw [UInt8.toNat_ofNat']
      exact Nat.mod_eq_of_lt (by omega)
    rw [pieces_ascii_append v _ (by simpa using hascii), List.map_singleton, asciiChar, hnat, hchar]
    rfl
  · rename_i hone
    split
    · rename_i htwo
      have htwo' := pieces_two (by omega) htwo v
      rwa [hchar] at htwo'
    · rename_i htwo
      split
      · rename_i hthree
        have hthree' := pieces_three (by omega) hthree (by omega) v
        rwa [hchar] at hthree'
      · have hfour := pieces_four (n := c.toNat) (by omega) (by omega) v
        rwa [hchar] at hfour

theorem pieces_encode (v : Bytes) : ∀ cs : List Char, pieces (encode cs ++ v) = cs.map .char ++ pieces v
  | [] => rfl
  | c :: cs => by
    rw [encode, List.flatMap_cons, List.append_assoc, pieces_encodeChar, List.map_cons, List.cons_append]
    exact congrArg (Piece.char c :: ·) (pieces_encode v cs)

/-- **The bytes of a text are read as the text.** -/
theorem decode_encode (cs : List Char) : decode (encode cs) = .ok cs := by
  have h := pieces_encode [] cs
  rw [List.append_nil, pieces_nil, List.append_nil] at h
  exact decode_eq_ok_iff.2 h

/-- A byte of a character is its own, or no ASCII byte. -/
theorem mem_encodeChar {c : Char} {b : UInt8} (h : b ∈ String.utf8EncodeChar c) : b.toNat = c.toNat ∨ 0x80 ≤ b.toNat := by
  have hval : c.val.toNat = c.toNat := rfl
  unfold String.utf8EncodeChar at h
  simp only [hval] at h
  split at h
  · rename_i hone
    rw [List.mem_singleton.1 h, UInt8.toNat_ofNat', Nat.mod_eq_of_lt (by omega)]
    exact .inl rfl
  · right
    split at h
    · simp only [List.mem_cons, List.not_mem_nil, or_false] at h
      rcases h with rfl | rfl <;> rw [UInt8.toNat_ofNat'] <;> omega
    · split at h
      · simp only [List.mem_cons, List.not_mem_nil, or_false] at h
        rcases h with rfl | rfl | rfl <;> rw [UInt8.toNat_ofNat'] <;> omega
      · simp only [List.mem_cons, List.not_mem_nil, or_false] at h
        rcases h with rfl | rfl | rfl | rfl <;> rw [UInt8.toNat_ofNat'] <;> omega

/-- **An ASCII byte of a written text is one of its characters.** -/
theorem mem_of_encode {cs : List Char} {b : UInt8} (h : b ∈ encode cs) (hb : b < 0x80) : asciiChar b ∈ cs := by
  obtain ⟨c, hc, hmem⟩ := List.mem_flatMap.1 h
  have hb' : b.toNat < 0x80 := hb
  rcases mem_encodeChar hmem with he | hle
  · rwa [asciiChar, he, Char.ofNat_toNat]
  · omega

end ScanDiscovery.Utf8
