import Mathlib.Data.List.Basic
import ScanDiscovery.Proofs.Text.Ascii
/-!
# Proofs.Text.Joined — bytes that are decoded one after the other

The machine goes on behind some bytes where it stands then (`piecesFrom_append`).  An ASCII byte breaks off what was
begun and is a character of its own, so ASCII bytes before or behind others are decoded apart from them
(`decode_ascii_append`, `decode_append_ascii`), and so are bytes behind others that can be decoded (`decode_append`).
Specification only.
-/
namespace ScanDiscovery.Utf8

/-- Where the machine stands behind some bytes. -/
def after : State → Bytes → State
  | s, [] => s
  | s, b :: bs => after (step s b).2 bs

/-- The pieces that some bytes complete. -/
def completed : State → Bytes → List Piece
  | _, [] => []
  | s, b :: bs => (step s b).1 ++ completed (step s b).2 bs

theorem piecesFrom_cons (s : State) (b : UInt8) (bs : Bytes) :
    piecesFrom s (b :: bs) = (step s b).1 ++ piecesFrom (step s b).2 bs := rfl

theorem piecesFrom_append : ∀ (u v : Bytes) (s : State), piecesFrom s (u ++ v) = completed s u ++ piecesFrom (after s u) v
  | [], _, _ => rfl
  | b :: u, v, s => by
    rw [List.cons_append, piecesFrom_cons, piecesFrom_append u v, completed, List.append_assoc]
    rfl

theorem piecesFrom_eq (s : State) (u : Bytes) : piecesFrom s u = completed s u ++ finish (after s u) := by
  have h := piecesFrom_append u [] s
  rwa [List.append_nil] at h

theorem after_wide : ∀ (u : Bytes) {s : State}, s.Wide → (after s u).Wide
  | [], _, h => h
  | b :: u, _, h => after_wide u (step_wide h b).1

/-! ## Whole characters -/

theorem chars_eq_ok_iff : ∀ {ps : List Piece} {index : Nat} {cs : List Char}, chars index ps = .ok cs ↔ ps = cs.map .char
  | [], _, cs => by
    rw [chars]
    cases cs <;> simp
  | .char c :: ps, index, cs => by
    rw [chars]
    constructor
    · intro h
      cases hr : chars (index + c.utf8Size) ps with
      | error e =>
        rw [hr] at h
        cases h
      | ok ds =>
        rw [hr] at h
        cases h
        rw [List.map_cons, chars_eq_ok_iff.1 hr]
    · intro h
      obtain ⟨d, ds, rfl, hd, hds⟩ := List.map_eq_cons_iff.1 h.symm
      cases hd
      rw [chars_eq_ok_iff.2 hds.symm]
      rfl
  | .broken _ :: _, _, cs => by cases cs <;> simp [chars]
  | .cut _ :: _, _, cs => by cases cs <;> simp [chars]

theorem map_char_injective {xs ys : List Char} (h : xs.map Piece.char = ys.map Piece.char) : xs = ys :=
  List.map_injective_iff.2 (fun _ _ he => Piece.char.inj he) h

/-- Bytes are decoded where they fall into whole characters. -/
theorem decode_eq_ok_iff {bs : Bytes} {cs : List Char} : decode bs = .ok cs ↔ pieces bs = cs.map .char := chars_eq_ok_iff

/-- Behind bytes that can be decoded no character is begun. -/
theorem after_of_decode {u : Bytes} {cs : List Char} (h : decode u = .ok cs) :
    after .between u = .between ∧ completed .between u = cs.map .char := by
  rw [decode_eq_ok_iff, pieces, piecesFrom_eq] at h
  cases hs : after .between u with
  | between =>
    rw [hs, finish, List.append_nil] at h
    exact ⟨rfl, h⟩
  | inside got owed low high value =>
    have hmem : Piece.cut got ∈ cs.map Piece.char := by
      rw [← h, hs]
      exact List.mem_append_right _ (List.mem_singleton.2 rfl)
    obtain ⟨c, -, hc⟩ := List.mem_map.1 hmem
    cases hc

/-- **Bytes behind others that can be decoded** are decoded apart from them. -/
theorem decode_append {u v : Bytes} {xs zs : List Char} (hu : decode u = .ok xs) :
    decode (u ++ v) = .ok zs ↔ ∃ ys, decode v = .ok ys ∧ zs = xs ++ ys := by
  obtain ⟨hafter, hcompleted⟩ := after_of_decode hu
  simp only [decode_eq_ok_iff, pieces]
  rw [piecesFrom_append, hafter, hcompleted]
  constructor
  · intro h
    obtain ⟨xs', ys, rfl, hxs, hys⟩ := List.map_eq_append_iff.1 h.symm
    obtain rfl : xs' = xs := map_char_injective hxs
    exact ⟨ys, hys.symm, rfl⟩
  · rintro ⟨ys, hys, rfl⟩
    rw [hys, List.map_append]

/-- Bytes that cannot be decoded have a piece that is no character. -/
theorem exists_of_decode_error {bs : Bytes} {fault : Fault} (h : decode bs = .error fault) :
    ∃ p ∈ pieces bs, ∀ c, p ≠ .char c := by
  have hchars : ∀ (ps : List Piece) (index : Nat), chars index ps = .error fault → ∃ p ∈ ps, ∀ c, p ≠ .char c := by
    intro ps
    induction ps with
    | nil => exact fun _ h => by cases h
    | cons p ps ih =>
      intro index h
      cases p with
      | broken size => exact ⟨.broken size, List.mem_cons_self, fun c hc => by cases hc⟩
      | cut size => exact ⟨.cut size, List.mem_cons_self, fun c hc => by cases hc⟩
      | char c =>
        rw [chars] at h
        cases hr : chars (index + c.utf8Size) ps with
        | ok ds =>
          rw [hr] at h
          cases h
        | error e =>
          rw [hr] at h
          cases h
          obtain ⟨p, hp, hne⟩ := ih _ hr
          exact ⟨p, List.mem_cons_of_mem _ hp, hne⟩
  exact hchars _ 0 h

/-! ## ASCII bytes -/

/-- The character of an ASCII byte. -/
def asciiChar (b : UInt8) : Char := Char.ofNat b.toNat

/-- What was begun of a character is broken off. -/
def State.brokenOff : State → List Piece
  | .between => []
  | .inside got _ _ _ _ => [.broken got]

theorem step_ascii {s : State} (hs : s.Wide) {b : UInt8} (hb : b < 0x80) :
    step s b = (s.brokenOff ++ [.char (asciiChar b)], .between) := by
  have hbegin : begin b = ([.char (asciiChar b)], .between) := by
    rw [begin, lead, if_pos hb]
    rfl
  cases s with
  | between => exact hbegin
  | inside got owed low high value =>
    have hlow : (low ≤ b && b ≤ high) = false := by
      have hle : ¬ low ≤ b := by
        rw [UInt8.le_iff_toNat_le]
        have hb' : b.toNat < 128 := hb
        have hlow := hs.1
        omega
      rw [decide_eq_false hle, Bool.false_and]
    rw [step, hlow, if_neg Bool.false_ne_true, hbegin]
    rfl

theorem piecesFrom_ascii {s : State} (hs : s.Wide) {b : UInt8} (hb : b < 0x80) (v : Bytes) :
    piecesFrom s (b :: v) = s.brokenOff ++ .char (asciiChar b) :: pieces v := by
  rw [piecesFrom_cons, step_ascii hs hb, List.append_assoc]
  rfl

theorem pieces_ascii_append (v : Bytes) : ∀ x : Bytes, (∀ b ∈ x, b < 0x80) →
    pieces (x ++ v) = (x.map asciiChar).map .char ++ pieces v
  | [], _ => rfl
  | b :: x, h => by
    obtain ⟨hb, hx⟩ := List.forall_mem_cons.1 h
    have hw : State.Wide .between := trivial
    rw [List.cons_append, pieces, piecesFrom_ascii hw hb, pieces_ascii_append v x hx]
    rfl

/-- ASCII bytes break off what was begun. -/
theorem piecesFrom_ascii_append {s : State} (hs : s.Wide) {x : Bytes} (hx : ∀ b ∈ x, b < 0x80) (hne : x ≠ []) (v : Bytes) :
    piecesFrom s (x ++ v) = s.brokenOff ++ ((x.map asciiChar).map .char ++ pieces v) := by
  obtain ⟨b, x, rfl⟩ := List.exists_cons_of_ne_nil hne
  obtain ⟨hb, hx⟩ := List.forall_mem_cons.1 hx
  rw [List.cons_append, piecesFrom_ascii hs hb, pieces_ascii_append v x hx]
  rfl

theorem decode_ascii {x : Bytes} (h : ∀ b ∈ x, b < 0x80) : decode x = .ok (x.map asciiChar) := by
  have hp := pieces_ascii_append [] x h
  rw [List.append_nil, pieces_nil, List.append_nil] at hp
  exact decode_eq_ok_iff.2 hp

/-- **ASCII bytes before others** are decoded apart from them. -/
theorem decode_ascii_append {x v : Bytes} (h : ∀ b ∈ x, b < 0x80) {ds : List Char} :
    decode (x ++ v) = .ok ds ↔ ∃ cs, decode v = .ok cs ∧ ds = x.map asciiChar ++ cs :=
  decode_append (decode_ascii h)

/-- What is decoded with ASCII bytes behind it ends where a character does. -/
theorem exists_decode_of_append {u x : Bytes} (h : ∀ b ∈ x, b < 0x80) {ds : List Char} (hd : decode (u ++ x) = .ok ds) :
    ∃ cs, decode u = .ok cs := by
  cases x with
  | nil =>
    rw [List.append_nil] at hd
    exact ⟨ds, hd⟩
  | cons b x =>
    have hwide : (after .between u).Wide := after_wide u trivial
    rw [decode_eq_ok_iff, pieces, piecesFrom_append, piecesFrom_ascii hwide (h b List.mem_cons_self)] at hd
    obtain ⟨cs, more, -, hcs, hmore⟩ := List.map_eq_append_iff.1 hd.symm
    cases hs : after .between u with
    | between =>
      refine ⟨cs, decode_eq_ok_iff.2 ?_⟩
      rw [pieces, piecesFrom_eq, hs, finish, List.append_nil, hcs]
    | inside got owed low high value =>
      rw [hs] at hmore
      obtain ⟨c, cs', -, hc, -⟩ := List.map_eq_cons_iff.1 hmore
      cases hc

/-- **ASCII bytes behind others** are decoded apart from them. -/
theorem decode_append_ascii {u x : Bytes} (h : ∀ b ∈ x, b < 0x80) {ds : List Char} :
    decode (u ++ x) = .ok ds ↔ ∃ cs, decode u = .ok cs ∧ ds = cs ++ x.map asciiChar := by
  constructor
  · intro hd
    obtain ⟨cs, hcs⟩ := exists_decode_of_append h hd
    obtain ⟨ys, hys, rfl⟩ := (decode_append hcs).1 hd
    rw [decode_ascii h] at hys
    cases hys
    exact ⟨cs, hcs, rfl⟩
  · rintro ⟨cs, hcs, rfl⟩
    exact (decode_append hcs).2 ⟨_, decode_ascii h, rfl⟩

end ScanDiscovery.Utf8
