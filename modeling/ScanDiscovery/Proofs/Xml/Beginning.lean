import Mathlib.Data.List.Infix
import ScanDiscovery.Proofs.Xml.Content
/-!
# Proofs.Xml.Beginning — the tokens and the events of the beginning of a document

Wherever a document is cut, its beginning has the same tokens as the whole up to the cut, and then at most a text that
the whole has longer; the same holds of the events (`ofBytes_cut`).  So a beginning closes the root only if the whole
does, and of the bytes of a document it is a `>` that ends the root (`exists_endsRoot`).  Specification only.
-/
namespace ScanDiscovery.Xml

/-- Nothing, or a text. -/
def Scrap {α : Type} (text : Bytes → α) (l : List α) : Prop := l = [] ∨ ∃ t, l = [text t]

/-- Readings of a beginning and of the whole.  They agree, since they ended before the cut, or the beginning breaks off
with a scrap; what the whole has there may be anything, or (with `any` false) a scrap as well. -/
def Stream.CutOf {α : Type} (text : Bytes → α) (any : Prop) (short long : Stream α) : Prop :=
  short = long ∨ ∃ head last tail, short.items = head ++ last ∧ long.items = head ++ tail ∧ Scrap text last ∧
    (any ∨ Scrap text tail)

namespace Stream

variable {α : Type} {text : Bytes → α} {any : Prop} {short long : Stream α}

theorem CutOf.cons (h : CutOf text any short long) (a : α) : CutOf text any (short.cons a) (long.cons a) := by
  rcases h with rfl | ⟨head, last, tail, h1, h2, h3⟩
  · exact .inl rfl
  · exact .inr ⟨a :: head, last, tail, congrArg (a :: ·) h1, congrArg (a :: ·) h2, h3⟩

theorem CutOf.of_scrap (h : Scrap text short.items) (hl : any ∨ Scrap text long.items) : CutOf text any short long :=
  .inr ⟨[], _, _, rfl, rfl, h, hl⟩

end Stream

open Xml.Stream (CutOf)

namespace Token

theorem scrap_text? (read : Bytes) : Scrap Token.text (text? read).toList := by
  unfold text?
  cases read.dropWhile isBlankByte with
  | nil => exact .inl rfl
  | cons b bs => exact .inr ⟨_, rfl⟩

theorem scrap_finish (m : Mode) : Scrap Token.text (finish m).items := by
  cases m with
  | content read =>
    have h := scrap_text? read
    rw [finish]
    cases ht : text? read with
    | none => exact .inl rfl
    | some t =>
      rw [ht] at h
      exact h
  | markup => exact .inl rfl
  | opening quote read => exact .inl rfl
  | closing quote read => exact .inl rfl
  | instruction read => exact .inl rfl
  | declaration => exact .inl rfl
  | comment read => exact .inl rfl
  | cdata read => exact .inl rfl
  | doctype nested read => exact .inl rfl

/-- **Only a `>` completes markup**: another byte completes a text at most. -/
theorem scrap_byte (m : Mode) {b : UInt8} (hb : b ≠ 0x3E) : Scrap Token.text (scan m [b]).items := by
  have hmore : ∀ m', step m b = .more m' → Scrap Token.text (scan m [b]).items := fun m' h => by
    rw [scan, h]
    exact scrap_finish m'
  have hfault : ∀ e, step m b = .fault e → Scrap Token.text (scan m [b]).items := fun e h => by
    rw [scan, h]
    exact .inl rfl
  cases m with
  | content read =>
    by_cases hlt : b = 0x3C
    · have h := scrap_text? read
      cases ht : text? read with
      | none => exact hmore .markup (by rw [step, if_pos hlt, ht])
      | some t =>
        have hstep : step (.content read) b = .emit t .markup := by rw [step, if_pos hlt, ht]
        rw [ht] at h
        rw [scan, hstep]
        exact h
    · by_cases hblank : (read.isEmpty && isBlankByte b) = true
      · exact hmore _ (by rw [step, if_neg hlt, if_pos hblank])
      · exact hmore _ (by rw [step, if_neg hlt, if_neg hblank])
  | markup =>
    by_cases h1 : b = 0x21
    · exact hmore _ (by rw [step, if_pos h1])
    by_cases h2 : b = 0x2F
    · exact hmore _ (by rw [step, if_neg h1, if_pos h2])
    by_cases h3 : b = 0x3F
    · exact hmore _ (by rw [step, if_neg h1, if_neg h2, if_pos h3])
    exact hmore _ (by rw [step, if_neg h1, if_neg h2, if_neg h3, if_neg hb])
  | opening quote read => exact hmore _ (by rw [step, if_neg (by simp [hb])])
  | closing quote read => exact hmore _ (by rw [step, if_neg (by simp [hb])])
  | instruction read => exact hmore _ (by rw [step, if_neg (by simp [hb])])
  | declaration =>
    by_cases h1 : b = 0x5B
    · exact hmore _ (by rw [step, if_pos h1])
    by_cases h2 : b = 0x2D
    · exact hmore _ (by rw [step, if_neg h1, if_pos h2])
    by_cases h3 : (b = 0x44 || b = 0x64) = true
    · exact hmore _ (by rw [step, if_neg h1, if_neg h2, if_pos h3])
    exact hfault _ (by rw [step, if_neg h1, if_neg h2, if_neg h3])
  | comment read => exact hmore _ (by rw [step, if_neg (by simp [hb])])
  | cdata read => exact hmore _ (by rw [step, if_neg (by simp [hb])])
  | doctype nested read => exact hmore _ (by rw [step.eq_def]; exact if_neg hb)

/-- What is behind the cut: anything, or one byte that completes no markup. -/
def Behind (any : Prop) (s : Bytes) : Prop := any ∨ ∃ b, s = [b] ∧ b ≠ 0x3E

theorem scan_cut {any : Prop} {s : Bytes} (hs : Behind any s) : ∀ (p : Bytes) (m : Mode),
    CutOf Token.text any (scan m p) (scan m (p ++ s))
  | [], m => by
    refine .of_scrap (scrap_finish m) ?_
    rcases hs with h | ⟨b, rfl, hb⟩
    · exact .inl h
    · exact .inr (scrap_byte m hb)
  | b :: p, m => by
    rw [List.cons_append, scan, scan]
    cases step m b with
    | more m => exact scan_cut hs p m
    | emit t m => exact (scan_cut hs p m).cons t
    | fault e => exact .inl rfl

theorem dropMark_of_not {bs : Bytes} (h : ∀ rest, bs ≠ 0xEF :: 0xBB :: 0xBF :: rest) : dropMark bs = bs := by
  unfold dropMark
  split
  · rename_i rest
    exact absurd rfl (h rest)
  · rfl

/-- What is cut from a document with the byte order mark is a part of the mark, or has it. -/
theorem cut_at_mark {p s tail : Bytes} (h : p ++ s = 0xEF :: 0xBB :: 0xBF :: tail) :
    p = [] ∨ p = [0xEF] ∨ p = [0xEF, 0xBB] ∨ ∃ rest, p = 0xEF :: 0xBB :: 0xBF :: rest := by
  match p, h with
  | [], _ => exact .inl rfl
  | [_], h =>
    obtain rfl := (List.cons.inj h).1
    exact .inr (.inl rfl)
  | [_, _], h =>
    obtain rfl := (List.cons.inj h).1
    obtain rfl := (List.cons.inj (List.cons.inj h).2).1
    exact .inr (.inr (.inl rfl))
  | _ :: _ :: _ :: rest, h =>
    obtain rfl := (List.cons.inj h).1
    obtain rfl := (List.cons.inj (List.cons.inj h).2).1
    obtain rfl := (List.cons.inj (List.cons.inj (List.cons.inj h).2).2).1
    exact .inr (.inr (.inr ⟨rest, rfl⟩))

/-- **The tokens of a beginning**, which may be a part of the byte order mark. -/
theorem ofBytes_cut {any : Prop} {s : Bytes} (hs : Behind any s) (p : Bytes) :
    CutOf Token.text any (ofBytes p) (ofBytes (p ++ s)) := by
  by_cases hmark : ∃ rest, p ++ s = 0xEF :: 0xBB :: 0xBF :: rest
  · obtain ⟨rest, hrest⟩ := hmark
    -- the cut falls into the mark, or behind it
    have hlong : p.length < 3 → any ∨ Scrap Token.text (ofBytes (p ++ s)).items := fun hlen => by
      rcases hs with h | ⟨b, rfl, -⟩
      · exact .inl h
      · have hl := congrArg List.length hrest
        simp only [List.length_append, List.length_cons, List.length_nil] at hl
        obtain rfl : rest = [] := List.eq_nil_of_length_eq_zero (by omega)
        rw [hrest]
        exact .inr (.inl rfl)
    rcases cut_at_mark hrest with rfl | rfl | rfl | ⟨p, rfl⟩
    · exact .of_scrap (.inl rfl) (hlong (by decide))
    · exact .of_scrap (.inr ⟨[0xEF], rfl⟩) (hlong (by decide))
    · exact .of_scrap (.inr ⟨[0xEF, 0xBB], rfl⟩) (hlong (by decide))
    · exact scan_cut hs p (.content [])
  · have hlong : dropMark (p ++ s) = p ++ s := dropMark_of_not fun rest h => hmark ⟨rest, h⟩
    have hshort : dropMark p = p := dropMark_of_not fun rest h => hmark ⟨rest ++ s, by rw [h]; rfl⟩
    rw [ofBytes, ofBytes, hlong, hshort]
    exact scan_cut hs p (.content [])

end Token

namespace Event

theorem scrap_ofTokens (fault : Option Error) (bs : Bindings) (opened : List Open) {ts : List Token}
    (h : Scrap Token.text ts) : Scrap Event.text (ofTokens fault bs opened ts).items := by
  rcases h with rfl | ⟨t, rfl⟩
  · exact .inl rfl
  · exact .inr ⟨t, rfl⟩

theorem ofTokens_cut {any : Prop} {last tail : List Token} (hlast : Scrap Token.text last)
    (htail : any ∨ Scrap Token.text tail) (f f' : Option Error) :
    ∀ (head : List Token) (bs : Bindings) (opened : List Open),
    CutOf Event.text any (ofTokens f bs opened (head ++ last)) (ofTokens f' bs opened (head ++ tail))
  | [], bs, opened =>
    .of_scrap (scrap_ofTokens f bs opened hlast) (htail.imp_right fun h => scrap_ofTokens f' bs opened h)
  | .text t :: head, bs, opened => (ofTokens_cut hlast htail f f' head bs opened).cons _
  | .cdata t :: head, bs, opened => (ofTokens_cut hlast htail f f' head bs opened).cons _
  | .remark :: head, bs, opened => ofTokens_cut hlast htail f f' head bs opened
  | .opening content empty :: head, bs, opened => by
    simp only [List.cons_append, ofTokens]
    cases bs.extend (attributesOf content) with
    | error e => exact .inl rfl
    | ok inside =>
      cases empty with
      | true => exact ((ofTokens_cut hlast htail f f' head bs opened).cons _).cons _
      | false => exact (ofTokens_cut hlast htail f f' head inside _).cons _
  | .closing name :: head, bs, [] => .inl rfl
  | .closing name :: head, bs, o :: opened => by
    simp only [List.cons_append, ofTokens]
    by_cases hn : o.name = name
    · rw [if_pos hn, if_pos hn]
      exact (ofTokens_cut hlast htail f f' head o.outside opened).cons _
    · rw [if_neg hn, if_neg hn]
      exact .inl rfl

/-- **The events of a beginning.** -/
theorem ofBytes_cut {any : Prop} {s : Bytes} (hs : Token.Behind any s) (p : Bytes) :
    CutOf Event.text any (ofBytes p) (ofBytes (p ++ s)) := by
  unfold ofBytes
  rcases Token.ofBytes_cut hs p with h | ⟨head, last, tail, h1, h2, h3, h4⟩
  · rw [h]
    exact .inl rfl
  · dsimp only
    rw [h1, h2]
    exact ofTokens_cut h3 h4 _ _ head _ _

theorem foldl_tally_scrap {l : List Event} (h : Scrap Event.text l) (s : Nat × Bool) : l.foldl tally s = s := by
  rcases h with rfl | ⟨t, rfl⟩ <;> rfl

end Event

/-! ## The end of the root -/

/-- The root is closed somewhere in these bytes. -/
def ClosesRoot (bs : Bytes) : Prop :=
  ∃ es, es <+: (Event.ofBytes bs).items ∧ es.foldl Event.tally (0, false) = (0, true)

/-- These bytes stand before the `>` that ends the root. -/
def EndsRoot (bs : Bytes) : Prop := ¬ ClosesRoot bs ∧ ClosesRoot (bs ++ [0x3E])

instance (bs : Bytes) : Decidable (ClosesRoot bs) :=
  decidable_of_iff (∃ es ∈ (Event.ofBytes bs).items.inits, es.foldl Event.tally (0, false) = (0, true)) (by
    simp only [List.mem_inits, ClosesRoot])

instance (bs : Bytes) : Decidable (EndsRoot bs) :=
  inferInstanceAs (Decidable (¬ ClosesRoot bs ∧ ClosesRoot (bs ++ [0x3E])))

theorem closes_of_scrap {head last es : List Event} (hl : Scrap Event.text last) (hes : es <+: head ++ last)
    (h : es.foldl Event.tally (0, false) = (0, true)) :
    ∃ es, es <+: head ∧ es.foldl Event.tally (0, false) = (0, true) := by
  rcases List.prefix_or_prefix_of_prefix hes (List.prefix_append head last) with hes | ⟨more, rfl⟩
  · exact ⟨es, hes, h⟩
  · have hmore : more <+: last := (List.prefix_append_right_inj head).1 hes
    have hm : Scrap Event.text more := by
      rcases hl with rfl | ⟨t, rfl⟩
      · exact .inl (List.prefix_nil.1 hmore)
      · rcases List.prefix_cons_iff.1 hmore with rfl | ⟨more, rfl, hn⟩
        · exact .inl rfl
        · exact .inr ⟨t, by rw [List.prefix_nil.1 hn]⟩
    rw [List.foldl_append, Event.foldl_tally_scrap hm] at h
    exact ⟨head, List.prefix_refl _, h⟩

/-- **What closes the root goes on to close it.** -/
theorem ClosesRoot.append {p : Bytes} (h : ClosesRoot p) (s : Bytes) : ClosesRoot (p ++ s) := by
  obtain ⟨es, hes, ht⟩ := h
  have hs : Token.Behind True s := .inl trivial
  rcases Event.ofBytes_cut hs p with he | ⟨head, last, tail, h1, h2, h3, -⟩
  · exact ⟨es, by rw [← he]; exact hes, ht⟩
  · rw [h1] at hes
    obtain ⟨es, hes, ht⟩ := closes_of_scrap h3 hes ht
    exact ⟨es, by rw [h2]; exact hes.trans (List.prefix_append _ _), ht⟩

theorem ClosesRoot.of_byte {p : Bytes} {b : UInt8} (h : ClosesRoot (p ++ [b])) (hb : b ≠ 0x3E) : ClosesRoot p := by
  obtain ⟨es, hes, ht⟩ := h
  have hs : Token.Behind False [b] := .inr ⟨b, rfl, hb⟩
  rcases Event.ofBytes_cut hs p with he | ⟨head, last, tail, h1, h2, -, h4⟩
  · exact ⟨es, by rw [he]; exact hes, ht⟩
  · rw [h2] at hes
    obtain ⟨es, hes, ht⟩ := closes_of_scrap (h4.resolve_left id) hes ht
    exact ⟨es, by rw [h1]; exact hes.trans (List.prefix_append _ _), ht⟩

theorem not_closesRoot_nil : ¬ ClosesRoot [] := by
  rintro ⟨es, hes, ht⟩
  rw [List.prefix_nil.1 hes] at ht
  cases ht

/-- **The root is ended by a `>`.** -/
theorem exists_endsRoot {document : Bytes} (h : ClosesRoot document) :
    ∃ a z, document = a ++ 0x3E :: z ∧ EndsRoot a := by
  induction document using List.reverseRecOn with
  | nil => exact absurd h not_closesRoot_nil
  | append_singleton bs b ih =>
    by_cases hbs : ClosesRoot bs
    · obtain ⟨a, z, rfl, ha⟩ := ih hbs
      exact ⟨a, z ++ [b], by rw [List.append_assoc, List.cons_append], ha⟩
    · obtain rfl : b = 0x3E := Classical.byContradiction fun hne => hbs (h.of_byte hne)
      exact ⟨bs, [], rfl, hbs, h⟩

end ScanDiscovery.Xml
