import Mathlib.Data.List.TakeWhile
import ScanDiscovery.Proofs.Xml.Insertion
/-!
# Proofs.Xml.Stripped — the text that bytes between tags are read as

Bytes without a `<` are read as one text, less the blanks at its two ends (`strip`), and blanks only as none
(`reach_plain`, `text?_eq`).  So every text of a document begins and ends with a byte that is no blank
(`stripped_of_mem`).  Specification only.
-/
namespace ScanDiscovery.Xml

/-- The bytes without the blanks at their two ends. -/
def strip (bs : Bytes) : Bytes := ((bs.dropWhile isBlankByte).reverse.dropWhile isBlankByte).reverse

/-- There is a byte in it, and none at its two ends is blank. -/
structure Stripped (bs : Bytes) : Prop where
  ne_nil : bs ≠ []
  first : ∀ b ∈ bs.head?, isBlankByte b = false
  last : ∀ b ∈ bs.getLast?, isBlankByte b = false

section

variable {bs : Bytes}

theorem blank_of_head?_dropWhile : ∀ b ∈ (bs.dropWhile isBlankByte).head?, isBlankByte b = false := by
  intro b hb
  have h := List.head?_dropWhile_not isBlankByte bs
  rw [Option.mem_def.1 hb] at h
  exact h

theorem dropWhile_eq_self (h : ∀ b ∈ bs.head?, isBlankByte b = false) : bs.dropWhile isBlankByte = bs := by
  cases bs with
  | nil => rfl
  | cons b bs => exact List.dropWhile_cons_of_neg (by simp [h b rfl])

theorem dropWhile_blanks (h : ∀ b ∈ bs, isBlankByte b = true) (v : Bytes) :
    (bs ++ v).dropWhile isBlankByte = v.dropWhile isBlankByte := List.dropWhile_append_of_pos h

theorem dropWhile_append_dropWhile (u v : Bytes) :
    (u.dropWhile isBlankByte ++ v).dropWhile isBlankByte = (u ++ v).dropWhile isBlankByte := by
  have hu : u ++ v = u.takeWhile isBlankByte ++ (u.dropWhile isBlankByte ++ v) := by
    rw [← List.append_assoc, List.takeWhile_append_dropWhile]
  rw [hu, dropWhile_blanks fun b hb => List.mem_takeWhile_imp hb]

theorem strip_dropWhile (bs : Bytes) : strip (bs.dropWhile isBlankByte) = strip bs := by
  rw [strip, strip, dropWhile_eq_self blank_of_head?_dropWhile]

/-- **Bytes are what is left of them between blanks.** -/
theorem exists_blanks_strip (bs : Bytes) : ∃ before behind : Bytes, bs = before ++ (strip bs ++ behind) ∧
    (∀ b ∈ before, isBlankByte b = true) ∧ ∀ b ∈ behind, isBlankByte b = true := by
  refine ⟨bs.takeWhile isBlankByte, ((bs.dropWhile isBlankByte).reverse.takeWhile isBlankByte).reverse, ?_,
    fun b hb => List.mem_takeWhile_imp hb, fun b hb => List.mem_takeWhile_imp (List.mem_reverse.1 hb)⟩
  rw [strip, ← List.reverse_append, List.takeWhile_append_dropWhile, List.reverse_reverse,
    List.takeWhile_append_dropWhile]

theorem stripped_strip (h : strip bs ≠ []) : Stripped (strip bs) where
  ne_nil := h
  first b hb := by
    -- what is left is the beginning of what has lost its first blanks
    have hprefix : strip bs <+: bs.dropWhile isBlankByte := by
      have hsuffix := List.dropWhile_suffix isBlankByte (l := (bs.dropWhile isBlankByte).reverse)
      rw [← List.reverse_prefix, List.reverse_reverse] at hsuffix
      exact hsuffix
    obtain ⟨c, rest, hcons⟩ := List.exists_cons_of_ne_nil h
    obtain ⟨more, hmore⟩ := hprefix
    rw [hcons] at hb hmore
    have hhead : b ∈ (bs.dropWhile isBlankByte).head? := by
      rw [← hmore]
      exact hb
    exact blank_of_head?_dropWhile b hhead
  last b hb := by
    rw [strip, List.getLast?_reverse] at hb
    exact blank_of_head?_dropWhile b hb

theorem Stripped.strip_eq (h : Stripped bs) : strip bs = bs := by
  have hlast : ∀ b ∈ bs.reverse.head?, isBlankByte b = false := by
    rw [List.head?_reverse]
    exact h.last
  rw [strip, dropWhile_eq_self h.first, dropWhile_eq_self hlast, List.reverse_reverse]

theorem strip_eq_nil_iff : strip bs = [] ↔ ∀ b ∈ bs, isBlankByte b = true := by
  constructor
  · intro h b hb
    obtain ⟨before, behind, hbs, hbefore, hbehind⟩ := exists_blanks_strip bs
    rw [h, List.nil_append] at hbs
    rw [hbs] at hb
    exact (List.mem_append.1 hb).elim (hbefore b) (hbehind b)
  · intro h
    rw [strip, List.dropWhile_eq_nil_iff.2 h]
    rfl

/-- Bytes that begin with no blank keep what stands before them as it is, if that begins and ends with none. -/
theorem strip_append {u v : Bytes} (hu : Stripped u) (hv : ∀ b ∈ v.head?, isBlankByte b = false) :
    strip (u ++ v) = u ++ strip v := by
  have hfirst : ∀ b ∈ (u ++ v).head?, isBlankByte b = false := by
    rw [List.head?_append_of_ne_nil _ hu.ne_nil]
    exact hu.first
  have hlast : ∀ b ∈ u.reverse.head?, isBlankByte b = false := by
    rw [List.head?_reverse]
    exact hu.last
  rw [strip, strip, dropWhile_eq_self hfirst, dropWhile_eq_self hv, List.reverse_append, List.dropWhile_append]
  split
  · rename_i hnil
    rw [List.isEmpty_iff.1 hnil, dropWhile_eq_self hlast, List.reverse_reverse, List.reverse_nil, List.append_nil]
  · rw [List.reverse_append, List.reverse_reverse]

end

namespace Token

/-- What a mode has read of a text does not begin with a blank. -/
def Mode.Begun : Mode → Prop
  | .content read => ∀ b ∈ read.getLast?, isBlankByte b = false
  | _ => True

theorem begun_nil : Mode.Begun (.content []) := fun b hb => by cases hb

theorem begun_content {bs : Bytes} : Mode.Begun (.content (bs.dropWhile isBlankByte).reverse) := by
  intro b hb
  rw [List.getLast?_reverse] at hb
  exact blank_of_head?_dropWhile b hb

/-- **The text that was read** is what is left of its bytes without the blanks around them, if there is something. -/
theorem text?_eq {read : Bytes} (h : Mode.Begun (.content read)) :
    text? read = if strip read.reverse = [] then none else some (.text (strip read.reverse)) := by
  have hfirst : ∀ b ∈ read.reverse.head?, isBlankByte b = false := by
    rw [List.head?_reverse]
    exact h
  have hstrip : strip read.reverse = (read.dropWhile isBlankByte).reverse := by
    rw [strip, dropWhile_eq_self hfirst, List.reverse_reverse]
  unfold text?
  rw [hstrip]
  cases read.dropWhile isBlankByte with
  | nil => rfl
  | cons b bs => rw [if_neg (by simp)]

/-- A byte that is no `<` is read on, unless it is a blank before the text. -/
theorem step_plain {read : Bytes} (h : Mode.Begun (.content read)) {b : UInt8} (hb : b ≠ 0x3C) :
    step (.content read) b = .more (.content ((read.reverse ++ [b]).dropWhile isBlankByte).reverse) := by
  rw [step, if_neg hb]
  cases read with
  | nil =>
    by_cases hblank : isBlankByte b = true
    · rw [if_pos (by simp [hblank]), List.reverse_nil, List.nil_append, List.dropWhile_cons_of_pos hblank]
      rfl
    · rw [if_neg (by simp [hblank]), List.reverse_nil, List.nil_append, List.dropWhile_cons_of_neg hblank]
      rfl
  | cons c cs =>
    have hfirst : ∀ d ∈ ((c :: cs).reverse ++ [b]).head?, isBlankByte d = false := by
      rw [List.head?_append_of_ne_nil _ (by simp), List.head?_reverse]
      exact h
    rw [if_neg (by simp), dropWhile_eq_self hfirst, List.reverse_append, List.reverse_reverse]
    rfl

/-- **Bytes without a `<`** go on with the text that was begun. -/
theorem reach_plain : ∀ (v : Bytes) {read : Bytes}, 0x3C ∉ v → Mode.Begun (.content read) →
    reach (.content read) v = some ([], .content ((read.reverse ++ v).dropWhile isBlankByte).reverse)
  | [], read, _, h => by
    rw [List.append_nil, dropWhile_eq_self (by rw [List.head?_reverse]; exact h), List.reverse_reverse]
    rfl
  | b :: v, read, hv, h => by
    obtain ⟨hb, hv'⟩ := List.ne_and_not_mem_of_not_mem_cons hv
    rw [reach, step_plain h (Ne.symm hb)]
    refine (reach_plain v hv' begun_content).trans ?_
    rw [List.reverse_reverse, dropWhile_append_dropWhile, List.append_assoc]
    rfl

theorem stripped_of_text? {read content : Bytes} (h : Mode.Begun (.content read)) (ht : text? read = some (.text content)) :
    Stripped content := by
  rw [text?_eq h] at ht
  split at ht
  · cases ht
  · rename_i hne
    cases ht
    exact stripped_strip hne

/-- What is begun of a text behind a step, and what is completed by it, is as texts are. -/
def Step.Begun : Step → Prop
  | .more m => m.Begun
  | .emit t m => m.Begun ∧ ∀ content, t = .text content → Stripped content
  | .fault _ => True

theorem Step.Begun.ite {p : Prop} [Decidable p] {s s' : Step} (h : s.Begun) (h' : s'.Begun) :
    (if p then s else s').Begun := by
  split
  · exact h
  · exact h'

/-- Markup that is completed is no text, and nothing is begun behind it. -/
theorem begun_done {t : Token} (h : ∀ content, t ≠ .text content) : (Step.done t).Begun :=
  ⟨begun_nil, fun content ht => absurd ht (h content)⟩

theorem begun_ofOpening (read : Bytes) : (Step.done (ofOpening read)).Begun :=
  begun_done fun content h => by
    unfold ofOpening at h
    split at h <;> cases h

theorem begun_ofClosing (read : Bytes) : (Step.done (ofClosing read)).Begun :=
  begun_done fun content h => by
    unfold ofClosing at h
    split at h <;> cases h

theorem begun_remark : (Step.done .remark).Begun := begun_done fun content h => by cases h

theorem step_begun {m : Mode} (hm : m.Begun) (b : UInt8) : (step m b).Begun := by
  cases m with
  | content read =>
    by_cases hlt : b = 0x3C
    · rw [step, if_pos hlt]
      cases ht : text? read with
      | none => trivial
      | some t => exact ⟨trivial, fun content htext => stripped_of_text? hm (htext ▸ ht)⟩
    · rw [step_plain hm hlt]
      exact begun_content
  | markup => exact .ite trivial (.ite trivial (.ite trivial (.ite (begun_ofOpening []) trivial)))
  | opening quote read => exact .ite (begun_ofOpening read) trivial
  | closing quote read => exact .ite (begun_ofClosing read) trivial
  | instruction read => exact .ite (.ite begun_remark trivial) trivial
  | declaration => exact .ite trivial (.ite trivial (.ite trivial trivial))
  | comment read => exact .ite (.ite begun_remark trivial) trivial
  | cdata read =>
    refine .ite ?_ trivial
    rw [endCdata]
    cases cdataStart.isPrefixOf? (read.drop 2).reverse with
    | some content => exact begun_done fun content h => by cases h
    | none => trivial
  | doctype nested read =>
    cases nested with
    | zero => exact .ite (.ite (.ite trivial begun_remark) trivial) trivial
    | succ n => exact .ite trivial trivial

/-- **Every text that is read is stripped.** -/
theorem stripped_of_scan : ∀ (bs : Bytes) {m : Mode}, m.Begun → ∀ content, .text content ∈ (scan m bs).items →
    Stripped content
  | [], m, hm, content, h => by
    cases m with
    | content read =>
      rw [scan, finish] at h
      cases ht : text? read with
      | none =>
        rw [ht] at h
        cases h
      | some t =>
        rw [ht] at h
        exact stripped_of_text? hm (List.mem_singleton.1 h ▸ ht)
    | _ => cases h
  | b :: bs, m, hm, content, h => by
    have hstep := step_begun hm b
    rw [scan] at h
    cases hs : step m b with
    | more m' =>
      rw [hs] at h hstep
      exact stripped_of_scan bs hstep content h
    | emit t m' =>
      rw [hs] at h hstep
      rcases List.mem_cons.1 h with ht | h
      · exact hstep.2 content ht.symm
      · exact stripped_of_scan bs hstep.1 content h
    | fault e =>
      rw [hs] at h
      cases h

end Token

/-- Texts are events as they were read. -/
theorem Event.mem_of_ofTokens {fault : Option Error} {content : Bytes} : ∀ (ts : List Token) (bs : Bindings)
    (opened : List Open), .text content ∈ (ofTokens fault bs opened ts).items → .text content ∈ ts
  | [], _, _, h => by cases h
  | .text t :: ts, bs, opened, h => by
    rcases List.mem_cons.1 h with ht | h
    · cases ht
      exact List.mem_cons_self
    · exact List.mem_cons_of_mem _ (mem_of_ofTokens ts bs opened h)
  | .cdata t :: ts, bs, opened, h => by
    rcases List.mem_cons.1 h with ht | h
    · cases ht
    · exact List.mem_cons_of_mem _ (mem_of_ofTokens ts bs opened h)
  | .remark :: ts, bs, opened, h => List.mem_cons_of_mem _ (mem_of_ofTokens ts bs opened h)
  | .opening tag empty :: ts, bs, opened, h => by
    rw [ofTokens] at h
    cases hb : bs.extend (attributesOf tag) with
    | error e =>
      rw [hb] at h
      cases h
    | ok inside =>
      rw [hb] at h
      cases empty with
      | true =>
        rcases List.mem_cons.1 h with ht | h
        · cases ht
        rcases List.mem_cons.1 h with ht | h
        · cases ht
        exact List.mem_cons_of_mem _ (mem_of_ofTokens ts bs opened h)
      | false =>
        rcases List.mem_cons.1 h with ht | h
        · cases ht
        exact List.mem_cons_of_mem _ (mem_of_ofTokens ts inside _ h)
  | .closing name :: ts, bs, [], h => by cases h
  | .closing name :: ts, bs, o :: opened, h => by
    rw [ofTokens] at h
    split at h
    · rcases List.mem_cons.1 h with ht | h
      · cases ht
      · exact List.mem_cons_of_mem _ (mem_of_ofTokens ts _ opened h)
    · cases h

/-- **A text of a document has no blanks at its ends**, and is not empty. -/
theorem stripped_of_mem {document content : Bytes} (h : .text content ∈ (Event.ofBytes document).items) :
    Stripped content :=
  Token.stripped_of_scan _ Token.begun_nil content (Event.mem_of_ofTokens _ _ _ h)

end ScanDiscovery.Xml
