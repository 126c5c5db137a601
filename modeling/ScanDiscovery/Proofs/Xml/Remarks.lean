import Mathlib.Data.List.DropRight
import ScanDiscovery.Proofs.Xml.Enclosed
import ScanDiscovery.Proofs.Xml.Parted
import ScanDiscovery.Proofs.Xml.Trimmed
/-!
# Proofs.Xml.Remarks — a text with a remark in it

A remark cuts a text into two, and each of them is stripped by itself.  So where the cut is between characters and
outside of references, nothing is lost but the blanks beside the remark (`strip_joined`): every walk goes as over the text
without the remark and without those blanks (`same_of_remark`).  Specification only.
-/
namespace ScanDiscovery.Xml

open Cursor (textOf PartedAt)
open Reference (Replaced Settled)

/-! ## The blanks beside a cut -/

/-- Two runs of bytes put together, without the blanks between them. -/
def joined (u v : Bytes) : Bytes := u.rdropWhile isBlankByte ++ v.dropWhile isBlankByte

/-- There are no blanks between the two, or nothing but blanks on one side. -/
def Adjoining (u v : Bytes) : Prop :=
  (∀ b ∈ u, isBlankByte b = true) ∨ (∀ b ∈ v, isBlankByte b = true) ∨
    (∀ b ∈ u.getLast?, isBlankByte b = false) ∧ ∀ b ∈ v.head?, isBlankByte b = false

section

variable {u v : Bytes}

theorem strip_blanks_append (hu : ∀ b ∈ u, isBlankByte b = true) (v : Bytes) : strip (u ++ v) = strip v := by
  rw [strip, dropWhile_blanks hu, strip]

theorem strip_append_blanks (u : Bytes) (hv : ∀ b ∈ v, isBlankByte b = true) : strip (u ++ v) = strip u := by
  have hv' : v.dropWhile isBlankByte = [] := List.dropWhile_eq_nil_iff.2 hv
  rw [strip, strip, List.dropWhile_append]
  split
  · rename_i hnil
    rw [hv', List.isEmpty_iff.1 hnil]
  · rw [List.reverse_append, dropWhile_blanks fun b hb => hv b (List.mem_reverse.1 hb)]

/-- Where neither has a blank beside the other, they are stripped one by one. -/
theorem strip_append_of_ends (hu : ∀ b ∈ u.getLast?, isBlankByte b = false)
    (hv : ∀ b ∈ v.head?, isBlankByte b = false) : strip (u ++ v) = strip u ++ strip v := by
  by_cases hnil : u = []
  · rw [hnil]
    rfl
  -- what is left of the first behind its blanks still has its last byte
  have hne : u.dropWhile isBlankByte ≠ [] := by
    intro h
    have hblank := List.dropWhile_eq_nil_iff.1 h _ (List.getLast_mem hnil)
    rw [hu _ (List.getLast?_eq_some_getLast hnil)] at hblank
    cases hblank
  have hlast : u.getLast? = (u.dropWhile isBlankByte).getLast? := by
    have happend := List.getLast?_append_of_ne_nil (u.takeWhile isBlankByte) hne
    rwa [List.takeWhile_append_dropWhile] at happend
  have hstripped : Stripped (u.dropWhile isBlankByte) := ⟨hne, blank_of_head?_dropWhile, hlast ▸ hu⟩
  calc strip (u ++ v) = strip (u.dropWhile isBlankByte ++ v) := by
        rw [← strip_dropWhile, ← dropWhile_append_dropWhile, strip_dropWhile]
    _ = u.dropWhile isBlankByte ++ strip v := strip_append hstripped hv
    _ = strip u ++ strip v := by rw [← hstripped.strip_eq, strip_dropWhile]

/-- **Runs without the blanks between them** are stripped one by one. -/
theorem strip_joined (u v : Bytes) : strip (joined u v) = strip u ++ strip v := by
  have hlast : ∀ b ∈ (u.rdropWhile isBlankByte).getLast?, isBlankByte b = false := by
    rw [List.rdropWhile, List.getLast?_reverse]
    exact blank_of_head?_dropWhile
  have hblanks : ∀ b ∈ u.rtakeWhile isBlankByte, isBlankByte b = true := fun b hb => List.mem_rtakeWhile_imp hb
  have hu : strip u = strip (u.rdropWhile isBlankByte) := by
    have happend := strip_append_blanks (u.rdropWhile isBlankByte) hblanks
    rwa [List.rdropWhile_append_rtakeWhile] at happend
  rw [joined, strip_append_of_ends hlast blank_of_head?_dropWhile, strip_dropWhile, hu]

theorem strip_of_adjoining (h : Adjoining u v) : strip (u ++ v) = strip u ++ strip v := by
  rcases h with hu | hv | ⟨hu, hv⟩
  · rw [strip_blanks_append hu, strip_eq_nil_iff.2 hu, List.nil_append]
  · rw [strip_append_blanks u hv, strip_eq_nil_iff.2 hv, List.append_nil]
  · exact strip_append_of_ends hu hv

end

/-! ## A text in parts -/

/-- Texts one after the other stand for what each stands for. -/
theorem textOf_append {u v : Bytes} {x y : List Char} (hu : textOf u = .ok x) (hv : textOf v = .ok y) :
    textOf (u ++ v) = .ok (x ++ y) := by
  obtain ⟨cs, hcs, hx⟩ := textOf_eq_ok_iff.1 hu
  obtain ⟨ds, hds, hy⟩ := textOf_eq_ok_iff.1 hv
  exact textOf_eq_ok_iff.2 ⟨cs ++ ds, (Utf8.decode_append hcs).2 ⟨ds, hds, rfl⟩, hx.append hy⟩

/-- **A text that is cut between characters and outside of references** is two texts. -/
theorem textOf_cut {u v : Bytes} {xs chars : List Char} (h : textOf (u ++ v) = .ok chars) (hu : Utf8.decode u = .ok xs)
    (hsettled : Settled xs) : ∃ x y, textOf u = .ok x ∧ textOf v = .ok y := by
  obtain ⟨cs, hcs, hchars⟩ := textOf_eq_ok_iff.1 h
  obtain ⟨ys, hys, rfl⟩ := (Utf8.decode_append hu).1 hcs
  obtain ⟨x, y, hx, hy, -⟩ := hchars.split hsettled
  exact ⟨x, y, textOf_eq_ok_iff.2 ⟨xs, hu, hx⟩, textOf_eq_ok_iff.2 ⟨ys, hys, hy⟩⟩

theorem exists_textOf_strip {u : Bytes} {x : List Char} (h : textOf u = .ok x) : ∃ inside, textOf (strip u) = .ok inside := by
  obtain ⟨cs, hcs, hx⟩ := textOf_eq_ok_iff.1 h
  obtain ⟨-, inside, -, hinside, -⟩ := textOf_strip hcs hx
  exact ⟨inside, hinside⟩

/-- The same tokens, but that there is a remark in the second, which may stand in the middle of a text. -/
inductive Token.Parted : List Token → List Token → Prop
  | remark (ts : List Token) : Parted ts (.remark :: ts)
  | parts {whole front back : Bytes} {x y : List Char} (hfront : textOf front = .ok x) (hback : textOf back = .ok y)
      (hwhole : textOf whole = .ok (x ++ y)) (ts : List Token) :
      Parted (.text whole :: ts) (.text front :: .remark :: .text back :: ts)
  | cons (t : Token) {ts ts' : List Token} (h : Parted ts ts') : Parted (t :: ts) (t :: ts')

namespace Token

theorem Parted.append {ts ts' : List Token} (h : Parted ts ts') : ∀ before : List Token,
    Parted (before ++ ts) (before ++ ts')
  | [] => h
  | t :: before => .cons t (append h before)

/-- A run, and the two that it consists of with a remark between them. -/
theorem parted_run {run u v : Bytes} {x y : List Char} (hu : textOf u = .ok x) (hv : textOf v = .ok y)
    (hrun : strip run = strip u ++ strip v) (ts : List Token) :
    Parted (ofRun run ++ ts) (ofRun u ++ .remark :: (ofRun v ++ ts)) := by
  obtain ⟨x', hx⟩ := exists_textOf_strip hu
  obtain ⟨y', hy⟩ := exists_textOf_strip hv
  simp only [ofRun, hrun, List.append_eq_nil_iff]
  by_cases hunil : strip u = []
  · simp only [hunil, true_and, if_true, List.nil_append]
    exact .remark _
  · simp only [hunil, false_and, if_false]
    by_cases hvnil : strip v = []
    · simp only [hvnil, if_true, List.append_nil]
      exact .cons _ (.remark _)
    · simp only [hvnil, if_false]
      exact .parts hx hy (textOf_append hx hy) ts

end Token

/-- **Remarks leave no events**, and a text that has one in it is in two parts. -/
theorem Event.ofTokens_parted (fault : Option Error) {ts ts' : List Token} (h : Token.Parted ts ts') :
    ∀ (bs : Bindings) (opened : List Open), (ofTokens fault bs opened ts').fault = (ofTokens fault bs opened ts).fault ∧
      Parted (ofTokens fault bs opened ts).items (ofTokens fault bs opened ts').items := by
  induction h with
  | remark ts => exact fun bs opened => ⟨rfl, .refl _⟩
  | parts hfront hback hwhole ts => exact fun bs opened => ⟨rfl, .parts hfront hback hwhole (.refl _)⟩
  | @cons t ts ts' h ih =>
    intro bs opened
    cases t with
    | text content => exact ⟨(ih bs opened).1, .cons _ (ih bs opened).2⟩
    | cdata content => exact ⟨(ih bs opened).1, .cons _ (ih bs opened).2⟩
    | remark => exact ih bs opened
    | opening content empty =>
      rw [ofTokens, ofTokens]
      cases bs.extend (attributesOf content) with
      | error e => exact ⟨rfl, .refl _⟩
      | ok inside =>
        cases empty with
        | true => exact ⟨(ih bs opened).1, .cons _ (.cons _ (ih bs opened).2)⟩
        | false => exact ⟨(ih inside _).1, .cons _ (ih inside _).2⟩
    | closing name =>
      cases opened with
      | nil => exact ⟨rfl, .refl _⟩
      | cons o opened =>
        rw [ofTokens, ofTokens]
        split
        · exact ⟨(ih o.outside opened).1, .cons _ (ih o.outside opened).2⟩
        · exact ⟨rfl, .refl _⟩

/-! ## Documents -/

/-- Two documents that every walk goes over alike, whatever texts it reads. -/
def Same (document document' : Bytes) : Prop :=
  ∀ (φ ε α : Type) (lift : Error → ε) (w : Walk φ ε α),
    (Walk.runDocument lift w document).result = (Walk.runDocument lift w document').result ∧
      (Walk.runDocument lift w document).trace = (Walk.runDocument lift w document').trace

section

variable {front u w v back : Bytes} {tokens : List Token}
  (hfront : Token.reach (.content []) (Token.dropMark front) = some (tokens, .content [])) (htokens : tokens ≠ [])
  (hback : ∀ b ∈ back.head?, b = 0x3C)
include hfront htokens hback

/-- The tokens of a document with a run of bytes between tags. -/
theorem Token.ofBytes_run {run : Bytes} (h : 0x3C ∉ run) : Token.ofBytes (front ++ (run ++ back)) =
    ⟨tokens ++ (ofRun run ++ (scan (.content []) back).items), (scan (.content []) back).fault⟩ := by
  have hbefore : before front = some tokens := by rw [before, hfront]
  rw [ofBytes, dropMark_append hbefore htokens, scan_append _ hfront, scan_run h hback]

/-- The tokens of a document with a remark between two such runs. -/
theorem Token.ofBytes_remark (hu : 0x3C ∉ u) (hw : Remark w) (hv : 0x3C ∉ v) :
    Token.ofBytes (front ++ (u ++ (w ++ (v ++ back)))) =
      ⟨tokens ++ (ofRun u ++ .remark :: (ofRun v ++ (scan (.content []) back).items)),
        (scan (.content []) back).fault⟩ := by
  have hbefore : before front = some tokens := by rw [before, hfront]
  rw [ofBytes, dropMark_append hbefore htokens, scan_append _ hfront, scan_append u (reach_plain u hu begun_nil),
    scan_append w (reach_remark hw _), scan_run hv hback, List.reverse_nil, List.nil_append, toList_text?,
    List.nil_append, List.append_assoc]
  rfl

/-- **A remark between two runs of bytes that are texts is as if it were not there**, where the two and what stands in
their place are stripped to the same. -/
theorem same_of_remark {run : Bytes} {x y : List Char} (hu : 0x3C ∉ u) (hw : Remark w) (hv : 0x3C ∉ v)
    (hrun : 0x3C ∉ run) (htextU : textOf u = .ok x) (htextV : textOf v = .ok y)
    (hstrip : strip run = strip u ++ strip v) :
    Same (front ++ (u ++ (w ++ (v ++ back)))) (front ++ (run ++ back)) := by
  have hparted := (Token.parted_run htextU htextV hstrip (Token.scan (.content []) back).items).append tokens
  intro φ ε α lift walk
  have hat : (Cursor.ofBytes (front ++ (run ++ back))).PartedAt
      (Cursor.ofBytes (front ++ (u ++ (w ++ (v ++ back))))) := by
    obtain ⟨hfault, hrest⟩ := Event.ofTokens_parted (Token.scan (.content []) back).fault hparted Bindings.initial []
    simp only [Cursor.ofBytes, Event.ofBytes, Token.ofBytes_run hfront htokens hback hrun,
      Token.ofBytes_remark hfront htokens hback hu hw hv]
    exact ⟨rfl, hfault, rfl, hrest⟩
  have houtcome := Walk.run_parted lift walk .document _ _ hat
  exact ⟨houtcome.result, houtcome.trace⟩

end

end ScanDiscovery.Xml
