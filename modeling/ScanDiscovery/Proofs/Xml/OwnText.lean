import Mathlib.Data.List.Forall2
import ScanDiscovery.Proofs.Xml.Faults
import ScanDiscovery.Proofs.Xml.Resuming
import ScanDiscovery.Proofs.Xml.Stripped
/-!
# Proofs.Xml.OwnText — what the text of an element is made of

The pieces of a text are the texts and sections that stand directly in its element (`Content.pieces`); the elements that
stand between them add nothing but the faults of their names.  An element that is closed and has no faults has its pieces
for its text, in document order and without the blanks around them all; of any other, the first fault is told
(`text_of_element`).  Specification only.
-/
namespace ScanDiscovery.Xml

/-- What stands directly in an element, less its elements. -/
inductive Piece where
  | text (content : Bytes)
  | cdata (content : Bytes)

/-- What a piece adds to a text: references stand for their characters in a text, and for themselves in a section. -/
def Piece.chars : Piece → Except Error (List Char)
  | .text content => Cursor.textOf content
  | .cdata content => .ok (Utf8.decodeLossy content)

/-- The prefix and the local part are texts. -/
def Name.Readable (name : Name) : Prop :=
  (∃ cs, Utf8.decode name.localPart = .ok cs) ∧ ∀ q ∈ name.qualifier, ∃ cs, Utf8.decode q = .ok cs

theorem Cursor.nameText_eq_ok {bs : Bytes} {cs : List Char} : nameText bs = .ok cs ↔ Utf8.decode bs = .ok cs := by
  unfold nameText
  cases Utf8.decode bs <;> simp [Except.mapError]

theorem Name.fault?_eq_none_iff {name : Name} : name.fault? none = none ↔ name.Readable := by
  rw [Name.fault?, Xml.fault?_eq_none, Name.Readable]
  unfold Cursor.nameParts
  simp only [← Cursor.nameText_eq_ok]
  cases Cursor.nameText name.localPart with
  | error e => simp
  | ok localPart =>
    cases name.qualifier with
    | none => simp
    | some q => cases hq : Cursor.nameText q <;> simp [hq, Except.map]

namespace Content

def pieces : Content → List Piece
  | .nil => []
  | .text t rest => .text t :: rest.pieces
  | .cdata t rest => .cdata t :: rest.pieces
  | .element _ _ _ rest => rest.pieces

/-- The names of the elements inside, however deep, in document order. -/
def names : Content → List Name
  | .nil => []
  | .text _ rest => rest.names
  | .cdata _ rest => rest.names
  | .element name _ inside rest => name :: (inside.names ++ rest.names)

theorem nameFaults_eq_nil_iff : ∀ k : Content, k.nameFaults = [] ↔ ∀ name ∈ k.names, name.Readable
  | .nil => by simp [nameFaults, names]
  | .text _ rest => nameFaults_eq_nil_iff rest
  | .cdata _ rest => nameFaults_eq_nil_iff rest
  | .element name _ inside rest => by
    simp only [nameFaults, names, List.append_eq_nil_iff, Option.toList_eq_nil_iff, Name.fault?_eq_none_iff,
      nameFaults_eq_nil_iff inside, nameFaults_eq_nil_iff rest, List.forall_mem_cons, List.forall_mem_append]

theorem named_eq_ok_iff (k : Content) {u : Unit} : k.named = .ok u ↔ ∀ name ∈ k.names, name.Readable := by
  rw [← nameFaults_eq_nil_iff, ← List.head?_eq_none_iff, ← fault?_named, Xml.fault?_eq_none]
  exact ⟨fun h => ⟨u, h⟩, fun ⟨_, h⟩ => h⟩

theorem nameParts_eq_ok_iff (name : Name) : (∃ n, Cursor.nameParts none name = .ok n) ↔ name.Readable := by
  rw [← Name.fault?_eq_none_iff, Name.fault?, Xml.fault?_eq_none]

/-- **A text can be read** if its pieces can and all names inside are texts, and then it is that of the pieces. -/
theorem ownText_eq_ok_iff : ∀ (k : Content) (t : List Char), k.ownText = .ok t ↔ (∀ name ∈ k.names, name.Readable) ∧
    ∃ parts, List.Forall₂ (fun p cs => Piece.chars p = .ok cs) k.pieces parts ∧ t = parts.flatten
  | .nil, t => by
    simp only [ownText, names, pieces, List.forall₂_nil_left_iff, exists_eq_left, List.flatten_nil, Except.ok.injEq,
      List.not_mem_nil, false_implies, implies_true, true_and]
    exact eq_comm
  | .text content rest, t => by
    simp only [ownText, names, pieces, bind_eq_ok, map_eq_ok, ownText_eq_ok_iff rest, List.forall₂_cons_left_iff]
    constructor
    · rintro ⟨cs, hcs, _, ⟨hnames, parts, hparts, rfl⟩, rfl⟩
      exact ⟨hnames, _, ⟨cs, parts, hcs, hparts, rfl⟩, rfl⟩
    · rintro ⟨hnames, _, ⟨cs, parts, hcs, hparts, rfl⟩, rfl⟩
      exact ⟨cs, hcs, _, ⟨hnames, parts, hparts, rfl⟩, rfl⟩
  | .cdata content rest, t => by
    simp only [ownText, names, pieces, map_eq_ok, ownText_eq_ok_iff rest, List.forall₂_cons_left_iff]
    constructor
    · rintro ⟨_, ⟨hnames, parts, hparts, rfl⟩, rfl⟩
      exact ⟨hnames, _, ⟨_, parts, rfl, hparts, rfl⟩, rfl⟩
    · rintro ⟨hnames, _, ⟨_, parts, hcs, hparts, rfl⟩, rfl⟩
      cases hcs
      exact ⟨_, ⟨hnames, parts, hparts, rfl⟩, rfl⟩
  | .element name _ inside rest, t => by
    simp only [ownText, names, pieces, bind_eq_ok, ownText_eq_ok_iff rest, List.forall_mem_cons,
      List.forall_mem_append, named_eq_ok_iff, ← nameParts_eq_ok_iff name]
    constructor
    · rintro ⟨n, hn, _, hinside, hrest, hparts⟩
      exact ⟨⟨⟨n, hn⟩, hinside, hrest⟩, hparts⟩
    · rintro ⟨⟨⟨n, hn⟩, hinside, hrest⟩, hparts⟩
      exact ⟨n, hn, (), hinside, hrest, hparts⟩

end Content

/-- All that is wrong with the text of the element at the path `own`, in document order; `fault` ends the document. -/
def Subtree.textFaults (fault : Option Error) (own : Path) : Subtree → List Error
  | .closed k => k.textFaults
  | .cut t => t.textFaults fault (some own)

theorem Content.mem_events_of_pieces {content : Bytes} : ∀ k : Content, .text content ∈ k.pieces → .text content ∈ k.events
  | .nil, h => by cases h
  | .text t rest, h => by
    rcases List.mem_cons.1 h with ht | h
    · cases ht
      exact List.mem_cons_self
    · exact List.mem_cons_of_mem _ (mem_events_of_pieces rest h)
  | .cdata t rest, h => by
    rcases List.mem_cons.1 h with ht | h
    · cases ht
    · exact List.mem_cons_of_mem _ (mem_events_of_pieces rest h)
  | .element name uri inside rest, h =>
    List.mem_cons_of_mem _ (List.mem_append_right _ (List.mem_cons_of_mem _ (mem_events_of_pieces rest h)))

/-! ## The fault behind the events -/

namespace Cursor

theorem gather_fault {depth : Nat} : ∀ (es : List Event) (read : List Char) (c : Cursor),
    (gather depth read es c).2.fault = c.fault
  | [], _, _ => rfl
  | .text x :: es, read, c => by
    rw [gather]
    split
    · cases textOf x with
      | error e => rfl
      | ok cs => exact gather_fault es _ c
    · exact gather_fault es _ c
  | .cdata x :: es, read, c => by
    rw [gather]
    split <;> exact gather_fault es _ c
  | .start name uri :: es, read, c => by
    rw [gather, enter_eq]
    cases enteredPath c.path none name with
    | error e => rfl
    | ok p => exact gather_fault es _ (c.entered p)
  | .finish :: es, read, c => by
    rw [gather]
    split
    · rfl
    · exact gather_fault es _ c.leave

end Cursor

namespace Scope

theorem seek_fault (s : Scope) : ∀ (es : List Event) (c : Cursor), (s.seek es c).cursor.fault = c.fault
  | [], c => by
    rw [seek]
    cases c.fault <;> rfl
  | .start name uri :: es, c => by
    rw [seek, Cursor.enter_eq]
    cases Cursor.enteredPath c.path (uri.bind Vocabulary.prefixOf?) name <;> rfl
  | .finish :: es, c => by
    rw [seek]
    split
    · rfl
    · exact seek_fault s es c.leave
  | .text _ :: es, c => seek_fault s es c
  | .cdata _ :: es, c => seek_fault s es c

theorem skipFrom_fault (s : Scope) : ∀ (es : List Event) (c : Cursor), (s.skipFrom es c).cursor.fault = c.fault
  | [], c => by
    rw [skipFrom]
    cases c.fault <;> rfl
  | .start name uri :: es, c => by
    rw [skipFrom, Cursor.enter_eq]
    cases Cursor.enteredPath c.path (uri.bind Vocabulary.prefixOf?) name with
    | error e => rfl
    | ok p =>
      simp only [Except.map]
      split
      · exact skipFrom_fault s es (c.entered p)
      · rfl
  | .finish :: es, c => by
    rw [skipFrom]
    split
    · rfl
    · exact skipFrom_fault s es c.leave
  | .text _ :: es, c => skipFrom_fault s es c
  | .cdata _ :: es, c => skipFrom_fault s es c

theorem next_fault (s : Scope) (c : Cursor) : (s.next c).cursor.fault = c.fault := by
  rw [next]
  split
  · rfl
  · exact s.seek_fault c.rest c

theorem skip_fault (s : Scope) (c : Cursor) : (s.skip c).cursor.fault = c.fault := by
  rw [skip]
  split
  · rfl
  · exact s.skipFrom_fault c.rest c

end Scope

theorem Wandered.fault {document : Bytes} {c : Cursor} (h : Wandered document c) :
    c.fault = (Event.ofBytes document).fault := by
  induction h with
  | start => rfl
  | next h s ih => exact (s.next_fault _).trans ih
  | text h ih => exact (Cursor.gather_fault _ _ _).trans ih
  | skip h s ih => exact (s.skip_fault _).trans ih

/-! ## The text of an element -/

/-- Of an element that is not closed no text is read. -/
theorem readText_of_cut {t : Trunk} {c : Cursor} (hrest : c.rest = t.events) (hrooted : c.rooted = true) :
    (∀ e, c.readText.1 = .error e ↔ (t.textFaults c.fault (some c.path)).head? = some e) ∧
      ∀ text, c.readText.1 ≠ .ok text := by
  have hfault := Cursor.readText_broken hrest hrooted
  refine ⟨fun e => by rw [← Xml.fault?_eq_some, hfault], fun text hok => ?_⟩
  rw [hok] at hfault
  exact absurd (List.head?_eq_none_iff.1 hfault.symm) (t.textFaults_ne_nil _ _)

/-- Of one that is closed its pieces are read. -/
theorem readText_of_closed {k : Content} {c : Cursor} {es : List Event} (hrest : c.rest = k.events ++ .finish :: es)
    (hdepth : 0 < c.depth) (hrooted : c.rooted = true) :
    (∀ e, c.readText.1 = .error e ↔ k.textFaults.head? = some e) ∧
      ∀ t, c.readText.1 = .ok t ↔ (∀ name ∈ k.names, name.Readable) ∧
        ∃ parts, List.Forall₂ (fun p cs => Piece.chars p = .ok cs) k.pieces parts ∧ t = Blank.trim parts.flatten := by
  rw [Cursor.readText_eq_value k c es hrest hdepth hrooted]
  refine ⟨fun e => by rw [← Xml.fault?_eq_some, Content.fault?_value], fun t => ?_⟩
  simp only [Content.value, map_eq_ok, Content.ownText_eq_ok_iff]
  constructor
  · rintro ⟨_, ⟨hnames, parts, hparts, rfl⟩, rfl⟩
    exact ⟨hnames, parts, hparts, rfl⟩
  · rintro ⟨hnames, parts, hparts, rfl⟩
    exact ⟨_, ⟨hnames, parts, hparts, rfl⟩, rfl⟩

/-- **The text of the element that was just given** is that of its pieces, less the blanks around them all, if it is
closed, its pieces can be read and the names of all elements inside are texts.  Otherwise it is not read: what is first
wrong with it is told, and last of all, where it is not closed, that the document ends in it. -/
theorem text_of_element {document : Bytes} {c₀ c : Cursor} {s s' : Scope} {path : Path} (h : Wandered document c₀)
    (hn : s.next c₀ = ⟨.ok (some path), s', c⟩) :
    (∃ x : Subtree, x.StandsAt c) ∧ ∀ x : Subtree, x.StandsAt c →
      (∀ e, c.readText.1 = .error e ↔ (x.textFaults (Event.ofBytes document).fault path).head? = some e) ∧
      (∀ t, c.readText.1 = .ok t ↔ ∃ k, x = .closed k ∧ (∀ name ∈ k.names, name.Readable) ∧
        ∃ parts, List.Forall₂ (fun p cs => Piece.chars p = .ok cs) k.pieces parts ∧ t = Blank.trim parts.flatten) ∧
      ∀ k, x = .closed k → ∀ content, .text content ∈ k.pieces → Stripped content := by
  obtain ⟨name, uri, parents, hsuffix, hopened, hrooted, -⟩ := Scope.next_gave hn
  have hpath : c.path = path := by
    rw [Cursor.path, hopened]
    rfl
  have hend : c.fault = (Event.ofBytes document).fault := by
    rw [← h.fault, ← s.next_fault c₀, hn]
  have hdepth : 0 < c.depth := by
    rw [Cursor.depth, hopened]
    exact Nat.zero_lt_succ _
  refine ⟨Subtree.exists_standsAt c, fun x hx => ?_⟩
  cases x with
  | cut t =>
    obtain ⟨herror, hok⟩ := readText_of_cut hx hrooted
    rw [hpath, hend] at herror
    refine ⟨herror, fun text => iff_of_false (hok text) ?_, fun k hk => by cases hk⟩
    rintro ⟨k, hk, -⟩
    cases hk
  | closed k =>
    obtain ⟨es, hes⟩ := hx
    obtain ⟨herror, hok⟩ := readText_of_closed hes hdepth hrooted
    refine ⟨herror, fun text => (hok text).trans ⟨fun hread => ⟨k, rfl, hread⟩, ?_⟩, ?_⟩
    · rintro ⟨k', hk, hread⟩
      cases hk
      exact hread
    · intro k' hk content hmem
      cases hk
      have hevent : .text content ∈ c.rest := by
        rw [hes]
        exact List.mem_append_left _ (k.mem_events_of_pieces hmem)
      exact stripped_of_mem (((List.suffix_cons _ _).trans (hsuffix.trans h.suffix)).subset hevent)

/-- `<a> x &amp; <b>in<c/></b><!-- y --> z <![CDATA[ <&amp; ]]> </a>` -/
def piecesSample : Bytes := Utf8.encode "<a> x &amp; <b>in<c/></b><!-- y --> z <![CDATA[ <&amp; ]]> </a>".toList

/-- The text of the root is made of two texts and a section, each as it stands between the tags. -/
theorem piecesSample_text : ∃ c₀ c s s', Wandered piecesSample c₀ ∧ Scope.next s c₀ = ⟨.ok (some ['a']), s', c⟩ ∧
    c.readText.1 = .ok "x &z <&amp;".toList := by
  let begins (name : Char) : Event := .start ⟨Utf8.encode [name]⟩ none
  let inB : Content := .text (Utf8.encode "in".toList) (.element ⟨Utf8.encode ['c']⟩ none .nil .nil)
  let inA : Content := .text (Utf8.encode "x &amp;".toList) (.element ⟨Utf8.encode ['b']⟩ none inB
    (.text (Utf8.encode ['z']) (.cdata (Utf8.encode " <&amp; ".toList) .nil)))
  have hbegin : Cursor.ofBytes piecesSample = ⟨begins 'a' :: (inA.events ++ [.finish]), none, [], false⟩ := by
    decide +kernel
  have hread : (∀ name ∈ inA.names, name.Readable) ∧ List.Forall₂ (fun p cs => Piece.chars p = .ok cs) inA.pieces
      ["x &".toList, ['z'], " <&amp; ".toList] := by
    have hnames : ∀ name ∈ inA.names, name.fault? none = none := by decide +kernel
    exact ⟨fun name hname => Name.fault?_eq_none_iff.1 (hnames name hname), .cons rfl (.cons rfl (.cons rfl .nil))⟩
  have hstart : Wandered piecesSample ⟨begins 'a' :: (inA.events ++ [.finish]), none, [], false⟩ := by
    rw [← hbegin]
    exact .start
  have hgave : Scope.next .document ⟨begins 'a' :: (inA.events ++ [.finish]), none, [], false⟩ =
      ⟨.ok (some ['a']), .document, ⟨inA.events ++ [.finish], none, [['a']], true⟩⟩ := rfl
  obtain ⟨-, htext⟩ := text_of_element hstart hgave
  obtain ⟨-, hok, -⟩ := htext (.closed inA) ⟨[], rfl⟩
  exact ⟨_, _, _, _, hstart, hgave, (hok _).2 ⟨inA, rfl, hread.1, _, hread.2, rfl⟩⟩

/-- `<A>text</A` -/
def brokenEndSample : Bytes := Utf8.encode "<A>text</A".toList

/-- The root is never closed and nothing is wrong in it, but what is told is the tag that breaks off, and not that the
document ends. -/
theorem brokenEndSample_no_unexpectedEnd : ∃ c₀ c s s', Wandered brokenEndSample c₀ ∧
    Scope.next s c₀ = ⟨.ok (some ['A']), s', c⟩ ∧
    (Subtree.cut (.ended (.text (Utf8.encode "text".toList) .nil))).StandsAt c ∧
    (Content.text (Utf8.encode "text".toList) .nil).textFaults = [] ∧
    c.readText.1 = .error (.markup .tag) ∧ ∀ p, c.readText.1 ≠ .error (.unexpectedEnd p) := by
  let content : Content := .text (Utf8.encode "text".toList) .nil
  let root : Event := .start ⟨Utf8.encode ['A']⟩ none
  have hbegin : Cursor.ofBytes brokenEndSample = ⟨root :: content.events, some (.markup .tag), [], false⟩ := by
    decide +kernel
  have hstart : Wandered brokenEndSample ⟨root :: content.events, some (.markup .tag), [], false⟩ := by
    rw [← hbegin]
    exact .start
  refine ⟨_, ⟨content.events, some (.markup .tag), [['A']], true⟩, .document, .document, hstart, rfl, rfl, rfl, rfl,
    fun p h => ?_⟩
  cases h

end ScanDiscovery.Xml
