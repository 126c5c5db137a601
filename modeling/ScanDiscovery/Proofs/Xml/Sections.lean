import ScanDiscovery.Proofs.Xml.Enclosed
import ScanDiscovery.Proofs.Xml.Resuming
import ScanDiscovery.Proofs.Xml.Trimmed
/-!
# Proofs.Xml.Sections — a text as a section, and with references

A text can be written as a section, or with references for the three characters of markup (`escaped`).  Where its bytes
can be decoded both are read as the same text; where they cannot, the section is read with replacements, and the other is
not read (`section_or_escaped`).  Specification only.
-/
namespace ScanDiscovery.Xml

open Utf8 (asciiChar decode Piece pieces piecesFrom)
open Reference (Replaced)

/-! ## Escaping -/

/-- The character is written with a reference where it would be markup. -/
def escapeMarkup (c : Char) : List Char := if c = '&' ∨ c = '<' ∨ c = '>' then Reference.escapeChar c else [c]

/-- The same of a byte. -/
def escapeByte (b : UInt8) : Bytes :=
  if b = 0x26 ∨ b = 0x3C ∨ b = 0x3E then Utf8.encode (Reference.escapeChar (asciiChar b)) else [b]

/-- The bytes with references for `&`, `<` and `>` -/
def escaped (bs : Bytes) : Bytes := bs.flatMap escapeByte

theorem replaced_escapeMarkup (c : Char) : Replaced (escapeMarkup c) [c] := by
  unfold escapeMarkup
  split
  · rename_i h
    rcases h with rfl | rfl | rfl <;> exact Reference.replace_eq_ok_iff.1 rfl
  · rename_i h
    exact .plain (fun hc => h (.inl hc)) .nil

/-- **Escaped text stands for the text.** -/
theorem replaced_escaped (text : List Char) : Replaced (text.flatMap escapeMarkup) text :=
  Replaced.flatMap replaced_escapeMarkup text

/-- A byte of markup, escaped -/
theorem escapeByte_markup {b : UInt8} (h : b = 0x26 ∨ b = 0x3C ∨ b = 0x3E) : b < 0x80 ∧
    (∀ x ∈ escapeByte b, x < 0x80 ∧ x ≠ 0x3C) ∧ escapeByte b ≠ [] ∧
      (escapeByte b).map asciiChar = escapeMarkup (asciiChar b) := by
  have hclosed : b < 0x80 ∧ (escapeByte b).all (fun x => decide (x < 0x80 ∧ x ≠ 0x3C)) = true ∧ escapeByte b ≠ [] ∧
      (escapeByte b).map asciiChar = escapeMarkup (asciiChar b) := by
    rcases h with rfl | rfl | rfl <;> decide
  exact ⟨hclosed.1, fun x hx => of_decide_eq_true (List.all_eq_true.1 hclosed.2.1 x hx), hclosed.2.2⟩

theorem escapeByte_plain {b : UInt8} (h : ¬ (b = 0x26 ∨ b = 0x3C ∨ b = 0x3E)) : escapeByte b = [b] := if_neg h

theorem not_mem_escaped (bs : Bytes) : 0x3C ∉ escaped bs := by
  intro h
  obtain ⟨b, -, hb⟩ := List.mem_flatMap.1 h
  by_cases hm : b = 0x26 ∨ b = 0x3C ∨ b = 0x3E
  · exact ((escapeByte_markup hm).2.1 _ hb).2 rfl
  · rw [escapeByte_plain hm, List.mem_singleton] at hb
    exact hm (.inr (.inl hb.symm))

/-- What is read of a piece once it is escaped -/
def escapePiece : Piece → List Piece
  | .char c => (escapeMarkup c).map .char
  | p => [p]

theorem escapeMarkup_of_fromByte {b : UInt8} (hb : ¬ (b = 0x26 ∨ b = 0x3C ∨ b = 0x3E)) {c : Char}
    (h : Utf8.FromByte b c) : escapeMarkup c = [c] := by
  refine if_neg fun hc => ?_
  rcases h with he | hge | rfl
  · rcases hc with rfl | rfl | rfl
    · exact hb (.inl (UInt8.toNat_inj.1 he.symm))
    · exact hb (.inr (.inl (UInt8.toNat_inj.1 he.symm)))
    · exact hb (.inr (.inr (UInt8.toNat_inj.1 he.symm)))
  · rcases hc with rfl | rfl | rfl <;> exact absurd hge (by decide)
  · exact absurd hc (by decide)

theorem flatMap_escapePiece_eq_self {ps : List Piece} (h : ∀ c, .char c ∈ ps → escapeMarkup c = [c]) :
    ps.flatMap escapePiece = ps := by
  induction ps with
  | nil => rfl
  | cons p ps ih =>
    have hone : escapePiece p = [p] := by
      cases p with
      | char c => rw [escapePiece, h c List.mem_cons_self]; rfl
      | broken size => rfl
      | cut size => rfl
    rw [List.flatMap_cons, hone, ih fun c hc => h c (List.mem_cons_of_mem _ hc)]
    rfl

/-- **Escaped bytes fall into the same pieces**, of which the characters of markup are escaped. -/
theorem piecesFrom_escaped : ∀ (bs : Bytes) {s : Utf8.State}, s.Wide →
    piecesFrom s (escaped bs) = (piecesFrom s bs).flatMap escapePiece
  | [], .between, _ => rfl
  | [], .inside _ _ _ _ _, _ => rfl
  | b :: bs, s, hs => by
    have hcons : escaped (b :: bs) = escapeByte b ++ escaped bs := List.flatMap_cons
    rw [hcons]
    by_cases hb : b = 0x26 ∨ b = 0x3C ∨ b = 0x3E
    · obtain ⟨hascii, hbytes, hne, hmap⟩ := escapeByte_markup hb
      have hbroken : s.brokenOff.flatMap escapePiece = s.brokenOff := by cases s <;> rfl
      have hrest : pieces (escaped bs) = (pieces bs).flatMap escapePiece := piecesFrom_escaped bs trivial
      rw [Utf8.piecesFrom_ascii_append hs (fun x hx => (hbytes x hx).1) hne, Utf8.piecesFrom_ascii hs hascii, hmap,
        List.flatMap_append, List.flatMap_cons, hbroken, hrest]
      rfl
    · obtain ⟨hwide, hchars⟩ := Utf8.step_wide hs b
      rw [escapeByte_plain hb, List.singleton_append, Utf8.piecesFrom_cons, Utf8.piecesFrom_cons, List.flatMap_append,
        piecesFrom_escaped bs hwide,
        flatMap_escapePiece_eq_self fun c hc => escapeMarkup_of_fromByte hb (hchars c hc)]

theorem decode_escaped {bs : Bytes} {cs : List Char} (h : decode bs = .ok cs) :
    decode (escaped bs) = .ok (cs.flatMap escapeMarkup) := by
  have hp : pieces (escaped bs) = (pieces bs).flatMap escapePiece := piecesFrom_escaped bs trivial
  rw [Utf8.decode_eq_ok_iff] at h ⊢
  rw [hp, h, List.flatMap_map, List.map_flatMap]
  rfl

theorem decode_escaped_error {bs : Bytes} {fault : Utf8.Fault} (h : decode bs = .error fault) :
    ∃ fault', decode (escaped bs) = .error fault' := by
  cases hd : decode (escaped bs) with
  | error fault' => exact ⟨fault', rfl⟩
  | ok ds =>
    have hp : pieces (escaped bs) = (pieces bs).flatMap escapePiece := piecesFrom_escaped bs trivial
    obtain ⟨p, hmem, hne⟩ := Utf8.exists_of_decode_error h
    have hkept : p ∈ pieces (escaped bs) := by
      rw [hp]
      refine List.mem_flatMap.2 ⟨p, hmem, ?_⟩
      cases p with
      | char c => exact absurd rfl (hne c)
      | broken size => exact List.mem_singleton.2 rfl
      | cut size => exact List.mem_singleton.2 rfl
    rw [Utf8.decode_eq_ok_iff.1 hd] at hkept
    obtain ⟨c, -, rfl⟩ := List.mem_map.1 hkept
    exact absurd rfl (hne c)

/-! ## Elements with one text -/

/-- An element of the document was just given, and the events up to its start tag are those. -/
def GivenBehind (document : Bytes) (before : List Event) (c : Cursor) : Prop :=
  ∃ c₀ s s' path, Wandered document c₀ ∧ Scope.next s c₀ = ⟨.ok (some path), s', c⟩ ∧
    (Event.ofBytes document).items = before ++ c.rest

/-- The content of an element with nothing in it but a text, or blanks. -/
def Content.ofRun (run : Bytes) : Content := if strip run = [] then .nil else .text (strip run) .nil

theorem Content.value_ofRun (run : Bytes) : (ofRun run).value = (Cursor.textOf (strip run)).map Blank.trim := by
  unfold ofRun
  split
  · rename_i h
    rw [h]
    rfl
  · rw [value, ownText]
    cases Cursor.textOf (strip run) <;> simp [Except.bind, Except.map, ownText]

/-- Bytes without a `<` are that content. -/
theorem Event.follow_ofRun (bs : Bindings) (opened : List Event.Open) (run : Bytes) :
    Event.follow bs opened (Token.ofRun run) = some ((Content.ofRun run).events, bs, opened) := by
  rw [Token.ofRun, Content.ofRun]
  split <;> rfl

section

variable {front back : Bytes} {tokens : List Token} {before : List Event} {bs : Bindings} {o : Event.Open}
  {opened : List Event.Open} (hfront : Token.reach (.content []) (Token.dropMark front) = some (tokens, .content []))
  (hbefore : Event.follow Bindings.initial [] tokens = some (before, bs, o :: opened))
include hfront hbefore

/-- The events of a document in which an element is open, and is closed behind some tokens. -/
theorem items_of_closing {rest : Bytes} {ts more : List Token} {fault : Option Error} {k : Content}
    (hscan : Token.scan (.content []) rest = ⟨ts ++ .closing o.name :: more, fault⟩)
    (hts : Event.follow bs (o :: opened) ts = some (k.events, bs, o :: opened)) :
    ∃ tail, (Event.ofBytes (front ++ rest)).items = before ++ (k.events ++ .finish :: tail) := by
  have htokens : tokens ≠ [] := by
    rintro rfl
    cases hbefore
  have hb : Token.before front = some tokens := by rw [Token.before, hfront]
  rw [Event.ofBytes, Token.ofBytes, Token.dropMark_append hb htokens, Token.scan_append _ hfront, hscan]
  simp only [Event.ofTokens_append tokens hbefore, Event.ofTokens_append ts hts, Event.ofTokens, if_true,
    Stream.items_cons]
  exact ⟨_, rfl⟩

/-- **The text of such an element** is that of its content. -/
theorem readText_of_closing {rest : Bytes} {ts more : List Token} {fault : Option Error} {k : Content}
    (hscan : Token.scan (.content []) rest = ⟨ts ++ .closing o.name :: more, fault⟩)
    (hts : Event.follow bs (o :: opened) ts = some (k.events, bs, o :: opened)) {c : Cursor}
    (hc : GivenBehind (front ++ rest) before c) : c.readText.1 = k.value := by
  obtain ⟨c₀, s, s', path, -, hn, hitems⟩ := hc
  obtain ⟨-, -, parents, -, hopened, hrooted, -⟩ := Scope.next_gave hn
  obtain ⟨tail, hclosing⟩ := items_of_closing hfront hbefore hscan hts
  have hrest : c.rest = k.events ++ .finish :: tail := List.append_cancel_left (hitems.symm.trans hclosing)
  have hdepth : 0 < c.depth := by
    rw [Cursor.depth, hopened]
    exact Nat.zero_lt_succ _
  exact Cursor.readText_eq_value k c tail hrest hdepth hrooted

variable (hback : (Token.scan (.content []) (0x3C :: back)).items.head? = some (.closing o.name))
include hback

theorem readText_section {content : Bytes} (h : ¬ sectionEnd <:+: content) {c : Cursor}
    (hc : GivenBehind (front ++ (sectionOf content ++ 0x3C :: back)) before c) :
    c.readText.1 = .ok (Blank.trim (Utf8.decodeLossy content)) := by
  obtain ⟨more, hmore⟩ := List.head?_eq_some_iff.1 hback
  have hscan : Token.scan (.content []) (sectionOf content ++ 0x3C :: back) =
      ⟨[.cdata content] ++ .closing o.name :: more, (Token.scan (.content []) (0x3C :: back)).fault⟩ := by
    rw [Token.scan_append _ (Token.reach_section h []), hmore]
    rfl
  have hvalue := readText_of_closing hfront hbefore (k := .cdata content .nil) hscan rfl hc
  rw [hvalue, Content.value, Content.ownText, Content.ownText, Except.map, List.append_nil]
  rfl

theorem readText_run {run : Bytes} (h : 0x3C ∉ run) {c : Cursor}
    (hc : GivenBehind (front ++ (run ++ 0x3C :: back)) before c) :
    c.readText.1 = (Cursor.textOf (strip run)).map Blank.trim := by
  obtain ⟨more, hmore⟩ := List.head?_eq_some_iff.1 hback
  have hends : ∀ b ∈ (0x3C :: back).head?, b = 0x3C := fun b hb => (Option.some.inj hb).symm
  have hscan : Token.scan (.content []) (run ++ 0x3C :: back) =
      ⟨Token.ofRun run ++ .closing o.name :: more, (Token.scan (.content []) (0x3C :: back)).fault⟩ := by
    rw [Token.scan_run h hends, hmore]
  rw [readText_of_closing hfront hbefore hscan (Event.follow_ofRun bs (o :: opened) run) hc, Content.value_ofRun]

/-- **A section and escaped text agree on what can be decoded**: both are read as its characters, less the blanks around
them.  Of what cannot be decoded a section is read with replacements, and escaped text is not read. -/
theorem section_or_escaped {content : Bytes} (h : ¬ sectionEnd <:+: content) {c c' : Cursor}
    (hc : GivenBehind (front ++ (sectionOf content ++ 0x3C :: back)) before c)
    (hc' : GivenBehind (front ++ (escaped content ++ 0x3C :: back)) before c') :
    (∀ cs, Utf8.decode content = .ok cs → c.readText.1 = .ok (Blank.trim cs) ∧ c'.readText.1 = .ok (Blank.trim cs)) ∧
    ∀ fault, Utf8.decode content = .error fault → c.readText.1 = .ok (Blank.trim (Utf8.decodeLossy content)) ∧
      ∃ fault', c'.readText.1 = .error (.encoding fault') := by
  have hsection := readText_section hfront hbefore hback h hc
  have hescaped := readText_run hfront hbefore hback (not_mem_escaped content) hc'
  refine ⟨fun cs hcs => ?_, fun fault hfault => ?_⟩
  · obtain ⟨x, inside, y, hinside, rfl, hx, hy⟩ := textOf_strip (decode_escaped hcs) (replaced_escaped cs)
    rw [hsection, hescaped, hinside, Utf8.decodeLossy_of_decode hcs, Blank.trim_append hx hy]
    exact ⟨rfl, rfl⟩
  · obtain ⟨fault', hfault'⟩ := decode_escaped_error hfault
    obtain ⟨fault'', htext⟩ := textOf_strip_error hfault'
    rw [hsection, hescaped, htext]
    exact ⟨rfl, fault'', rfl⟩

end

/-- The root is given first. -/
theorem givenBehind_root {document : Bytes} {name : Name} {uri : Option Bytes} {es : List Event} {fault : Option Error}
    {p : Path} (h : Event.ofBytes document = ⟨.start name uri :: es, fault⟩)
    (hp : Content.pathBelow [] name uri = .ok p) :
    GivenBehind document [.start name uri] ⟨es, fault, [p], true⟩ := by
  let start : Cursor := ⟨.start name uri :: es, fault, [], false⟩
  have hbegin : Cursor.ofBytes document = start := by rw [Cursor.ofBytes, h]
  have hpath : Content.pathBelow start.path name uri = .ok p := hp
  refine ⟨start, .document, .document, p, ?_, ?_, by rw [h]; rfl⟩
  · rw [← hbegin]
    exact .start
  · rw [Scope.next_start rfl rfl, hpath]
    rfl

/-- The document with a root `a` that has some bytes for its content -/
def rootWith (content : Bytes) : Bytes := Utf8.encode "<a>".toList ++ (content ++ 0x3C :: Utf8.encode "/a>".toList)

/-- Up to the start tag of the root nothing is read but that, and behind the content comes its end tag. -/
theorem rootWith_around :
    Token.reach (.content []) (Token.dropMark (Utf8.encode "<a>".toList)) = some ([.opening [0x61] false], .content []) ∧
    Event.follow Bindings.initial [] [.opening [0x61] false] =
      some ([.start ⟨[0x61]⟩ none], Bindings.initial, [⟨[0x61], Bindings.initial⟩]) ∧
    (Token.scan (.content []) (0x3C :: Utf8.encode "/a>".toList)).items.head? = some (.closing [0x61]) :=
  ⟨rfl, rfl, rfl⟩

/-- ` é & <b>]] ` -/
def spelledSample : Bytes := Utf8.encode " é & <b>]] ".toList

theorem spelledSample_read : ∃ c c', GivenBehind (rootWith (sectionOf spelledSample)) [.start ⟨[0x61]⟩ none] c ∧
    GivenBehind (rootWith (escaped spelledSample)) [.start ⟨[0x61]⟩ none] c' ∧
    c.readText.1 = .ok "é & <b>]]".toList ∧ c'.readText.1 = .ok "é & <b>]]".toList := by
  obtain ⟨hfront, hbefore, hback⟩ := rootWith_around
  have hevents : Event.ofBytes (rootWith (sectionOf spelledSample)) =
        ⟨[.start ⟨[0x61]⟩ none, .cdata spelledSample, .finish], none⟩ ∧
      Event.ofBytes (rootWith (escaped spelledSample)) =
        ⟨[.start ⟨[0x61]⟩ none, .text (strip (escaped spelledSample)), .finish], none⟩ ∧
      ¬ sectionEnd <:+: spelledSample ∧ pieces spelledSample = " é & <b>]] ".toList.map .char := by
    decide +kernel
  have hc := givenBehind_root hevents.1 (p := ['a']) rfl
  have hc' := givenBehind_root hevents.2.1 (p := ['a']) rfl
  have hdecode : Utf8.decode spelledSample = .ok " é & <b>]] ".toList := Utf8.decode_eq_ok_iff.2 hevents.2.2.2
  obtain ⟨hread, hread'⟩ := (section_or_escaped hfront hbefore hback hevents.2.2.1 hc hc').1 _ hdecode
  exact ⟨_, _, hc, hc', hread, hread'⟩

/-- The byte 0xFF is no text: as a section it is read as a replacement character, and otherwise it is not read. -/
theorem brokenByte_read : ∃ c c', GivenBehind (rootWith (sectionOf [0xFF])) [.start ⟨[0x61]⟩ none] c ∧
    GivenBehind (rootWith (escaped [0xFF])) [.start ⟨[0x61]⟩ none] c' ∧
    c.readText.1 = .ok ['\uFFFD'] ∧ c'.readText.1 = .error (.encoding (.invalid 1 0)) := by
  have hevents : Event.ofBytes (rootWith (sectionOf [0xFF])) = ⟨[.start ⟨[0x61]⟩ none, .cdata [0xFF], .finish], none⟩ ∧
      Event.ofBytes (rootWith (escaped [0xFF])) = ⟨[.start ⟨[0x61]⟩ none, .text [0xFF], .finish], none⟩ := by
    decide +kernel
  exact ⟨_, _, givenBehind_root hevents.1 (p := ['a']) rfl, givenBehind_root hevents.2 (p := ['a']) rfl, rfl, rfl⟩

end ScanDiscovery.Xml
