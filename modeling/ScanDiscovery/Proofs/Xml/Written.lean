import ScanDiscovery.Proofs.Text.Encoded
import ScanDiscovery.Proofs.Xml.Sections
import ScanDiscovery.Xml.Markup
/-!
# Proofs.Xml.Written — a document that is written is read as the tree it was written from

What is escaped holds none of the bytes that end a text, a value or a tag, so the tags that are read are those that were
written: each with its name and its attributes (`reach_openTag`, `reach_closeTag`), and between them the texts, less the
blanks around them (`value_written`).  A tree of elements, some of which hold one text, is read as itself
(`ofBytes_document`).  Specification only.
-/
namespace ScanDiscovery.Xml

open Reference (Replaced escape escapeChar)
open Utf8 (encode)
open Vocabulary (bytesOf)

/-! ## Texts -/

theorem replaced_escapeChar (c : Char) : Replaced (escapeChar c) [c] := by
  unfold escapeChar
  split
  case h_6 hamp _ _ => exact .plain hamp .nil
  all_goals exact Reference.replace_eq_ok_iff.1 rfl

/-- **An escaped text stands for the text.** -/
theorem replaced_escape (text : List Char) : Replaced (escape text) text := Replaced.flatMap replaced_escapeChar text

/-- None of these characters stands for itself in an escaped text. -/
theorem not_mem_escape {c : Char} (hc : c = '<' ∨ c = '>' ∨ c = '"') (text : List Char) : c ∉ escape text := by
  intro h
  obtain ⟨d, -, hd⟩ := List.mem_flatMap.1 h
  unfold escapeChar at hd
  split at hd
  case h_6 hlt hgt _ _ hquote =>
    obtain rfl := List.mem_singleton.1 hd
    exact hc.elim hlt (Or.rec hgt hquote)
  all_goals rcases hc with rfl | rfl | rfl <;> exact absurd hd (by decide)

/-- The bytes of an escaped text hold none of markup, and no quote. -/
theorem not_mem_encode_escape {b : UInt8} (hb : b = 0x3C ∨ b = 0x3E ∨ b = 0x22) (text : List Char) :
    b ∉ encode (escape text) := by
  intro h
  have hascii : b < 0x80 := by rcases hb with rfl | rfl | rfl <;> decide
  refine not_mem_escape ?_ text (Utf8.mem_of_encode h hascii)
  rcases hb with rfl | rfl | rfl
  · exact .inl rfl
  · exact .inr (.inl rfl)
  · exact .inr (.inr rfl)

/-- **What a text stands for is read of its bytes**, less the blanks around it. -/
theorem value_encode {text chars : List Char} (h : Replaced text chars) :
    (Cursor.textOf (strip (encode text))).map Blank.trim = .ok (Blank.trim chars) := by
  obtain ⟨before, inside, behind, hinside, rfl, hbefore, hbehind⟩ := textOf_strip (Utf8.decode_encode text) h
  rw [hinside, Blank.trim_append hbefore hbehind]
  rfl

/-- What stands in an element that is written with a text. -/
def Content.written (text : List Char) : Content := .ofRun (encode (escape text))

/-- **A written text is read as the text**, less the blanks around it. -/
theorem value_written (text : List Char) : (Content.written text).value = .ok (Blank.trim text) := by
  rw [Content.written, Content.value_ofRun, value_encode (replaced_escape text)]

/-! ## Tags -/

/-- It may stand in a name: no blank, no quote, no sign of equality, and nothing that markup begins or ends with. -/
def isNameByte (b : UInt8) : Bool := !isBlankByte b && !([0x21, 0x22, 0x27, 0x2F, 0x3C, 0x3D, 0x3E, 0x3F].contains b)

theorem ne_of_isNameByte {b x : UInt8} (h : isNameByte b = true) (hx : isNameByte x = false) : b ≠ x := by
  rintro rfl
  rw [h] at hx
  cases hx

theorem not_blank_of_isNameByte {b : UInt8} (h : isNameByte b = true) : (!isBlankByte b) = true := by
  rw [isNameByte, Bool.and_eq_true] at h
  exact h.1

/-- A name that is read as it is written. -/
structure Plain (name : String) : Prop where
  ne_nil : bytesOf name ≠ []
  bytes : ∀ b ∈ bytesOf name, isNameByte b = true

def isPlain (name : String) : Bool := !(bytesOf name).isEmpty && (bytesOf name).all isNameByte

theorem Plain.of_isPlain {name : String} (h : isPlain name = true) : Plain name := by
  rw [isPlain, Bool.and_eq_true, Bool.not_eq_true', List.isEmpty_eq_false_iff] at h
  exact ⟨h.1, List.all_eq_true.1 h.2⟩

theorem Plain.not_blank {name : String} (h : Plain name) : ∀ b ∈ bytesOf name, (!isBlankByte b) = true :=
  fun b hb => not_blank_of_isNameByte (h.bytes b hb)

theorem Plain.not_mem {name : String} (h : Plain name) {x : UInt8} (hx : isNameByte x = false) : x ∉ bytesOf name :=
  fun hmem => ne_of_isNameByte (h.bytes x hmem) hx rfl

/-- The bytes of an attribute, and of what stands between the angle brackets of an opening tag. -/
def attributeBytes (key value : String) : Bytes :=
  0x20 :: (bytesOf key ++ 0x3D :: 0x22 :: (encode (escape value.toList) ++ [0x22]))

def tagBytes (name : String) (attributes : List (String × String)) : Bytes :=
  bytesOf name ++ attributes.flatMap fun a => attributeBytes a.1 a.2

theorem encode_cons (c : Char) (text : List Char) : encode (c :: text) = String.utf8EncodeChar c ++ encode text := rfl

theorem encode_attributeText (key value : String) : encode (Markup.attributeText key value) = attributeBytes key value := by
  simp only [Markup.attributeText, Utf8.encode_append, List.cons_append, encode_cons, List.append_assoc]
  rfl

theorem encode_openTag (name : String) (attributes : List (String × String)) :
    encode (Markup.openTag name attributes) = 0x3C :: (tagBytes name attributes ++ [0x3E]) := by
  have hattributes : encode (attributes.flatMap fun a => Markup.attributeText a.1 a.2) =
      attributes.flatMap fun a => attributeBytes a.1 a.2 := by
    rw [encode, List.flatMap_assoc]
    exact congrArg attributes.flatMap (funext fun a => encode_attributeText a.1 a.2)
  show encode (('<' :: name.toList) ++ (attributes.flatMap fun a => Markup.attributeText a.1 a.2) ++ ['>']) = _
  rw [Utf8.encode_append, Utf8.encode_append, hattributes]
  rfl

theorem encode_closeTag (name : String) : encode (Markup.closeTag name) = 0x3C :: 0x2F :: (bytesOf name ++ [0x3E]) := by
  rw [Markup.closeTag, Utf8.encode_append]
  rfl

namespace Token

/-- **A tag goes on until a `>`**; the quotes in it open and close. -/
theorem reach_tag (mode : Option UInt8 → Bytes → Mode)
    (hstep : ∀ quote read b, b ≠ 0x3E → step (mode quote read) b = .more (mode (quoteAfter quote b) (b :: read))) :
    ∀ (v : Bytes) (quote : Option UInt8) (read : Bytes), 0x3E ∉ v → ∀ w,
      reach (mode quote read) (v ++ w) = reach (mode (v.foldl quoteAfter quote) (v.reverse ++ read)) w
  | [], _, _, _, _ => rfl
  | b :: v, quote, read, h, w => by
    obtain ⟨hb, hv⟩ := List.ne_and_not_mem_of_not_mem_cons h
    rw [List.cons_append, reach, hstep quote read b (Ne.symm hb), List.foldl_cons, List.reverse_cons, List.append_assoc]
    exact reach_tag mode hstep v (quoteAfter quote b) (b :: read) hv w

theorem step_opening (quote : Option UInt8) (read : Bytes) (b : UInt8) (h : b ≠ 0x3E) :
    step (.opening quote read) b = .more (.opening (quoteAfter quote b) (b :: read)) := by
  rw [step, if_neg (by simp [h])]

theorem step_closing (quote : Option UInt8) (read : Bytes) (b : UInt8) (h : b ≠ 0x3E) :
    step (.closing quote read) b = .more (.closing (quoteAfter quote b) (b :: read)) := by
  rw [step, if_neg (by simp [h])]

theorem step_opening_end (read : Bytes) : step (.opening none read) 0x3E = .done (ofOpening read) := rfl

theorem step_closing_end (read : Bytes) : step (.closing none read) 0x3E = .done (ofClosing read) := rfl

/-- Between quotes nothing else opens or closes one. -/
theorem quoteAfter_inside {q : UInt8} : ∀ {v : Bytes}, q ∉ v → v.foldl quoteAfter (some q) = some q
  | [], _ => rfl
  | b :: v, h => by
    obtain ⟨hb, hv⟩ := List.ne_and_not_mem_of_not_mem_cons h
    rw [List.foldl_cons, quoteAfter, if_neg (Ne.symm hb), quoteAfter_inside hv]

theorem quoteAfter_name : ∀ {v : Bytes}, (∀ b ∈ v, isNameByte b = true) → v.foldl quoteAfter none = none
  | [], _ => rfl
  | b :: v, h => by
    obtain ⟨hb, hv⟩ := List.forall_mem_cons.1 h
    have hnone : quoteAfter none b = none := by
      rw [quoteAfter, if_neg]
      simp [ne_of_isNameByte hb (show isNameByte 0x22 = false by decide),
        ne_of_isNameByte hb (show isNameByte 0x27 = false by decide)]
    rw [List.foldl_cons, hnone, quoteAfter_name hv]

theorem quoteAfter_attribute {key : String} (h : Plain key) (value : String) :
    (attributeBytes key value).foldl quoteAfter none = none := by
  have hvalue : (encode (escape value.toList)).foldl quoteAfter (some 0x22) = some 0x22 :=
    quoteAfter_inside (not_mem_encode_escape (.inr (.inr rfl)) _)
  have hblank : quoteAfter none 0x20 = none := rfl
  have hequals : quoteAfter none 0x3D = none := rfl
  have hopens : quoteAfter none 0x22 = some 0x22 := rfl
  rw [attributeBytes, List.foldl_cons, hblank, List.foldl_append, quoteAfter_name h.bytes, List.foldl_cons, hequals,
    List.foldl_cons, hopens, List.foldl_append, hvalue]
  rfl

theorem ofOpening_reverse {v : Bytes} (h : v.getLast? ≠ some 0x2F) : ofOpening v.reverse = .opening v false := by
  unfold ofOpening
  split
  · rename_i read hread
    rw [← List.head?_reverse, hread] at h
    exact absurd rfl h
  · rw [List.reverse_reverse]

section

variable {name : String} {attributes : List (String × String)} (hname : Plain name)
include hname

theorem quoteAfter_tag (hkeys : ∀ a ∈ attributes, Plain a.1) : (tagBytes name attributes).foldl quoteAfter none = none := by
  rw [tagBytes, List.foldl_append, quoteAfter_name hname.bytes]
  induction attributes with
  | nil => rfl
  | cons a attributes ih =>
    obtain ⟨ha, hrest⟩ := List.forall_mem_cons.1 hkeys
    rw [List.flatMap_cons, List.foldl_append, quoteAfter_attribute ha, ih hrest]

theorem not_mem_tagBytes (hkeys : ∀ a ∈ attributes, Plain a.1) : 0x3E ∉ tagBytes name attributes := by
  have hgt : isNameByte 0x3E = false := by decide
  intro h
  rcases List.mem_append.1 h with h | h
  · exact hname.not_mem hgt h
  · obtain ⟨a, ha, h⟩ := List.mem_flatMap.1 h
    have hkey := (hkeys a ha).not_mem hgt
    have hvalue := not_mem_encode_escape (.inr (.inl rfl)) (b := 0x3E) a.2.toList
    simp [attributeBytes, hkey, hvalue] at h

/-- No slash stands before the end of the tag, so that its element is not an empty one. -/
theorem getLast?_tagBytes : (tagBytes name attributes).getLast? ≠ some 0x2F := by
  induction attributes using List.reverseRecOn with
  | nil =>
    rw [tagBytes, List.flatMap_nil, List.append_nil]
    exact fun h => hname.not_mem (by decide) (List.mem_of_getLast? h)
  | append_singleton attributes a _ =>
    have hend : tagBytes name (attributes ++ [a]) = tagBytes name attributes ++
        0x20 :: (bytesOf a.1 ++ 0x3D :: 0x22 :: encode (escape a.2.toList)) ++ [0x22] := by
      simp [tagBytes, attributeBytes]
    rw [hend, List.getLast?_concat]
    decide

/-- **An opening tag is read as it was written.** -/
theorem reach_openTag (hkeys : ∀ a ∈ attributes, Plain a.1) : reach (.content []) (encode (Markup.openTag name attributes)) =
    some ([.opening (tagBytes name attributes) false], .content []) := by
  obtain ⟨b, more, hcons⟩ := List.exists_cons_of_ne_nil hname.ne_nil
  have hfirst : isNameByte b = true := hname.bytes b (hcons ▸ List.mem_cons_self)
  obtain ⟨v, hv⟩ : ∃ v, tagBytes name attributes = b :: v := ⟨_, by rw [tagBytes, hcons]; rfl⟩
  -- behind the `<` a name is read as in the middle of a tag
  have hmarkup : step .markup b = step (.opening none []) b := by
    rw [step_opening none [] b (ne_of_isNameByte hfirst (by decide)), step,
      if_neg (ne_of_isNameByte hfirst (by decide)), if_neg (ne_of_isNameByte hfirst (by decide)),
      if_neg (ne_of_isNameByte hfirst (by decide)), if_neg (ne_of_isNameByte hfirst (by decide))]
  have hopening : reach .markup (tagBytes name attributes ++ [0x3E]) =
      reach (.opening none []) (tagBytes name attributes ++ [0x3E]) := by
    rw [hv, List.cons_append, reach, hmarkup]
    rfl
  have hread := reach_tag .opening step_opening (tagBytes name attributes) none [] (not_mem_tagBytes hname hkeys)
    [0x3E]
  rw [quoteAfter_tag hname hkeys, List.append_nil] at hread
  have hend : reach (.opening none (tagBytes name attributes).reverse) [0x3E] =
      some ([.opening (tagBytes name attributes) false], .content []) := by
    rw [reach, step_opening_end, ofOpening_reverse (getLast?_tagBytes hname)]
    rfl
  rw [encode_openTag, reach_lt, hopening, hread, hend]
  rfl

/-- **A closing tag is read as it was written.** -/
theorem reach_closeTag : reach (.content []) (encode (Markup.closeTag name)) =
    some ([.closing (bytesOf name)], .content []) := by
  have hread := reach_tag .closing step_closing (bytesOf name) none [] (hname.not_mem (by decide)) [0x3E]
  rw [quoteAfter_name hname.bytes, List.append_nil] at hread
  have hlast : ∀ b ∈ (bytesOf name).reverse.head?, isBlankByte b = false := by
    intro b hb
    rw [List.head?_reverse] at hb
    exact (Bool.not_eq_true' _).mp (hname.not_blank b (List.mem_of_getLast? hb))
  have hclosing : ofClosing (bytesOf name).reverse = .closing (bytesOf name) := by
    unfold ofClosing
    rw [dropWhile_eq_self hlast]
    split
    · rw [List.reverse_reverse]
    · rename_i hcons
      rw [← hcons, List.reverse_reverse]
  have hend : reach (.closing none (bytesOf name).reverse) [0x3E] = some ([.closing (bytesOf name)], .content []) := by
    rw [reach, step_closing_end, hclosing]
    rfl
  have hmarkup : ∀ v, reach .markup (0x2F :: v) = reach (.closing none []) v := fun v => rfl
  rw [encode_closeTag, reach_lt, hmarkup, hread, hend]
  rfl

end

end Token

/-! ## Attributes -/

/-- The attributes that are read where these are written. -/
def writtenAttributes (attributes : List (String × String)) : List Attribute :=
  attributes.map fun a => ⟨bytesOf a.1, encode (escape a.2.toList)⟩

/-- **An attribute is read as it was written**, and what follows it is left. -/
theorem first?_attributeBytes {key : String} (h : Plain key) (value : String) (rest : Bytes) :
    Attribute.first? (attributeBytes key value ++ rest) = some (⟨bytesOf key, encode (escape value.toList)⟩, rest) := by
  obtain ⟨b, more, hcons⟩ := List.exists_cons_of_ne_nil h.ne_nil
  have hbytes := h.bytes
  rw [hcons] at hbytes
  obtain ⟨hb, hmore⟩ := List.forall_mem_cons.1 hbytes
  have hkey : ∀ c ∈ more, (decide (c ≠ 0x3D) && !isBlankByte c) = true := by
    intro c hc
    rw [Bool.and_eq_true, decide_eq_true_eq]
    exact ⟨ne_of_isNameByte (hmore c hc) (by decide), not_blank_of_isNameByte (hmore c hc)⟩
  have hvalue : ∀ c ∈ encode (escape value.toList), decide (c ≠ 0x22) = true := by
    intro c hc
    rw [decide_eq_true_eq]
    rintro rfl
    exact not_mem_encode_escape (.inr (.inr rfl)) _ hc
  have hblanks : (attributeBytes key value ++ rest).dropWhile isBlankByte =
      b :: (more ++ 0x3D :: 0x22 :: (encode (escape value.toList) ++ 0x22 :: rest)) := by
    simp only [attributeBytes, hcons, List.cons_append, List.append_assoc, List.nil_append]
    rw [List.dropWhile_cons_of_pos rfl, List.dropWhile_cons_of_neg (by simpa using not_blank_of_isNameByte hb)]
  have hequals : ∀ v, (0x3D :: v).dropWhile isBlankByte = 0x3D :: v := fun v => List.dropWhile_cons_of_neg (by decide)
  have hquote : ∀ v, (0x22 :: v).dropWhile isBlankByte = 0x22 :: v := fun v => List.dropWhile_cons_of_neg (by decide)
  rw [Attribute.first?, hblanks]
  simp only [List.dropWhile_append_of_pos hkey, List.takeWhile_append_of_pos hkey]
  rw [List.dropWhile_cons_of_neg (by decide), List.takeWhile_cons_of_neg (by decide), List.append_nil, hequals]
  simp only [hquote]
  rw [if_pos (by decide)]
  simp only [List.dropWhile_append_of_pos hvalue, List.takeWhile_append_of_pos hvalue]
  rw [List.dropWhile_cons_of_neg (by decide), List.takeWhile_cons_of_neg (by decide), List.append_nil, hcons]

theorem readUpTo_attributes : ∀ {attributes : List (String × String)}, (∀ a ∈ attributes, Plain a.1) → ∀ fuel,
    attributes.length ≤ fuel →
      Attribute.readUpTo fuel (attributes.flatMap fun a => attributeBytes a.1 a.2) = writtenAttributes attributes
  | [], _, 0, _ => rfl
  | [], _, _ + 1, _ => rfl
  | a :: attributes, h, fuel + 1, hfuel => by
    obtain ⟨ha, hrest⟩ := List.forall_mem_cons.1 h
    rw [List.flatMap_cons, Attribute.readUpTo, first?_attributeBytes ha]
    exact congrArg (_ :: ·) (readUpTo_attributes hrest fuel (Nat.le_of_succ_le_succ hfuel))

theorem length_le_attributes : ∀ attributes : List (String × String),
    attributes.length ≤ (attributes.flatMap fun a => attributeBytes a.1 a.2).length
  | [] => Nat.le_refl 0
  | a :: attributes => by
    have hrest := length_le_attributes attributes
    rw [List.flatMap_cons, List.length_append, attributeBytes, List.length_cons, List.length_cons]
    omega

section

variable {name : String} {attributes : List (String × String)} (hname : Plain name)
include hname

/-- The name ends with a blank, or with the tag. -/
theorem nameOf_tagBytes : Event.nameOf (tagBytes name attributes) = ⟨bytesOf name⟩ := by
  rw [Event.nameOf, tagBytes, List.takeWhile_append_of_pos hname.not_blank]
  cases attributes with
  | nil => rw [List.flatMap_nil, List.takeWhile_nil, List.append_nil]
  | cons a attributes =>
    rw [List.flatMap_cons, attributeBytes, List.cons_append, List.takeWhile_cons_of_neg (by decide), List.append_nil]

theorem attributesOf_tagBytes (hkeys : ∀ a ∈ attributes, Plain a.1) :
    Event.attributesOf (tagBytes name attributes) = writtenAttributes attributes := by
  have hbehind : (attributes.flatMap fun a => attributeBytes a.1 a.2).dropWhile (!isBlankByte ·) =
      attributes.flatMap fun a => attributeBytes a.1 a.2 := by
    cases attributes with
    | nil => rfl
    | cons a attributes =>
      rw [List.flatMap_cons, attributeBytes, List.cons_append, List.dropWhile_cons_of_neg (by decide)]
  rw [Event.attributesOf, tagBytes, List.dropWhile_append_of_pos hname.not_blank, hbehind, Attribute.read,
    readUpTo_attributes hkeys _ (length_le_attributes attributes)]

end

/-! ## Documents -/

/-- A piece of a document is read, under these bindings, as a tree: no element in it has a text beside its elements. -/
inductive ReadAs : Bindings → List Markup → Content → Prop
  | nil {bs : Bindings} : ReadAs bs [] .nil
  | text {bs : Bindings} (text : List Char) : ReadAs bs [.text text] (.written text)
  | element {bs inside : Bindings} {name : String} {attributes : List (String × String)} {children rest : List Markup}
      {k more : Content} (hname : Plain name) (hkeys : ∀ a ∈ attributes, Plain a.1)
      (hbind : bs.extend (writtenAttributes attributes) = .ok inside) (hinside : ReadAs inside children k)
      (hrest : ReadAs bs rest more) :
      ReadAs bs (.element name attributes children :: rest)
        (.element ⟨bytesOf name⟩ (inside.uri? (Name.qualifier ⟨bytesOf name⟩)) k more)

/-- Tokens one after the other do what each of them does. -/
theorem Event.follow_append {ts' : List Token} {es' : List Event} {x : Bindings × List Event.Open}
    {middle : Bindings} {still : List Event.Open} (h' : Event.follow middle still ts' = some (es', x)) :
    ∀ (ts : List Token) {bs : Bindings} {opened : List Event.Open} {es : List Event},
      Event.follow bs opened ts = some (es, middle, still) → Event.follow bs opened (ts ++ ts') = some (es ++ es', x)
  | [], _, _, _, h => by
    cases h
    exact h'
  | t :: ts, _, _, _, h => by
    obtain ⟨first, rest, b, o, ha, hf, rfl⟩ := Event.follow_cons.1 h
    exact Event.follow_cons.2 ⟨first, rest ++ es', b, o, ha, Event.follow_append h' ts hf, List.append_assoc _ _ _⟩

/-- **Tokens of a tree**: what is written is read as it, up to the next tag. -/
theorem scan_written {bs : Bindings} {ms : List Markup} {k : Content} (h : ReadAs bs ms k) : ∀ back : Bytes,
    (∀ b ∈ back.head?, b = 0x3C) → ∃ ts,
      Token.scan (.content []) (encode (Markup.renderAll ms) ++ back) =
        ⟨ts ++ (Token.scan (.content []) back).items, (Token.scan (.content []) back).fault⟩ ∧
      ∀ opened, Event.follow bs opened ts = some (k.events, bs, opened) := by
  induction h with
  | nil => exact fun _ _ => ⟨[], rfl, fun _ => rfl⟩
  | text text =>
    intro back hback
    have hrender : Markup.renderAll [.text text] = escape text := List.append_nil _
    exact ⟨Token.ofRun (encode (escape text)),
      by rw [hrender, Token.scan_run (not_mem_encode_escape (.inl rfl) text) hback],
      fun opened => Event.follow_ofRun _ opened _⟩
  | @element bs inside name attributes children rest k more hname hkeys hbind _ _ ihInside ihRest =>
    intro back hback
    -- from behind: each part is read up to the tag that the next one begins with
    obtain ⟨behind, hbehind, hfollow⟩ := ihRest back hback
    have hclose : ∀ b ∈ (encode (Markup.closeTag name) ++ (encode (Markup.renderAll rest) ++ back)).head?, b = 0x3C := by
      rw [encode_closeTag]
      exact fun b hb => (Option.some.inj hb).symm
    obtain ⟨within, hwithin, hfollow'⟩ := ihInside _ hclose
    have hrender : encode (Markup.renderAll (.element name attributes children :: rest)) ++ back =
        encode (Markup.openTag name attributes) ++ (encode (Markup.renderAll children) ++
          (encode (Markup.closeTag name) ++ (encode (Markup.renderAll rest) ++ back))) := by
      simp only [Markup.renderAll, Markup.render, Utf8.encode_append, List.append_assoc]
    refine ⟨.opening (tagBytes name attributes) false :: (within ++ .closing (bytesOf name) :: behind), ?_, fun opened => ?_⟩
    · rw [hrender, Token.scan_append _ (Token.reach_openTag hname hkeys), hwithin,
        Token.scan_append _ (Token.reach_closeTag hname), hbehind]
      simp
    · have hattributes : bs.extend (Event.attributesOf (tagBytes name attributes)) = .ok inside := by
        rw [attributesOf_tagBytes hname hkeys, hbind]
      have hopens : Event.Advanced bs opened (.opening (tagBytes name attributes) false)
          [.begin (Event.nameOf (tagBytes name attributes)) inside] inside
          (⟨(Event.nameOf (tagBytes name attributes)).bytes, bs⟩ :: opened) := .opening hattributes
      have hcloses : Event.Advanced inside (⟨bytesOf name, bs⟩ :: opened) (.closing (bytesOf name)) [.finish] bs opened :=
        .closing ⟨bytesOf name, bs⟩
      have hend := Event.follow_cons.2 ⟨_, _, _, _, hcloses, hfollow opened, rfl⟩
      rw [nameOf_tagBytes hname] at hopens
      exact Event.follow_cons.2 ⟨_, _, _, _, hopens, Event.follow_append hend within (hfollow' _), rfl⟩

/-- **A document that is written is read as its tree**, and nothing is wrong with it. -/
theorem ofBytes_document {root : Markup} {k : Content} (h : ReadAs Bindings.initial [root] k) :
    Event.ofBytes (encode (Markup.document root)) = ⟨k.events, none⟩ := by
  obtain ⟨ts, hscan, hfollow⟩ := scan_written h [] (fun b hb => by cases hb)
  have hend : Token.scan (.content []) [] = ⟨[], none⟩ := rfl
  have hrender : encode (Markup.document root) = encode Markup.declaration ++ encode (Markup.renderAll [root]) := by
    rw [Markup.document, Utf8.encode_append, Markup.renderAll, Markup.renderAll, List.append_nil]
  have hmark : Token.dropMark (encode (Markup.document root)) = encode (Markup.document root) := by
    rw [hrender]
    rfl
  have hdeclaration : Token.reach (.content []) (encode Markup.declaration) = some ([.remark], .content []) := by
    decide +kernel
  rw [List.append_nil, hend, List.append_nil] at hscan
  rw [Event.ofBytes, Token.ofBytes, hmark, hrender, Token.scan_append _ hdeclaration, hscan]
  have hevents : Event.ofTokens none Bindings.initial [] (ts ++ []) = ⟨k.events ++ [], none⟩ :=
    Event.ofTokens_append ts (hfollow [])
  rw [List.append_nil, List.append_nil] at hevents
  simp only [List.singleton_append, Event.ofTokens, hevents]

end ScanDiscovery.Xml
