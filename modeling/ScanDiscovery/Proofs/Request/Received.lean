import ScanDiscovery.Proofs.Xml.Chain
import ScanDiscovery.Proofs.Xml.Survey
import ScanDiscovery.Proofs.Xml.Written
import ScanDiscovery.Request.Envelope
/-!
# Proofs.Request.Received — a message that is sent is received as what it says

The writer of messages has its own table of namespaces, and every name that it writes stands in the reader's vocabulary
(`spoken`).  So a message is read as its elements, each at the path of its name, with the texts that it was made of, less
the blanks around them, and nothing else is read (`message_received`).  Specification only.
-/
namespace ScanDiscovery.Request

open Xml (Bindings Content Cursor Markup Name Path Plain ReadAs Sighting Walk writtenAttributes)
open Xml.Vocabulary (bytesOf soap12 addressing scan)

/-! ## Identifiers -/

theorem not_blank_hex : ∀ (count n : Nat), ∀ c ∈ MessageId.hex count n, Blank.isBlank c = false
  | 0, _, c, h => by cases h
  | count + 1, n, c, h => by
    have hdigit : ∀ d < 16, Blank.isBlank (Nat.digitChar d) = false := by decide
    rcases List.mem_append.1 h with h | h
    · exact not_blank_hex count (n / 16) c h
    · rw [List.mem_singleton.1 h]
      exact hdigit _ (Nat.mod_lt _ (by decide))

theorem mem_of_intercalate {c : Char} {sep : List Char} : ∀ {xs : List (List Char)}, c ∈ sep.intercalate xs →
    c ∈ sep ∨ ∃ x ∈ xs, c ∈ x
  | [], h => by cases h
  | [x], h => .inr ⟨x, List.mem_cons_self, by simpa using h⟩
  | x :: y :: xs, h => by
    rw [List.intercalate_cons_cons, List.mem_append, List.mem_append] at h
    rcases h with (h | h) | h
    · exact .inr ⟨x, List.mem_cons_self, h⟩
    · exact .inl h
    · exact (mem_of_intercalate h).imp_right fun hx => hx.imp fun z hz => ⟨List.mem_cons_of_mem _ hz.1, hz.2⟩

/-- There are no blanks in an identifier. -/
theorem trim_text (i : MessageId) : Blank.trim i.text = i.text := by
  refine Blank.trim_eq_self fun c hc => ?_
  have hscheme : MessageId.scheme.any Blank.isBlank = false := by decide
  rcases List.mem_append.1 hc with hc | hc
  · exact Bool.eq_false_iff.2 (List.any_eq_false.1 hscheme c hc)
  · rcases mem_of_intercalate hc with hc | ⟨g, hg, hc⟩
    · rw [List.mem_singleton.1 hc]
      decide
    · simp only [MessageId.groups, List.mem_cons, List.not_mem_nil, or_false] at hg
      rcases hg with rfl | rfl | rfl | rfl | rfl <;> exact not_blank_hex _ _ c hc

/-! ## Names -/

/-- The namespaces that are declared in an envelope. -/
def bindings : Bindings := (namespaces.reverse.map fun ns => (some (bytesOf ns.1), bytesOf ns.2)) ++ Bindings.initial

theorem extend_namespaces :
    Bindings.initial.extend (writtenAttributes (namespaces.map fun (name, uri) => ("xmlns:" ++ name, uri))) =
      .ok bindings := by
  decide +kernel

/-- A name that a message may have: it is bound to a namespace, and paths have it as it is. -/
structure Spoken (name uri : String) : Prop where
  plain : Plain name
  bound : bindings.uri? (Name.qualifier ⟨bytesOf name⟩) = some (bytesOf uri)
  path : ∀ parent : Path, Content.pathBelow parent ⟨bytesOf name⟩ (some (bytesOf uri)) = .ok (parent.extend name.toList)

/-- The names of messages, each with its namespace. -/
def names : List (String × String) :=
  [("s:Envelope", soap12), ("s:Header", soap12), ("s:Body", soap12), ("a:MessageID", addressing), ("a:To", addressing),
    ("a:ReplyTo", addressing), ("a:Address", addressing), ("a:Action", addressing),
    ("scan:GetScannerElementsRequest", scan), ("scan:RequestedElements", scan), ("scan:Name", scan)]

theorem names_known : (names.all fun x => Xml.isPlain x.1 &&
    decide (bindings.uri? (Name.qualifier ⟨bytesOf x.1⟩) = some (bytesOf x.2)) &&
    decide (((Cursor.nameParts ((some (bytesOf x.2)).bind Xml.Vocabulary.prefixOf?) ⟨bytesOf x.1⟩).toOption.map
      fun n => Path.qualified n.1 n.2) = some x.1.toList)) = true := by
  decide +kernel

/-- **Every name of a message is spoken**: the two tables of namespaces agree on it. -/
theorem spoken {name uri : String} (h : (name, uri) ∈ names) : Spoken name uri := by
  have hall := List.all_eq_true.1 names_known _ h
  rw [Bool.and_eq_true, Bool.and_eq_true, decide_eq_true_eq, decide_eq_true_eq] at hall
  obtain ⟨⟨hplain, hbound⟩, hparts⟩ := hall
  refine ⟨.of_isPlain hplain, hbound, fun parent => ?_⟩
  obtain ⟨n, hn, hname⟩ := Option.map_eq_some_iff.1 hparts
  rw [Content.pathBelow, Cursor.enteredPath_eq, Xml.toOption_eq_some.1 hn]
  exact congrArg Except.ok (by rw [← hname]; rfl)

/-! ## Elements -/

/-- An element of a message, as it is read -/
def node (name uri : String) (inside rest : Content) : Content := .element ⟨bytesOf name⟩ (some (bytesOf uri)) inside rest

section

variable {name uri : String} {parent : Path} {inside rest : Content} {children more : List Markup}

theorem readAs_node (h : Spoken name uri) (hinside : ReadAs bindings children inside) (hrest : ReadAs bindings more rest) :
    ReadAs bindings (.element name [] children :: more) (node name uri inside rest) := by
  have hnone : ∀ a ∈ ([] : List (String × String)), Plain a.1 := fun a ha => absurd ha List.not_mem_nil
  have helement := ReadAs.element h.plain hnone rfl hinside hrest
  rw [h.bound] at helement
  exact helement

variable {chosen : Path → Bool} {below xs : List Sighting}

/-- An element that holds elements -/
theorem seen_node (h : Spoken name uri) (hc : chosen (parent.extend name.toList) = false)
    (hinside : inside.seen chosen (parent.extend name.toList) = .ok below) (hrest : rest.seen chosen parent = .ok xs) :
    (node name uri inside rest).seen chosen parent = .ok ((parent.extend name.toList, none) :: (below ++ xs)) := by
  rw [node, Content.seen, h.path, hrest]
  simp only [Except.bind, hc, Bool.false_eq_true, if_false, hinside, Except.map, List.cons_append]

/-- An element that holds a text -/
theorem seen_leaf (h : Spoken name uri) (text : List Char) (hrest : rest.seen chosen parent = .ok xs) :
    (node name uri (.written text) rest).seen chosen parent = .ok ((parent.extend name.toList,
      if chosen (parent.extend name.toList) then some (Blank.trim text) else none) :: xs) := by
  have hnothing : ∀ p, (Content.written text).seen chosen p = .ok [] := fun p => by
    unfold Content.written Content.ofRun
    split <;> rfl
  rw [node, Content.seen, h.path, hrest]
  by_cases hc : chosen (parent.extend name.toList) = true
  · simp only [Except.bind, if_pos hc, Xml.value_written, Except.map, List.singleton_append]
  · simp only [Except.bind, if_neg hc, hnothing, Except.map, List.singleton_append]

end

/-! ## Messages -/

/-- A sighting without its text, unless that is chosen to be read. -/
def asChosen (chosen : Path → Bool) (x : Sighting) : Sighting := (x.1, if chosen x.1 then x.2 else none)

/-- The path that is spelt by some names, one below the other. -/
def pathTo (segments : List String) : Path := segments.foldl (fun p name => p.extend name.toList) []

example : pathTo ["s:Envelope", "s:Header"] = "s:Envelope/s:Header".toList := by decide

namespace Message

/-- The elements that are asked for, as they are read -/
def nameContents (elements : List String) : Content :=
  elements.foldr (fun e => node "scan:Name" scan (.written e.toList)) .nil

/-- The parts of a message, and the whole, as they are read -/
def headerContent (m : Message) (rest : Content) : Content :=
  node "s:Header" soap12
    (node "a:MessageID" addressing (.written m.id.text)
      (node "a:To" addressing (.written m.destination.toList)
        (node "a:ReplyTo" addressing (node "a:Address" addressing (.written m.replyTo.toList) .nil)
          (node "a:Action" addressing (.written m.action.toList) .nil)))) rest

def bodyContent (m : Message) : Content :=
  node "s:Body" soap12
    (node "scan:GetScannerElementsRequest" scan
      (node "scan:RequestedElements" scan (nameContents m.elements) .nil) .nil) .nil

def content (m : Message) : Content := node "s:Envelope" soap12 (m.headerContent m.bodyContent) .nil

/-- What a message shows, in the order in which it is read: the path of each element, and the text of those that hold
one. -/
def shown (m : Message) : List Sighting :=
  [(pathTo ["s:Envelope"], none),
    (pathTo ["s:Envelope", "s:Header"], none),
    (pathTo ["s:Envelope", "s:Header", "a:MessageID"], some m.id.text),
    (pathTo ["s:Envelope", "s:Header", "a:To"], some (Blank.trim m.destination.toList)),
    (pathTo ["s:Envelope", "s:Header", "a:ReplyTo"], none),
    (pathTo ["s:Envelope", "s:Header", "a:ReplyTo", "a:Address"], some (Blank.trim m.replyTo.toList)),
    (pathTo ["s:Envelope", "s:Header", "a:Action"], some (Blank.trim m.action.toList)),
    (pathTo ["s:Envelope", "s:Body"], none),
    (pathTo ["s:Envelope", "s:Body", "scan:GetScannerElementsRequest"], none),
    (pathTo ["s:Envelope", "s:Body", "scan:GetScannerElementsRequest", "scan:RequestedElements"], none)] ++
  m.elements.map fun e =>
    (pathTo ["s:Envelope", "s:Body", "scan:GetScannerElementsRequest", "scan:RequestedElements", "scan:Name"],
      some (Blank.trim e.toList))

theorem readAs_names : ∀ elements : List String,
    ReadAs bindings (elements.map (Markup.leaf "scan:Name")) (nameContents elements)
  | [] => .nil
  | e :: elements => readAs_node (spoken (by decide)) (.text e.toList) (readAs_names elements)

theorem readAs_header (m : Message) {more : List Markup} {rest : Content} (hrest : ReadAs bindings more rest) :
    ReadAs bindings (m.header :: more) (m.headerContent rest) :=
  readAs_node (spoken (by decide))
    (readAs_node (spoken (by decide)) (.text m.id.text)
      (readAs_node (spoken (by decide)) (.text m.destination.toList)
        (readAs_node (spoken (by decide)) (readAs_node (spoken (by decide)) (.text m.replyTo.toList) .nil)
          (readAs_node (spoken (by decide)) (.text m.action.toList) .nil)))) hrest

theorem readAs_body (m : Message) : ReadAs bindings [m.body] m.bodyContent :=
  readAs_node (spoken (by decide))
    (readAs_node (spoken (by decide)) (readAs_node (spoken (by decide)) (readAs_names m.elements) .nil) .nil) .nil

/-- **A message is read as its elements.** -/
theorem readAs_envelope (m : Message) : ReadAs Bindings.initial [m.envelope] m.content := by
  have henvelope : Spoken "s:Envelope" soap12 := spoken (by decide)
  have hall : (namespaces.all fun ns => Xml.isPlain ("xmlns:" ++ ns.1)) = true := by decide +kernel
  have hkeys : ∀ a ∈ namespaces.map fun (name, uri) => ("xmlns:" ++ name, uri), Plain a.1 := by
    intro a ha
    obtain ⟨ns, hns, rfl⟩ := List.mem_map.1 ha
    exact .of_isPlain (List.all_eq_true.1 hall ns hns)
  have helement := ReadAs.element henvelope.plain hkeys extend_namespaces (m.readAs_header m.readAs_body) .nil
  rw [henvelope.bound] at helement
  exact helement

/-! ## What is seen -/

section

variable {chosen : Path → Bool}

theorem seen_names (parent : Path) : ∀ elements : List String, (nameContents elements).seen chosen parent =
    .ok ((elements.map fun e => (parent.extend "scan:Name".toList, some (Blank.trim e.toList))).map (asChosen chosen))
  | [] => rfl
  | e :: elements => seen_leaf (spoken (by decide)) e.toList (seen_names parent elements)

/-- **What is seen of a message**, where no text is read of an element that holds elements -/
theorem seen_content (m : Message) (h : ∀ p, (p, none) ∈ m.shown → chosen p = false) :
    m.content.seen chosen [] = .ok (m.shown.map (asChosen chosen)) := by
  have henvelope := h (pathTo ["s:Envelope"]) (by simp [shown])
  have hheader := h (pathTo ["s:Envelope", "s:Header"]) (by simp [shown])
  have hreply := h (pathTo ["s:Envelope", "s:Header", "a:ReplyTo"]) (by simp [shown])
  have hbody := h (pathTo ["s:Envelope", "s:Body"]) (by simp [shown])
  have hrequest := h (pathTo ["s:Envelope", "s:Body", "scan:GetScannerElementsRequest"]) (by simp [shown])
  have hlist := h (pathTo ["s:Envelope", "s:Body", "scan:GetScannerElementsRequest", "scan:RequestedElements"])
    (by simp [shown])
  have inBody : m.bodyContent.seen chosen (pathTo ["s:Envelope"]) = _ :=
    seen_node (spoken (by decide)) hbody
      (seen_node (spoken (by decide)) hrequest (seen_node (spoken (by decide)) hlist (seen_names _ m.elements) rfl) rfl) rfl
  have inReply : (node "a:Address" addressing (.written m.replyTo.toList) .nil).seen chosen
      (pathTo ["s:Envelope", "s:Header", "a:ReplyTo"]) = _ := seen_leaf (spoken (by decide)) m.replyTo.toList rfl
  have inHeader : (m.headerContent m.bodyContent).seen chosen (pathTo ["s:Envelope"]) = _ :=
    seen_node (spoken (by decide)) hheader
      (seen_leaf (spoken (by decide)) m.id.text
        (seen_leaf (spoken (by decide)) m.destination.toList
          (seen_node (spoken (by decide)) hreply inReply
            (seen_leaf (spoken (by decide)) m.action.toList rfl)))) inBody
  have hall : m.content.seen chosen [] = _ := seen_node (spoken (by decide)) henvelope inHeader rfl
  rw [hall, trim_text]
  simp only [shown, asChosen, pathTo, List.foldl_cons, List.foldl_nil, List.map_cons,
    List.cons_append, List.nil_append, List.append_nil, ite_self]
  rfl

end

theorem ofBytes_bytes (m : Message) : Xml.Event.ofBytes m.bytes = ⟨m.content.events, none⟩ :=
  Xml.ofBytes_document m.readAs_envelope

end Message

/-- **A message is received as what it says.**  Its elements are those that it shows, each at the path of its name; and a
walk over the bytes that are sent meets nothing wrong, is given each of them once, in that order, and reads, where it reads
a text, the identifier and the strings that the message was made of, less the blanks around them. -/
theorem message_received {φ ε : Type} (lift : Xml.Error → ε) (m : Message) {chosen : Path → Bool}
    (h : ∀ p, (p, none) ∈ m.shown → chosen p = false) :
    Xml.elementPaths m.bytes = m.shown.map (·.1) ∧
    (Walk.runDocument lift (Walk.survey (φ := φ) chosen) m.bytes).result = .ok (m.shown.map (asChosen chosen)) := by
  refine ⟨?_, Walk.survey_document lift m.ofBytes_bytes rfl (m.seen_content h)⟩
  have hseen : m.content.seen (fun _ => false) [] = _ := m.seen_content fun _ _ => rfl
  have hpaths := Content.paths_of_seen hseen
  rw [Xml.elementPaths_of_content (congrArg Xml.Stream.items m.ofBytes_bytes), ← hpaths, List.map_map]
  rfl

/-- A message of strings with markup, references and blanks in them -/
def sampleMessage : Message where
  id := .ofRandom 0 0
  destination := " http://scanner/?a=1&b=<2>\t"
  replyTo := "]]>&lt;\u3000"
  action := "\u00e9 \"'\n"
  elements := ["scan:<!-- A -->", " ", "&#x41;"]

/-- All its texts are read. -/
theorem sampleMessage_received : ∃ chosen : Path → Bool, (∀ p, (p, none) ∈ sampleMessage.shown → chosen p = false) ∧
    (Walk.runDocument id (Walk.survey (φ := Empty) chosen) sampleMessage.bytes).result = .ok sampleMessage.shown ∧
    sampleMessage.shown.filterMap (·.2) = ["urn:uuid:00000000-0000-4000-8000-000000000000".toList,
      "http://scanner/?a=1&b=<2>".toList, "]]>&lt;".toList, "\u00e9 \"'".toList, "scan:<!-- A -->".toList, [],
      "&#x41;".toList] := by
  let chosen (p : Path) : Bool := !((sampleMessage.shown.filter (·.2.isNone)).map (·.1)).contains p
  have hclosed : sampleMessage.shown.map (asChosen chosen) = sampleMessage.shown ∧ sampleMessage.shown.filterMap (·.2) =
      ["urn:uuid:00000000-0000-4000-8000-000000000000".toList, "http://scanner/?a=1&b=<2>".toList, "]]>&lt;".toList,
        "\u00e9 \"'".toList, "scan:<!-- A -->".toList, [], "&#x41;".toList] := by
    decide +kernel
  have hchosen : ∀ p, (p, none) ∈ sampleMessage.shown → chosen p = false := by
    intro p hp
    have hmem : p ∈ (sampleMessage.shown.filter (·.2.isNone)).map (·.1) :=
      List.mem_map.2 ⟨_, List.mem_filter.2 ⟨hp, rfl⟩, rfl⟩
    exact Bool.not_eq_eq_eq_not.2 (List.contains_iff_mem.2 hmem)
  have hread := (message_received id sampleMessage hchosen (φ := Empty)).2
  rw [hclosed.1] at hread
  exact ⟨chosen, hchosen, hread, hclosed.2⟩

end ScanDiscovery.Request
