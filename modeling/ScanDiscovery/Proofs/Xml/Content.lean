import ScanDiscovery.Xml.Cursor
/-!
# Proofs.Xml.Content — the tree that the events of a document spell

A document's events never close more elements than they opened (`nested_ofBytes`), so they are the events of a trunk:
contents one inside the other, of which the innermost is the last thing read (`exists_trunk`).  Where every element is
closed again the trunk is one content (`exists_content_of_tally`), a tree of texts and elements.  On such a tree the
paths of elements and the text of an element are recursions over its constructors.  Specification only.
-/
namespace ScanDiscovery.Xml

/-- What stands in an element, or in a document: texts and elements, one after the other. -/
inductive Content where
  | nil
  | text (content : Bytes) (rest : Content)
  | cdata (content : Bytes) (rest : Content)
  | element (name : Name) (uri : Option Bytes) (inside rest : Content)
  deriving DecidableEq, Repr

namespace Cursor

/-- The prefix and the local part that paths have of a name. -/
def nameParts (known : Option String) (name : Name) : Except Error (Option (List Char) × List Char) :=
  match nameText name.localPart with
  | .error e => .error e
  | .ok localPart =>
    match known, name.qualifier with
    | some p, _ => .ok (some p.toList, localPart)
    | none, none => .ok (none, localPart)
    | none, some q => (nameText q).map fun q => (some q, localPart)

theorem enteredPath_eq (parent : Path) (known : Option String) (name : Name) :
    enteredPath parent known name = (nameParts known name).map fun n => parent.child n.1 n.2 := by
  unfold enteredPath nameParts
  cases nameText name.localPart with
  | error e => rfl
  | ok localPart =>
    cases known with
    | some p => rfl
    | none =>
      cases name.qualifier with
      | none => rfl
      | some q =>
        cases h : nameText q <;> simp only [h] <;> rfl

theorem enter_eq (c : Cursor) (known : Option String) (name : Name) :
    c.enter known name =
      (enteredPath c.path known name).map fun p => { c with opened := p :: c.opened, rooted := true } := by
  unfold enter
  cases enteredPath c.path known name <;> rfl

end Cursor

namespace Content

/-- The events that a content is read from. -/
def events : Content → List Event
  | .nil => []
  | .text t rest => .text t :: rest.events
  | .cdata t rest => .cdata t :: rest.events
  | .element name uri inside rest => .start name uri :: (inside.events ++ .finish :: rest.events)

/-- Whether there is an element in it. -/
def hasElement : Content → Bool
  | .nil => false
  | .text _ rest => rest.hasElement
  | .cdata _ rest => rest.hasElement
  | .element _ _ _ _ => true

/-- The path of an element below `parent`, under the prefix of the vocabulary where its namespace is known. -/
def pathBelow (parent : Path) (name : Name) (uri : Option Bytes) : Except Error Path :=
  Cursor.enteredPath parent (uri.bind Vocabulary.prefixOf?) name

/-- The elements at wanted paths, each with its path and what stands in it, in document order.  An element whose name
is no text has no path, and nothing below it has. -/
def elements (want : Path → Bool) : Path → Content → List (Path × Content)
  | _, .nil => []
  | parent, .text _ rest => elements want parent rest
  | parent, .cdata _ rest => elements want parent rest
  | parent, .element name uri inside rest =>
    (match pathBelow parent name uri with
      | .ok p => (if want p then [(p, inside)] else []) ++ elements want p inside
      | .error _ => []) ++ elements want parent rest

/-- What stands in the elements at a path, which is given relative to the element this is the content of. -/
def contentsAt (base : Path) (path : String) (k : Content) : List Content :=
  (k.elements (fun p => p = base ++ path.toList) base).map (·.2)

theorem hasElement_of_contentsAt {base : Path} {path : String} : ∀ {k : Content},
    k.contentsAt base path ≠ [] → k.hasElement = true
  | .nil, h => absurd rfl h
  | .text _ rest, h => hasElement_of_contentsAt (k := rest) h
  | .cdata _ rest, h => hasElement_of_contentsAt (k := rest) h
  | .element .., _ => rfl

/-- The names of all elements are texts, each under the prefix of the document. -/
def named : Content → Except Error Unit
  | .nil => .ok ()
  | .text _ rest => rest.named
  | .cdata _ rest => rest.named
  | .element name _ inside rest =>
    (Cursor.nameParts none name).bind fun _ => inside.named.bind fun _ => rest.named

/-- The texts that stand directly in an element, one after the other. -/
def ownText : Content → Except Error (List Char)
  | .nil => .ok []
  | .text t rest => (Cursor.textOf t).bind fun cs => rest.ownText.map (cs ++ ·)
  | .cdata t rest => rest.ownText.map (Utf8.decodeLossy t ++ ·)
  | .element name _ inside rest =>
    (Cursor.nameParts none name).bind fun _ => inside.named.bind fun _ => rest.ownText

/-- The text of an element, without the blanks around it. -/
def value (k : Content) : Except Error (List Char) := k.ownText.map Blank.trim

end Content

/-- What the events of a document spell, however they end: contents one inside the other. -/
inductive Trunk where
  | ended (k : Content)
  | within (before : Content) (name : Name) (uri : Option Bytes) (inside : Trunk)

namespace Trunk

def events : Trunk → List Event
  | .ended k => k.events
  | .within before name uri inside => before.events ++ .start name uri :: inside.events

/-- Changes the outermost content. -/
def outermost (f : Content → Content) : Trunk → Trunk
  | .ended k => .ended (f k)
  | .within before name uri inside => .within (f before) name uri inside

theorem events_outermost (f : Content → Content) (es : List Event) (h : ∀ k, (f k).events = es ++ k.events)
    (t : Trunk) : (t.outermost f).events = es ++ t.events := by
  cases t with
  | ended k => exact h k
  | within before name uri inside =>
    simp only [outermost, events]
    rw [h before, List.append_assoc]

end Trunk

namespace Event

/-- With `n` elements open before them, these events close none that is not open. -/
def Nested : Nat → List Event → Prop
  | _, [] => True
  | n, .start _ _ :: es => Nested (n + 1) es
  | 0, .finish :: _ => False
  | n + 1, .finish :: es => Nested n es
  | n, .text _ :: es => Nested n es
  | n, .cdata _ :: es => Nested n es

theorem nested_ofTokens (fault : Option Error) : ∀ (ts : List Token) (bs : Bindings) (opened : List Open),
    Nested opened.length (ofTokens fault bs opened ts).items
  | [], bs, opened => by simp only [ofTokens, Nested]
  | .text _ :: ts, bs, opened => by
    simp only [ofTokens, Stream.items_cons, Nested]
    exact nested_ofTokens fault ts bs opened
  | .cdata _ :: ts, bs, opened => by
    simp only [ofTokens, Stream.items_cons, Nested]
    exact nested_ofTokens fault ts bs opened
  | .remark :: ts, bs, opened => by
    simp only [ofTokens]
    exact nested_ofTokens fault ts bs opened
  | .opening content empty :: ts, bs, opened => by
    simp only [ofTokens]
    cases bs.extend (attributesOf content) with
    | error e => simp only [Stream.failed, Nested]
    | ok inside =>
      cases empty with
      | true =>
        simp only [if_true, Stream.items_cons, begin, Nested]
        exact nested_ofTokens fault ts bs opened
      | false =>
        simp only [Bool.false_eq_true, if_false, Stream.items_cons, begin, Nested]
        exact nested_ofTokens fault ts inside (⟨(nameOf content).bytes, bs⟩ :: opened)
  | .closing name :: ts, bs, [] => by simp only [ofTokens, Stream.failed, Nested]
  | .closing name :: ts, bs, o :: opened => by
    simp only [ofTokens]
    split
    · simp only [Stream.items_cons, List.length_cons, Nested]
      exact nested_ofTokens fault ts o.outside opened
    · simp only [Stream.failed, Nested]

/-- **A document's events close only what they opened.** -/
theorem nested_ofBytes (document : Bytes) : Nested 0 (ofBytes document).items :=
  nested_ofTokens _ _ _ []

/-- Events are a trunk, or a content and the end of an element that was open before them. -/
theorem trunk_or_content : ∀ (es : List Event) (n : Nat), Nested n es →
    (∃ t : Trunk, es = t.events) ∨
      ∃ (k : Content) (rest : List Event) (m : Nat), n = m + 1 ∧ es = k.events ++ .finish :: rest ∧ Nested m rest
  | [], _, _ => .inl ⟨.ended .nil, rfl⟩
  | .text t :: es, n, h => by
    rcases trunk_or_content es n h with ⟨u, hu⟩ | ⟨k, rest, m, hn, hk, hr⟩
    · exact .inl ⟨u.outermost (.text t), by
        rw [Trunk.events_outermost (.text t) [.text t] (fun _ => rfl), hu]; rfl⟩
    · exact .inr ⟨.text t k, rest, m, hn, by rw [hk]; rfl, hr⟩
  | .cdata t :: es, n, h => by
    rcases trunk_or_content es n h with ⟨u, hu⟩ | ⟨k, rest, m, hn, hk, hr⟩
    · exact .inl ⟨u.outermost (.cdata t), by
        rw [Trunk.events_outermost (.cdata t) [.cdata t] (fun _ => rfl), hu]; rfl⟩
    · exact .inr ⟨.cdata t k, rest, m, hn, by rw [hk]; rfl, hr⟩
  | .finish :: es, 0, h => h.elim
  | .finish :: es, m + 1, h => .inr ⟨.nil, es, m, rfl, rfl, h⟩
  | .start name uri :: es, n, h => by
    rcases trunk_or_content es (n + 1) h with ⟨u, hu⟩ | ⟨k, rest, m, hn, hk, hr⟩
    · exact .inl ⟨.within .nil name uri u, by rw [hu]; rfl⟩
    · obtain rfl : n = m := Nat.succ.inj hn
      have hlt : rest.length < es.length + 1 := by rw [hk]; simp; omega
      have e : ∀ r : Content, (Content.element name uri k r).events =
          (.start name uri :: (k.events ++ [.finish])) ++ r.events := fun r => by
        simp only [Content.events, List.cons_append, List.append_assoc, List.nil_append]
      rcases trunk_or_content rest n hr with ⟨u, hu⟩ | ⟨k', rest', m', hn', hk', hr'⟩
      · exact .inl ⟨u.outermost (.element name uri k), by
          rw [Trunk.events_outermost _ _ e, hk, hu]
          simp only [List.cons_append, List.append_assoc, List.nil_append]⟩
      · exact .inr ⟨.element name uri k k', rest', m', hn', by
          rw [e, hk, hk']
          simp only [List.cons_append, List.append_assoc, List.nil_append], hr'⟩
termination_by es => es.length

/-- **The events of any document are those of a trunk.** -/
theorem exists_trunk (document : Bytes) : ∃ t : Trunk, (ofBytes document).items = t.events := by
  rcases trunk_or_content _ 0 (nested_ofBytes document) with h | ⟨k, rest, m, hm, -, -⟩
  · exact h
  · exact absurd hm (by omega)

/-- How many elements are open after an event, and whether there was one. -/
def tally : Nat × Bool → Event → Nat × Bool
  | (n, _), .start _ _ => (n + 1, true)
  | (n, r), .finish => (n - 1, r)
  | s, .text _ => s
  | s, .cdata _ => s

end Event

/-- The paths of the elements that some events begin, below the open elements with the paths `stack`.  An element
whose name is no text has no path, and nothing below it has. -/
def Event.paths : List (Option Path) → List Event → List Path
  | _, [] => []
  | stack, .start name uri :: es =>
    let path := (stack.headD (some [])).bind fun parent => (Content.pathBelow parent name uri).toOption
    path.toList ++ paths (path :: stack) es
  | stack, .finish :: es => paths stack.tail es
  | stack, .text _ :: es => paths stack es
  | stack, .cdata _ :: es => paths stack es

/-- The paths of the elements of a document, whether they are closed or not. -/
def elementPaths (document : Bytes) : List Path := Event.paths [] (Event.ofBytes document).items

theorem Event.paths_content : ∀ (k : Content) (stack : List (Option Path)) (es : List Event),
    paths stack (k.events ++ es) =
      (match stack.headD (some []) with
        | some parent => (k.elements (fun _ => true) parent).map (·.1)
        | none => []) ++ paths stack es
  | .nil, stack, es => by
    cases stack.headD (some []) <;> rfl
  | .text t rest, stack, es => paths_content rest stack es
  | .cdata t rest, stack, es => paths_content rest stack es
  | .element name uri inside rest, stack, es => by
    simp only [Content.events, List.cons_append, List.append_assoc, paths]
    rw [paths_content inside, paths, List.tail_cons, paths_content rest]
    cases stack.headD (some []) with
    | none => rfl
    | some parent =>
      simp only [Option.bind_some, Content.elements]
      cases Content.pathBelow parent name uri with
      | error e => rfl
      | ok p => simp [Except.toOption]

theorem elementPaths_of_content {document : Bytes} {k : Content} (h : (Event.ofBytes document).items = k.events) :
    elementPaths document = (k.elements (fun _ => true) []).map (·.1) := by
  unfold elementPaths
  rw [h, ← List.append_nil k.events, Event.paths_content]
  exact List.append_nil _

theorem Content.foldl_tally : ∀ (k : Content) (n : Nat) (r : Bool),
    k.events.foldl Event.tally (n, r) = (n, r || k.hasElement)
  | .nil, n, r => by simp [events, hasElement]
  | .text _ rest, n, r => Content.foldl_tally rest n r
  | .cdata _ rest, n, r => Content.foldl_tally rest n r
  | .element name uri inside rest, n, r => by
    simp only [events, List.foldl_cons, List.foldl_append, Event.tally, hasElement, Content.foldl_tally inside,
      Content.foldl_tally rest, Nat.add_sub_cancel, Bool.true_or, Bool.or_true]

/-- A trunk leaves one more element open for each content that has another inside it. -/
theorem Trunk.le_foldl_tally : ∀ (t : Trunk) (n : Nat) (r : Bool), n ≤ (t.events.foldl Event.tally (n, r)).1
  | .ended k, n, r => Nat.le_of_eq (by rw [events, Content.foldl_tally])
  | .within before name uri inside, n, r => by
    rw [events, List.foldl_append, Content.foldl_tally, List.foldl_cons, Event.tally]
    have := Trunk.le_foldl_tally inside (n + 1) true
    omega

/-- **Where nothing is left open, the events are those of a content.** -/
theorem exists_content_of_tally (document : Bytes)
    (h : ((Event.ofBytes document).items.foldl Event.tally (0, false)).1 = 0) :
    ∃ k : Content, (Event.ofBytes document).items = k.events := by
  obtain ⟨t, ht⟩ := Event.exists_trunk document
  cases t with
  | ended k => exact ⟨k, ht⟩
  | within before name uri inside =>
    rw [ht, Trunk.events, List.foldl_append, Content.foldl_tally, List.foldl_cons, Event.tally] at h
    have := Trunk.le_foldl_tally inside (0 + 1) true
    omega

/-- **Events are those of one content at most**, up to the end of the element that it stands in. -/
theorem Content.events_append_inj {k k' : Content} {es es' : List Event} (hes : ∀ e ∈ es.head?, e = .finish)
    (hes' : ∀ e ∈ es'.head?, e = .finish) (h : k.events ++ es = k'.events ++ es') : k = k' ∧ es = es' := by
  induction k generalizing k' es es' with
  | nil =>
    cases k' with
    | nil => exact ⟨rfl, h⟩
    | _ => simp_all [events]
  | text t r ih =>
    cases k' with
    | text t' r' =>
      obtain ⟨ht, hr⟩ := List.cons.inj h
      obtain ⟨rfl, he⟩ := ih hes hes' hr
      exact ⟨by rw [Event.text.inj ht], he⟩
    | nil => simp [← show _ = es' from h, events] at hes'
    | _ => cases (List.cons.inj h).1
  | cdata t r ih =>
    cases k' with
    | cdata t' r' =>
      obtain ⟨ht, hr⟩ := List.cons.inj h
      obtain ⟨rfl, he⟩ := ih hes hes' hr
      exact ⟨by rw [Event.cdata.inj ht], he⟩
    | nil => simp [← show _ = es' from h, events] at hes'
    | _ => cases (List.cons.inj h).1
  | element name uri inside r ihInside ihRest =>
    cases k' with
    | element name' uri' inside' r' =>
      simp only [events, List.cons_append, List.append_assoc, List.cons.injEq, Event.start.injEq] at h
      obtain ⟨⟨rfl, rfl⟩, h⟩ := h
      obtain ⟨rfl, hrest⟩ := ihInside (by simp) (by simp) h
      obtain ⟨rfl, he⟩ := ihRest hes hes' (List.cons.inj hrest).2
      exact ⟨rfl, he⟩
    | nil => simp [← show _ = es' from h, events] at hes'
    | _ => cases (List.cons.inj h).1

theorem Content.events_injective {k k' : Content} (h : k.events = k'.events) : k = k' := by
  have hnil : ∀ e ∈ ([] : List Event).head?, e = .finish := by simp
  exact (events_append_inj hnil hnil (by rw [List.append_nil, List.append_nil, h])).1

end ScanDiscovery.Xml
