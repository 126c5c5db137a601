import ScanDiscovery.Proofs.Xml.Chain
/-!
# Proofs.Xml.Ending — what is told where a document ends inside its elements

Where the events are used up and elements are open, a call fails with the path of the innermost of them.  Whatever its
clients did before, that is the path that scopes give this element by (`pathOf`), if the call asked for the next element
or left one.  The text of an element is read without looking at the namespaces of what stands in it (`Tag.bare`), so
below that element the path has the prefixes of the document (`end_named`).  Specification only.
-/
namespace ScanDiscovery.Xml

/-- The path of the innermost of some elements, each inside the next. -/
def pathOf : List Tag → Except Error Path
  | [] => .ok []
  | t :: tags => (pathOf tags).bind fun parent => Content.pathBelow parent t.name t.uri

theorem pathOf_of_spelt {opened : List Path} {tags : List Tag} (h : Spelt opened tags) :
    pathOf tags = .ok (opened.headD []) := by
  induction h with
  | nil => rfl
  | cons _ path ih =>
    rw [pathOf, ih]
    exact path

/-- The element without the namespace of its name. -/
def Tag.bare (t : Tag) : Tag := { t with uri := none }

def Event.bare : Event → Event
  | .start name _ => .start name none
  | .finish => .finish
  | .text content => .text content
  | .cdata content => .cdata content

theorem Event.openTags_bare : ∀ (es : List Event) (tags : List Tag),
    openTags (tags.map Tag.bare) (es.map bare) = (openTags tags es).map Tag.bare
  | [], _ => rfl
  | .start name uri :: es, tags => openTags_bare es (⟨name, uri⟩ :: tags)
  | .finish :: es, tags => by
    rw [List.map_cons, bare, openTags, openTags, ← List.map_tail]
    exact openTags_bare es tags.tail
  | .text _ :: es, tags => openTags_bare es tags
  | .cdata _ :: es, tags => openTags_bare es tags

theorem Event.behindEnd_bare : ∀ (es : List Event) (n : Nat),
    behindEnd n (es.map bare) = (behindEnd n es).map (List.map bare)
  | [], _ => rfl
  | .start _ _ :: es, n => behindEnd_bare es (n + 1)
  | .finish :: _, 0 => rfl
  | .finish :: es, n + 1 => behindEnd_bare es n
  | .text _ :: es, n => behindEnd_bare es n
  | .cdata _ :: es, n => behindEnd_bare es n

theorem Event.length_openTags : ∀ (es : List Event) (tags : List Tag) (rooted : Bool),
    (openTags tags es).length = (es.foldl tally (tags.length, rooted)).1
  | [], _, _ => rfl
  | .start name uri :: es, tags, _ => length_openTags es (⟨name, uri⟩ :: tags) true
  | .finish :: es, tags, rooted => by
    rw [openTags, length_openTags es tags.tail rooted, List.length_tail]
    rfl
  | .text _ :: es, tags, rooted => length_openTags es tags rooted
  | .cdata _ :: es, tags, rooted => length_openTags es tags rooted

/-- Events that do not end an element leave open what is open around it. -/
theorem Event.openTags_of_behindEnd (outer : List Tag) : ∀ (es : List Event) (inner : List Tag),
    behindEnd inner.length es = none → openTags (inner ++ outer) es = openTags inner es ++ outer
  | [], _, _ => rfl
  | .start name uri :: es, inner, h => openTags_of_behindEnd outer es (⟨name, uri⟩ :: inner) h
  | .finish :: _, [], h => by cases h
  | .finish :: es, _ :: inner, h => openTags_of_behindEnd outer es inner h
  | .text _ :: es, inner, h => openTags_of_behindEnd outer es inner h
  | .cdata _ :: es, inner, h => openTags_of_behindEnd outer es inner h

theorem pathBelow_eq (parent : Path) (t : Tag) :
    Content.pathBelow parent t.name t.uri = t.segment.map parent.extend := by
  rw [Content.pathBelow, Cursor.enteredPath_eq, Tag.segment]
  cases Cursor.nameParts (t.uri.bind Vocabulary.prefixOf?) t.name <;> rfl

theorem pathOf_bare (outer : List Tag) : ∀ inner : List Tag, (∀ t ∈ inner, t.bare.segment = t.segment) →
    pathOf (inner.map Tag.bare ++ outer) = pathOf (inner ++ outer)
  | [], _ => rfl
  | t :: inner, h => by
    obtain ⟨ht, hinner⟩ := List.forall_mem_cons.1 h
    rw [List.map_cons, List.cons_append, List.cons_append, pathOf, pathOf, pathOf_bare outer inner hinner]
    congr 1
    funext parent
    rw [pathBelow_eq, pathBelow_eq, ht]

/-- Where the prefixes of the document are those of the vocabulary, it makes no difference which are taken. -/
theorem pathOf_openTags_bare (outer : List Tag) {es : List Event} (hnone : Event.behindEnd 0 es = none)
    (hsame : ∀ t ∈ Event.openTags [] es, t.bare.segment = t.segment) :
    pathOf (Event.openTags outer (es.map Event.bare)) = pathOf (Event.openTags outer es) := by
  have hbare : Event.behindEnd 0 (es.map Event.bare) = none := by
    rw [Event.behindEnd_bare, hnone]
    rfl
  have hopen : Event.openTags outer es = Event.openTags [] es ++ outer := Event.openTags_of_behindEnd outer es [] hnone
  have hopen' : Event.openTags outer (es.map Event.bare) = (Event.openTags [] es).map Tag.bare ++ outer := by
    rw [← Event.openTags_bare es []]
    exact Event.openTags_of_behindEnd outer (es.map Event.bare) [] hbare
  rw [hopen, hopen', pathOf_bare outer _ hsame]

/-- Why a name cannot be read. -/
def Error.OfName (e : Error) : Prop := ∃ fault, e = .name fault

/-- Why a text, or a name in it, cannot be read. -/
def Error.OfText (e : Error) : Prop := e.OfName ∨ (∃ fault, e = .encoding fault) ∨ ∃ fault, e = .reference fault

/-- How a call comes out in a document that ends inside elements.  It may give something; else it comes to the end of
the element that it is bounded by, behind which are the events `ends`, or fails on what cannot be read, or else finds
that the element has no end, and tells the path. -/
def BreaksOff {α : Type} (gave : α → Prop) (unread : Error → Prop) (ends : Option (List Event))
    (path : Except Error Path) : Except Error α → Prop
  | .ok a => gave a ∨ ends.isSome = true
  | .error e => unread e ∨ ends = none ∧ ∃ p, e = .unexpectedEnd p ∧ path = .ok p

/-! ## Moves -/

theorem enteredPath_error {parent : Path} {known : Option String} {name : Name} {e : Error}
    (h : Cursor.enteredPath parent known name = .error e) : e.OfName := by
  rw [Cursor.enteredPath_eq] at h
  cases hn : Cursor.nameParts known name with
  | error e' =>
    rw [hn] at h
    cases h
    exact Scope.nameParts_error hn
  | ok n =>
    rw [hn] at h
    cases h

theorem Scope.atEnd_of_depth {s : Scope} {c : Cursor} (h : 0 < c.depth) : s.atEnd c = .error (.unexpectedEnd c.path) := by
  rw [atEnd, if_pos (by simp [h])]

theorem Scope.seek_breaksOff (s : Scope) : ∀ (es : List Event) {c : Cursor} {n : Nat} {tags : List Tag},
    Spelt c.opened tags → c.fault = none → 0 < (es.foldl Event.tally (c.depth, c.rooted)).1 → c.depth = s.depth + n →
      BreaksOff (fun given => given.isSome = true) Error.OfName (Event.behindEnd n es) (pathOf (Event.openTags tags es))
        (s.seek es c).outcome
  | [], c, n, tags, hs, hf, ho, hd => by
    rw [seek, hf]
    simp only [atEnd_of_depth ho]
    exact .inr ⟨rfl, c.path, rfl, pathOf_of_spelt hs⟩
  | .start name uri :: es, c, n, tags, hs, hf, ho, hd => by
    rw [seek, Cursor.enter_eq]
    cases hp : Cursor.enteredPath c.path (uri.bind Vocabulary.prefixOf?) name with
    | error e => exact .inl (enteredPath_error hp)
    | ok p => exact .inl rfl
  | .finish :: es, c, n, tags, hs, hf, ho, hd => by
    have hl : c.leave.depth = c.depth - 1 := List.length_tail
    rw [seek]
    cases n with
    | zero =>
      rw [if_pos (by omega)]
      exact .inr rfl
    | succ n =>
      rw [if_neg (by omega)]
      exact seek_breaksOff s es (c := c.leave) hs.outside hf (by rw [hl]; exact ho) (by omega)
  | .text _ :: es, c, n, tags, hs, hf, ho, hd => seek_breaksOff s es hs hf ho hd
  | .cdata _ :: es, c, n, tags, hs, hf, ho, hd => seek_breaksOff s es hs hf ho hd

/-- The elements that are passed over have paths below that of the scope's own element. -/
theorem Scope.skipFrom_breaksOff {s : Scope} {entry : Cursor} (hdepth : s.depth = entry.depth)
    (hskipped : s.skipped = entry.path.size) : ∀ (es : List Event) {c : Cursor} {inner : List Path} {tags : List Tag},
    c.opened = inner ++ entry.opened → Spelt c.opened tags → c.fault = none →
      0 < (es.foldl Event.tally (c.depth, c.rooted)).1 →
        BreaksOff (fun _ => False) Error.OfName (Event.behindEnd inner.length es) (pathOf (Event.openTags tags es))
          (s.skipFrom es c).outcome
  | [], c, inner, tags, hi, hs, hf, ho => by
    rw [skipFrom, hf]
    simp only [atEnd_of_depth ho]
    exact .inr ⟨rfl, c.path, rfl, pathOf_of_spelt hs⟩
  | .start name uri :: es, c, inner, tags, hi, hs, hf, ho => by
    rw [skipFrom, Cursor.enter_eq]
    cases hp : Cursor.enteredPath c.path (uri.bind Vocabulary.prefixOf?) name with
    | error e => exact .inl (enteredPath_error hp)
    | ok p =>
      have hinner : p :: c.opened = (p :: inner) ++ entry.opened := congrArg (p :: ·) hi
      have hs' : Spelt (p :: c.opened) (⟨name, uri⟩ :: tags) := .cons hs hp
      have hrel : ∃ rel, s.relative p = .ok rel := by
        obtain ⟨segs, -, hfold⟩ := Spelt.path_of_inner (hinner ▸ hs')
        obtain ⟨rel, hrest⟩ := Path.exists_foldl_extend entry.path segs
        exact ⟨rel, by rw [← relative_append hskipped rel, ← hrest]; exact congrArg s.relative hfold⟩
      obtain ⟨rel, hrel⟩ := hrel
      have hpath : Cursor.path { c with opened := p :: c.opened, rooted := true } = p := rfl
      simp only [Except.map, hpath, hrel]
      exact skipFrom_breaksOff hdepth hskipped es (c := c.entered p) hinner hs' hf ho
  | .finish :: es, c, inner, tags, hi, hs, hf, ho => by
    have hl : c.leave.depth = c.depth - 1 := List.length_tail
    have hd : c.depth = s.depth + inner.length := by
      rw [hdepth, Cursor.depth, hi, List.length_append, Nat.add_comm, Cursor.depth]
    rw [skipFrom]
    cases inner with
    | nil =>
      rw [if_pos (show c.depth = s.depth from hd)]
      exact .inr rfl
    | cons q inner =>
      rw [if_neg (by rw [hd, List.length_cons]; omega)]
      exact skipFrom_breaksOff hdepth hskipped es (c := c.leave) (by rw [Cursor.leave, hi]; rfl) hs.outside hf
        (by rw [hl]; exact ho)
  | .text _ :: es, c, inner, tags, hi, hs, hf, ho => skipFrom_breaksOff hdepth hskipped es hi hs hf ho
  | .cdata _ :: es, c, inner, tags, hi, hs, hf, ho => skipFrom_breaksOff hdepth hskipped es hi hs hf ho

theorem Cursor.textOf_error {content : Bytes} {e : Error} (h : textOf content = .error e) : e.OfText := by
  unfold textOf at h
  cases hd : Utf8.decode content with
  | error fault =>
    rw [hd] at h
    cases h
    exact .inr (.inl ⟨fault, rfl⟩)
  | ok cs =>
    rw [hd] at h
    cases hr : Reference.replace cs with
    | error fault =>
      simp only [hr] at h
      cases h
      exact .inr (.inr ⟨fault, rfl⟩)
    | ok cs' =>
      simp only [hr] at h
      cases h

/-- Inside the element that is read, the names of elements are those of the document. -/
theorem Cursor.gather_breaksOff {depth : Nat} (hdepth : 0 < depth) : ∀ (es : List Event) (read : List Char) {c : Cursor}
    {n : Nat} {tags : List Tag}, Spelt c.opened tags → c.fault = none → c.depth = depth + n →
      BreaksOff (fun _ => False) Error.OfText (Event.behindEnd n es) (pathOf (Event.openTags tags (es.map Event.bare)))
        (gather depth read es c).1
  | [], read, c, n, tags, hs, hf, hd => by
    rw [gather, endFault, hf]
    exact .inr ⟨rfl, c.path, rfl, pathOf_of_spelt hs⟩
  | .text x :: es, read, c, n, tags, hs, hf, hd => by
    rw [gather]
    split
    · cases hx : textOf x with
      | error e => exact .inl (textOf_error hx)
      | ok cs => exact gather_breaksOff hdepth es _ hs hf hd
    · exact gather_breaksOff hdepth es _ hs hf hd
  | .cdata x :: es, read, c, n, tags, hs, hf, hd => by
    rw [gather]
    split <;> exact gather_breaksOff hdepth es _ hs hf hd
  | .start name uri :: es, read, c, n, tags, hs, hf, hd => by
    rw [gather, enter_eq]
    cases hp : enteredPath c.path none name with
    | error e => exact .inl (.inl (enteredPath_error hp))
    | ok p =>
      have hs' : Spelt (p :: c.opened) (⟨name, none⟩ :: tags) := .cons hs hp
      exact gather_breaksOff hdepth es read (c := c.entered p) (n := n + 1) hs' hf (congrArg Nat.succ hd)
  | .finish :: es, read, c, n, tags, hs, hf, hd => by
    have hl : c.leave.depth = c.depth - 1 := List.length_tail
    rw [gather]
    cases n with
    | zero =>
      rw [if_pos (by omega)]
      exact .inr rfl
    | succ n =>
      rw [if_neg (by omega)]
      exact gather_breaksOff hdepth es read (c := c.leave) hs.outside hf (by omega)

/-! ## Clients -/

/-- What is open at the end of a document is open behind the events that are left. -/
theorem openTags_rest {document : Bytes} {c : Cursor} (h : (Cursor.ofBytes document).Leads c) :
    Event.openTags (tagsAt document c) c.rest = Event.openTags [] (Event.ofBytes document).items := by
  obtain ⟨passed, hitems⟩ := h.suffix
  have hitems : (Event.ofBytes document).items = passed ++ c.rest := hitems.symm
  rw [tagsAt, hitems, List.length_append, Nat.add_sub_cancel, List.take_left, Event.openTags_append]

section

variable {document : Bytes} (hfault : (Event.ofBytes document).fault = none)
  (hopen : Event.openTags [] (Event.ofBytes document).items ≠ []) {entry c : Cursor} {given : List Given} {fresh : Bool}
  {s : Scope} (he : Entered document entry) (h : Story entry given fresh s c)
include hfault hopen he h

/-- Where a client is in such a document: elements are open, by their paths, and the events left do not close them all. -/
theorem open_at : Spelt c.opened (tagsAt document c) ∧ c.fault = none ∧
    0 < (c.rest.foldl Event.tally (c.depth, c.rooted)).1 ∧
    Event.openTags (tagsAt document c) c.rest = Event.openTags [] (Event.ofBytes document).items := by
  have hleads := he.leads.trans h.kept.leads
  refine ⟨(h.reached he.reached).placed.here.spelt, hleads.fault.trans hfault, ?_, openTags_rest hleads⟩
  have hpos := List.length_pos_iff.2 hopen
  rw [Event.length_openTags _ [] false] at hpos
  exact Nat.lt_of_lt_of_eq hpos (congrArg Prod.fst hleads.outlook.symm)

/-- Once its scope is at the end, its element is closed: the document has not ended before. -/
theorem closed_of_finished (hf : s.finished = true) : (Event.behindEnd 0 entry.rest).isSome = true := by
  obtain ⟨-, -, houtlook, -⟩ := open_at hfault hopen he h
  obtain ⟨hopened, hrest | ⟨hentry, -, hrest⟩⟩ := h.kept.left hf
  · rw [hrest]
    rfl
  · have hdepth : c.depth = 0 := by
      rw [Cursor.depth, hopened, List.length_tail]
      rw [Cursor.depth] at hentry
      omega
    rw [hrest, hdepth] at houtlook
    exact absurd houtlook (Nat.lt_irrefl 0)

theorem next_breaksOff : BreaksOff (fun answer => answer.isSome = true) Error.OfName (Event.behindEnd 0 entry.rest)
    (pathOf (Event.openTags [] (Event.ofBytes document).items)) (s.next c).outcome := by
  obtain ⟨hspelt, hend, houtlook, hopenTags⟩ := open_at hfault hopen he h
  have hkept := h.kept
  cases hf : s.finished with
  | true =>
    rw [Scope.next, if_pos hf]
    exact .inr (closed_of_finished hfault hopen he h hf)
  | false =>
    obtain ⟨inner, past, hg⟩ := hkept.going hf
    have hd : c.depth = s.depth + inner.length := by
      rw [hkept.depth, Cursor.depth, hg.opened, List.length_append, Nat.add_comm, Cursor.depth]
    rw [Scope.next_eq_seek hf, ← hg.ends, ← hopenTags]
    exact s.seek_breaksOff c.rest hspelt hend houtlook hd

theorem skip_breaksOff : BreaksOff (fun _ => False) Error.OfName (Event.behindEnd 0 entry.rest)
    (pathOf (Event.openTags [] (Event.ofBytes document).items)) (s.skip c).outcome := by
  obtain ⟨hspelt, hend, houtlook, hopenTags⟩ := open_at hfault hopen he h
  have hkept := h.kept
  rw [Scope.skip]
  cases hf : s.finished with
  | true => exact .inr (closed_of_finished hfault hopen he h hf)
  | false =>
    obtain ⟨inner, past, hg⟩ := hkept.going hf
    rw [if_neg Bool.false_ne_true, ← hg.ends, ← hopenTags]
    exact Scope.skipFrom_breaksOff hkept.depth hkept.skipped c.rest hg.opened hspelt hend houtlook

theorem readText_breaksOff (hfresh : fresh = true) : BreaksOff (fun _ => False) Error.OfText (Event.behindEnd 0 c.rest)
    (pathOf (Event.openTags (tagsAt document c) (c.rest.map Event.bare))) c.readText.1 := by
  obtain ⟨hspelt, hend, -, -⟩ := open_at hfault hopen he h
  have hd : 0 < c.depth := Nat.zero_lt_of_lt (h.kept.fresh hfresh).2.1
  exact Cursor.gather_breaksOff hd c.rest [] hspelt hend (Nat.add_zero _).symm

end

/-- **The end of a document names the element that it is in.**  Where a document ends inside its elements, a call for the
next element, or to leave one, that comes to its end fails with the path that the innermost open element is given by.
Reading a text does so with the prefixes of the document for the elements inside the one that is read, which is that
path where these prefixes are the same. -/
theorem end_named {document : Bytes} (hfault : (Event.ofBytes document).fault = none)
    (hopen : Event.openTags [] (Event.ofBytes document).items ≠ []) {entry c : Cursor} {given : List Given}
    {fresh : Bool} {s : Scope} (he : Entered document entry) (h : Story entry given fresh s c) :
    BreaksOff (fun answer => answer.isSome = true) Error.OfName (Event.behindEnd 0 entry.rest)
      (pathOf (Event.openTags [] (Event.ofBytes document).items)) (s.next c).outcome ∧
    BreaksOff (fun _ => False) Error.OfName (Event.behindEnd 0 entry.rest)
      (pathOf (Event.openTags [] (Event.ofBytes document).items)) (s.skip c).outcome ∧
    (fresh = true →
      BreaksOff (fun _ => False) Error.OfText (Event.behindEnd 0 c.rest)
        (pathOf (Event.openTags (tagsAt document c) (c.rest.map Event.bare))) c.readText.1 ∧
      ((∀ t ∈ Event.openTags [] c.rest, t.bare.segment = t.segment) →
        BreaksOff (fun _ => False) Error.OfText (Event.behindEnd 0 c.rest)
          (pathOf (Event.openTags [] (Event.ofBytes document).items)) c.readText.1)) := by
  obtain ⟨-, -, -, hopenTags⟩ := open_at hfault hopen he h
  refine ⟨next_breaksOff hfault hopen he h, skip_breaksOff hfault hopen he h, fun hfresh => ?_⟩
  have hread := readText_breaksOff hfault hopen he h hfresh
  refine ⟨hread, fun hsame => ?_⟩
  rw [← hopenTags]
  cases hr : c.readText.1 with
  | ok t =>
    rw [hr] at hread
    exact hread
  | error e =>
    rw [hr] at hread
    rcases hread with hunread | ⟨hnone, p, rfl, hp⟩
    · exact .inl hunread
    · exact .inr ⟨hnone, p, rfl, by rw [← pathOf_openTags_bare _ hnone hsame, hp]⟩

/-- `<A xmlns:q='http://schemas.microsoft.com/windows/2006/08/wdp/scan'>x<q:B>` -/
def openSample : Bytes := Utf8.encode "<A xmlns:q='http://schemas.microsoft.com/windows/2006/08/wdp/scan'>x<q:B>".toList

/-- The events of `openSample` -/
def openSampleEvents : List Event :=
  [.start ⟨Utf8.encode ['A']⟩ none, .text [0x78], .start ⟨Utf8.encode "q:B".toList⟩ (some (Vocabulary.bytesOf Vocabulary.scan))]

theorem ofBytes_openSample : Event.ofBytes openSample = ⟨openSampleEvents, none⟩ := by decide +kernel

theorem pathOf_openSample : pathOf (Event.openTags [] (Event.ofBytes openSample).items) = .ok "A/scan:B".toList := by
  rw [ofBytes_openSample]
  rfl

/-- The root of `openSample` is given first. -/
theorem openSample_root : Story (.ofBytes openSample) [⟨['A'], ⟨some ['A'], openSampleEvents.tail⟩, false⟩] true .document
    ⟨openSampleEvents.tail, none, [['A']], true⟩ := by
  have hbegin : Cursor.ofBytes openSample = ⟨openSampleEvents, none, [], false⟩ := by
    rw [Cursor.ofBytes, ofBytes_openSample]
  have entered : Story (.ofBytes openSample) [] false .document ⟨openSampleEvents, none, [], false⟩ := by
    rw [← hbegin]
    exact .entered _
  exact entered.gave rfl rfl

/-- Behind the start of `B` there is nothing: the next element, the end of the scope and the text of `B` are all looked
for in vain, and each time `B` is named. -/
theorem openSample_named : ∃ given s c p, Story (.ofBytes openSample) given true s c ∧ c.path = p ∧
    (s.next c).outcome = .error (.unexpectedEnd p) ∧ (s.skip c).outcome = .error (.unexpectedEnd p) ∧
    c.readText.1 = .error (.unexpectedEnd p) ∧
    pathOf (Event.openTags [] (Event.ofBytes openSample).items) = .ok p := by
  have gaveB := @Story.gave _ _ _ _ .document _ ⟨[], none, ["A/scan:B".toList, ['A']], true⟩ "A/scan:B".toList
    "A/scan:B".toList openSample_root rfl rfl
  have hfault : (Event.ofBytes openSample).fault = none := by rw [ofBytes_openSample]
  have hopen : Event.openTags [] (Event.ofBytes openSample).items ≠ [] := by
    rw [ofBytes_openSample]
    exact List.cons_ne_nil _ _
  obtain ⟨hnext, -, -⟩ := end_named hfault hopen .document gaveB
  refine ⟨_, _, _, "A/scan:B".toList, gaveB, rfl, rfl, rfl, rfl, ?_⟩
  rcases hnext with ⟨_, hname⟩ | ⟨-, p, hp, hpath⟩
  · cases hname
  · exact hpath.trans (congrArg Except.ok (Error.unexpectedEnd.inj hp).symm)

/-- The text of `A` ends inside `B` as well, which is told by the prefix that the document has for it. -/
theorem openSample_misnamed : ∃ given s c p, Story (.ofBytes openSample) given true s c ∧
    c.readText.1 = .error (.unexpectedEnd p) ∧
    pathOf (Event.openTags [] (Event.ofBytes openSample).items) ≠ .ok p := by
  refine ⟨_, _, _, "A/q:B".toList, openSample_root, rfl, fun h => ?_⟩
  rw [pathOf_openSample] at h
  exact absurd (Except.ok.inj h) (by decide)

end ScanDiscovery.Xml
