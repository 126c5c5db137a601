import ScanDiscovery.Proofs.Xml.Story
/-!
# Proofs.Xml.Chain — the elements that a path stands for

The events before a place in a document say which elements are open there (`tagsAt`).  Wherever the calls of clients have
led, as long as none was refused, the paths of a cursor are those of these elements (`Reached.placed`).  So the path that
a scope gives an element by has as many segments as there are elements open in the scope, down to that one, and they
spell their names, if there is no slash in these (`Reached.chain`).  Specification only.
-/
namespace ScanDiscovery.Xml

/-! ## Segments -/

namespace Path

/-- A path, and a segment below it. -/
def extend (parent : Path) (segment : List Char) : Path :=
  if parent.isEmpty then segment else parent ++ '/' :: segment

/-- The segments of a path.  A slash at the beginning, as paths inside an element have, begins the first one. -/
def segments : Path → List (List Char)
  | '/' :: p => List.splitOn '/' p
  | p => List.splitOn '/' p

example : segments "/scan:ADF/scan:ADFFront".toList = ["scan:ADF".toList, "scan:ADFFront".toList] := by decide

theorem intercalate_append (sep u v : List Char) (segs : List (List Char)) :
    sep.intercalate ((u ++ v) :: segs) = u ++ sep.intercalate (v :: segs) := by
  cases segs with
  | nil => simp
  | cons w segs => simp only [List.intercalate_cons_cons, List.append_assoc]

/-- Segments below a path, one after the other, are written with slashes between them. -/
theorem foldl_extend : ∀ (segs : List (List Char)) {base : Path}, base ≠ [] →
    segs.foldl extend base = ['/'].intercalate (base :: segs)
  | [], base, _ => by simp
  | seg :: segs, base, hbase => by
    have hstep : extend base seg = (base ++ ['/']) ++ seg := by
      rw [extend, if_neg (by simpa using hbase), List.append_assoc]
      rfl
    have hne : extend base seg ≠ [] := by
      rw [hstep]
      simp
    rw [List.foldl_cons, foldl_extend segs hne, hstep, intercalate_append, List.intercalate_cons_cons]

theorem exists_foldl_extend (base : Path) (segs : List (List Char)) : ∃ rest, segs.foldl extend base = base ++ rest := by
  by_cases hbase : base = []
  · exact ⟨segs.foldl extend base, by rw [hbase, List.nil_append]⟩
  · refine ⟨['/'].intercalate ([] :: segs), ?_⟩
    rw [foldl_extend segs hbase, ← intercalate_append, List.append_nil]

/-- **Segments are read back from a path**, inside the path of an element or not. -/
theorem segments_of_foldl {base answer : Path} {segs : List (List Char)} (hpath : segs.foldl extend base = base ++ answer)
    (hne : answer ≠ []) (hplain : ∀ seg ∈ segs, '/' ∉ seg) (hfirst : base = [] → segs.head? ≠ some []) :
    segments answer = segs := by
  cases segs with
  | nil =>
    rw [List.foldl_nil] at hpath
    exact absurd (List.self_eq_append_right.1 hpath) hne
  | cons seg segs =>
    have hsplit : List.splitOn '/' (['/'].intercalate (seg :: segs)) = seg :: segs :=
      List.splitOn_intercalate '/' hplain (List.cons_ne_nil _ _)
    by_cases hbase : base = []
    · subst hbase
      have hseg : seg ≠ [] := fun hnil => hfirst rfl (congrArg some hnil)
      have hextend : extend [] seg = seg := rfl
      rw [List.foldl_cons, hextend, foldl_extend segs hseg, List.nil_append] at hpath
      -- the first segment is not empty, so the path does not begin with a slash
      obtain ⟨c, more, rfl⟩ := List.exists_cons_of_ne_nil hseg
      have hc : c ≠ '/' := fun he => hplain _ List.mem_cons_self (he ▸ List.mem_cons_self)
      have hanswer : answer = c :: ['/'].intercalate (more :: segs) := by
        rw [← hpath]
        exact intercalate_append ['/'] [c] more segs
      rw [← hsplit, hpath, hanswer, segments]
      exact fun p hp => hc (List.cons.inj hp).1
    · rw [foldl_extend _ hbase, List.intercalate_cons_cons, List.append_assoc, List.append_cancel_left_eq] at hpath
      rw [← hpath]
      exact hsplit

end Path

/-! ## The elements that are open -/

/-- An element that begins: its name, and the URI of its namespace. -/
structure Tag where
  name : Name
  uri : Option Bytes
  deriving DecidableEq, Repr

/-- What an element is called in paths: its local name, behind its prefix. -/
def Tag.segment (t : Tag) : Except Error (List Char) :=
  (Cursor.nameParts (t.uri.bind Vocabulary.prefixOf?) t.name).map fun n => Path.qualified n.1 n.2

/-- The elements that are open behind some events, innermost first, if `tags` were open before them. -/
def Event.openTags : List Tag → List Event → List Tag
  | tags, [] => tags
  | tags, .start name uri :: es => openTags (⟨name, uri⟩ :: tags) es
  | tags, .finish :: es => openTags tags.tail es
  | tags, .text _ :: es => openTags tags es
  | tags, .cdata _ :: es => openTags tags es

/-- The elements of a document that are open where a cursor stands, by the events before it. -/
def tagsAt (document : Bytes) (c : Cursor) : List Tag :=
  let items := (Event.ofBytes document).items
  Event.openTags [] (items.take (items.length - c.rest.length))

theorem Event.openTags_append : ∀ (es es' : List Event) (tags : List Tag),
    openTags tags (es ++ es') = openTags (openTags tags es) es'
  | [], _, _ => rfl
  | .start name uri :: es, es', tags => openTags_append es es' (⟨name, uri⟩ :: tags)
  | .finish :: es, es', tags => openTags_append es es' tags.tail
  | .text _ :: es, es', tags => openTags_append es es' tags
  | .cdata _ :: es, es', tags => openTags_append es es' tags

/-- What leads to the end of an element closes it and all that is open inside it. -/
theorem Event.openTags_behindEnd : ∀ (es : List Event) {n : Nat} {es' : List Event}, behindEnd n es = some es' →
    ∃ passed, es = passed ++ es' ∧ ∀ tags, openTags tags passed = tags.drop (n + 1)
  | [], _, _, h => by cases h
  | .start name uri :: es, n, es', h => by
    obtain ⟨passed, rfl, hp⟩ := openTags_behindEnd es (n := n + 1) h
    exact ⟨.start name uri :: passed, rfl, fun tags => hp (⟨name, uri⟩ :: tags)⟩
  | .finish :: es, 0, _, h => by
    cases h
    exact ⟨[.finish], rfl, fun tags => List.drop_one.symm⟩
  | .finish :: es, n + 1, es', h => by
    obtain ⟨passed, rfl, hp⟩ := openTags_behindEnd es (n := n) h
    refine ⟨.finish :: passed, rfl, fun tags => ?_⟩
    rw [openTags, hp, List.drop_tail]
  | .text t :: es, n, es', h => by
    obtain ⟨passed, rfl, hp⟩ := openTags_behindEnd es (n := n) h
    exact ⟨.text t :: passed, rfl, hp⟩
  | .cdata t :: es, n, es', h => by
    obtain ⟨passed, rfl, hp⟩ := openTags_behindEnd es (n := n) h
    exact ⟨.cdata t :: passed, rfl, hp⟩

/-- These are the paths of these elements, each below the next. -/
inductive Spelt : List Path → List Tag → Prop
  | nil : Spelt [] []
  | cons {p : Path} {opened : List Path} {t : Tag} {tags : List Tag} (outside : Spelt opened tags)
      (path : Content.pathBelow (opened.headD []) t.name t.uri = .ok p) : Spelt (p :: opened) (t :: tags)

namespace Spelt

variable {opened opened' : List Path} {tags : List Tag}

theorem outside (h : Spelt opened tags) : Spelt opened.tail tags.tail := by
  cases h with
  | nil => exact .nil
  | cons outside _ => exact outside

theorem length_eq (h : Spelt opened tags) : opened.length = tags.length := by
  induction h with
  | nil => rfl
  | cons _ _ ih => exact congrArg (· + 1) ih

theorem extend {p parent : Path} {t : Tag} (h : Content.pathBelow parent t.name t.uri = .ok p) :
    ∃ seg, t.segment = .ok seg ∧ p = parent.extend seg := by
  rw [Content.pathBelow, Cursor.enteredPath_eq] at h
  obtain ⟨n, hn, rfl⟩ := map_eq_ok.1 h
  exact ⟨Path.qualified n.1 n.2, by rw [Tag.segment, hn]; rfl, rfl⟩

/-- **The path of an element is spelt by the elements around it**: below the path of one of these, by those inside. -/
theorem path_of_inner : ∀ {inside : List Path} {tags : List Tag}, Spelt (inside ++ opened') tags →
    ∃ segs : List (List Char), (tags.take inside.length).reverse.map Tag.segment = segs.map .ok ∧
      (inside ++ opened').headD [] = segs.foldl Path.extend (opened'.headD [])
  | [], _, _ => ⟨[], rfl, rfl⟩
  | p :: inside, _, h => by
    cases h with
    | cons outside path =>
      obtain ⟨segs, hsegs, hpath⟩ := path_of_inner outside
      obtain ⟨seg, hseg, rfl⟩ := extend path
      refine ⟨segs ++ [seg], ?_, ?_⟩
      · simp only [List.length_cons, List.take_succ_cons, List.reverse_cons, List.map_append, hsegs, List.map_cons,
          hseg, List.map_nil]
      · rw [List.foldl_append, ← hpath]
        rfl

end Spelt

/-! ## Clients that are never refused -/

/-- A client of a scope may ask for the next element, read a text, enter an element and leave it, in whatever order; so
far no call was refused.  The scope was entered at `entry`. -/
inductive Reached (document : Bytes) : (entry : Cursor) → Scope → Cursor → Prop
  | document : Reached document (.ofBytes document) .document (.ofBytes document)
  | within {entry c : Cursor} {s : Scope} (h : Reached document entry s c) : Reached document c (.within c) c
  | next {entry c c' : Cursor} {s s' : Scope} {given : Option Path} (h : Reached document entry s c)
      (hn : s.next c = ⟨.ok given, s', c'⟩) : Reached document entry s' c'
  | text {entry c c' : Cursor} {s : Scope} {t : List Char} (h : Reached document entry s c)
      (ht : c.readText = (.ok t, c')) : Reached document entry s c'
  | left {entry c ci : Cursor} {s si : Scope} (h : Reached document entry s c) (inside : Reached document c si ci)
      (hs : (si.skip ci).outcome = .ok ()) : Reached document entry s (si.skip ci).cursor

namespace Cursor

/-- On the way from a cursor to another, what is opened and closed is opened and closed in the document. -/
def Passes (c c' : Cursor) : Prop :=
  ∃ passed, c.rest = passed ++ c'.rest ∧ ∀ tags, Spelt c.opened tags → Spelt c'.opened (Event.openTags tags passed)

namespace Passes

theorem refl (c : Cursor) : Passes c c := ⟨[], rfl, fun _ h => h⟩

theorem trans {c d e : Cursor} (h : Passes c d) (h' : Passes d e) : Passes c e := by
  obtain ⟨passed, hrest, hspelt⟩ := h
  obtain ⟨passed', hrest', hspelt'⟩ := h'
  refine ⟨passed ++ passed', by rw [hrest, hrest', List.append_assoc], fun tags ht => ?_⟩
  rw [Event.openTags_append]
  exact hspelt' _ (hspelt tags ht)

theorem enter {c : Cursor} {p : Path} {name : Name} {uri : Option Bytes} (h : Content.pathBelow c.path name uri = .ok p)
    (es : List Event) : Passes { c with rest := .start name uri :: es } { c.entered p with rest := es } :=
  ⟨[.start name uri], rfl, fun _ ht => .cons ht h⟩

theorem leave (c : Cursor) (es : List Event) : Passes { c with rest := .finish :: es } { c.leave with rest := es } :=
  ⟨[.finish], rfl, fun _ ht => ht.outside⟩

theorem text (c : Cursor) (t : Bytes) (es : List Event) :
    Passes { c with rest := .text t :: es } { c with rest := es } :=
  ⟨[.text t], rfl, fun _ ht => ht⟩

theorem cdata (c : Cursor) (t : Bytes) (es : List Event) :
    Passes { c with rest := .cdata t :: es } { c with rest := es } :=
  ⟨[.cdata t], rfl, fun _ ht => ht⟩

end Passes

/-- Where no element is open no text is read. -/
theorem depth_of_gather {depth : Nat} : ∀ (es : List Event) (read : List Char) (c : Cursor) {t : List Char} {c' : Cursor},
    gather depth read es c = (.ok t, c') → 0 < depth
  | [], _, _, _, _, h => by cases h
  | .text x :: es, read, c, t, c', h => by
    rw [gather] at h
    split at h
    · cases hx : textOf x with
      | error e =>
        rw [hx] at h
        cases h
      | ok cs =>
        rw [hx] at h
        exact depth_of_gather es _ c h
    · exact depth_of_gather es _ c h
  | .cdata x :: es, read, c, t, c', h => by
    rw [gather] at h
    split at h <;> exact depth_of_gather es _ c h
  | .start name uri :: es, read, c, t, c', h => by
    rw [gather] at h
    cases hc : c.enter none name with
    | error e =>
      rw [hc] at h
      cases h
    | ok d =>
      rw [hc] at h
      exact depth_of_gather es read d h
  | .finish :: es, read, c, t, c', h => by
    rw [gather] at h
    split at h
    · rename_i hd
      exact Nat.zero_lt_of_lt hd
    · exact depth_of_gather es read c.leave h

theorem readText_passes {c c' : Cursor} {t : List Char} (h : c.readText = (.ok t, c')) : c.Passes c' := by
  obtain ⟨hend, ho⟩ := readText_end (depth_of_gather c.rest [] c h) h
  obtain ⟨passed, hrest, htags⟩ := Event.openTags_behindEnd c.rest hend
  refine ⟨passed, hrest, fun tags ht => ?_⟩
  rw [htags, ho, List.drop_one]
  exact ht.outside

end Cursor

namespace Scope

open Cursor (Passes)

theorem seek_passes (s : Scope) : ∀ (es : List Event) (c : Cursor) {given : Option Path},
    (s.seek es c).outcome = .ok given → Passes { c with rest := es } (s.seek es c).cursor ∧
      ∀ path, given = some path → (s.seek es c).cursor.path = path
  | [], c, given, h => by
    rw [seek] at h ⊢
    cases hf : c.fault with
    | some e =>
      rw [hf] at h
      cases h
    | none =>
      rw [hf] at h
      refine ⟨.refl _, fun path hpath => ?_⟩
      subst hpath
      simp only at h
      cases ha : s.atEnd c with
      | error e =>
        rw [ha] at h
        cases h
      | ok u =>
        rw [ha] at h
        cases h
  | .start name uri :: es, c, given, h => by
    rw [seek, Cursor.enter_eq] at h ⊢
    cases hp : Cursor.enteredPath c.path (uri.bind Vocabulary.prefixOf?) name with
    | error e =>
      rw [hp] at h
      cases h
    | ok p =>
      rw [hp] at h
      cases h
      exact ⟨.enter hp es, fun path hpath => Option.some.inj hpath⟩
  | .finish :: es, c, given, h => by
    rw [seek] at h ⊢
    split at h
    · rename_i hd
      rw [if_pos hd]
      cases h
      exact ⟨.leave c es, fun path hpath => by cases hpath⟩
    · rename_i hd
      rw [if_neg hd]
      obtain ⟨hpasses, hpath⟩ := seek_passes s es c.leave h
      exact ⟨(Passes.leave c es).trans hpasses, hpath⟩
  | .text t :: es, c, given, h => by
    obtain ⟨hpasses, hpath⟩ := seek_passes s es c h
    exact ⟨(Passes.text c t es).trans hpasses, hpath⟩
  | .cdata t :: es, c, given, h => by
    obtain ⟨hpasses, hpath⟩ := seek_passes s es c h
    exact ⟨(Passes.cdata c t es).trans hpasses, hpath⟩

theorem next_passes {s s' : Scope} {c c' : Cursor} {given : Option Path} (h : s.next c = ⟨.ok given, s', c'⟩) :
    c.Passes c' ∧ ∀ path, given = some path → c'.path = path := by
  rw [next] at h
  split at h
  · cases h
    exact ⟨.refl c, fun path hpath => by cases hpath⟩
  · have hseek := seek_passes s c.rest c (congrArg Moved.outcome h)
    rwa [h] at hseek

theorem skipFrom_passes (s : Scope) : ∀ (es : List Event) (c : Cursor), (s.skipFrom es c).outcome = .ok () →
    Passes { c with rest := es } (s.skipFrom es c).cursor
  | [], c, h => by
    rw [skipFrom] at h ⊢
    cases hf : c.fault with
    | some e =>
      rw [hf] at h
      cases h
    | none => exact .refl _
  | .start name uri :: es, c, h => by
    rw [skipFrom, Cursor.enter_eq] at h ⊢
    cases hp : Cursor.enteredPath c.path (uri.bind Vocabulary.prefixOf?) name with
    | error e =>
      rw [hp] at h
      cases h
    | ok p =>
      rw [hp] at h
      simp only [Except.map] at h ⊢
      split at h
      · exact (Passes.enter hp es).trans (skipFrom_passes s es (c.entered p) h)
      · cases h
  | .finish :: es, c, h => by
    rw [skipFrom] at h ⊢
    split at h
    · rename_i hd
      rw [if_pos hd]
      exact .leave c es
    · rename_i hd
      rw [if_neg hd]
      exact (Passes.leave c es).trans (skipFrom_passes s es c.leave h)
  | .text t :: es, c, h => (Passes.text c t es).trans (skipFrom_passes s es c h)
  | .cdata t :: es, c, h => (Passes.cdata c t es).trans (skipFrom_passes s es c h)

theorem skip_passes {s : Scope} {c : Cursor} (h : (s.skip c).outcome = .ok ()) : c.Passes (s.skip c).cursor := by
  rw [skip] at h ⊢
  split at h
  · rename_i hf
    rw [if_pos hf]
    exact .refl c
  · rename_i hf
    rw [if_neg hf]
    exact skipFrom_passes s c.rest c h

end Scope

/-- What a scope and its cursor keep, wherever they were led. -/
structure Placed (document : Bytes) (entry : Cursor) (s : Scope) (c : Cursor) : Prop where
  outside : (Cursor.ofBytes document).Passes entry
  here : (Cursor.ofBytes document).Passes c
  skipped : s.skipped = entry.path.size

theorem Reached.placed {document : Bytes} {entry c : Cursor} {s : Scope} (h : Reached document entry s c) :
    Placed document entry s c := by
  induction h with
  | document => exact ⟨.refl _, .refl _, rfl⟩
  | within _ ih => exact ⟨ih.here, ih.here, rfl⟩
  | next _ hn ih =>
    exact ⟨ih.outside, ih.here.trans (Scope.next_passes hn).1, (Scope.next_advances hn).1.skipped.trans ih.skipped⟩
  | text _ ht ih => exact ⟨ih.outside, ih.here.trans (Cursor.readText_passes ht), ih.skipped⟩
  | left _ _ hs ih ihInside => exact ⟨ih.outside, ihInside.here.trans (Scope.skip_passes hs), ih.skipped⟩

/-- **The open elements of a cursor are those of the document** where it stands. -/
theorem Cursor.Passes.spelt {document : Bytes} {c : Cursor} (h : (Cursor.ofBytes document).Passes c) :
    Spelt c.opened (tagsAt document c) := by
  obtain ⟨passed, hrest, hspelt⟩ := h
  have hitems : (Event.ofBytes document).items = passed ++ c.rest := hrest
  have htake : (Event.ofBytes document).items.take ((Event.ofBytes document).items.length - c.rest.length) = passed := by
    rw [hitems, List.length_append, Nat.add_sub_cancel, List.take_left]
  rw [tagsAt, htake]
  exact hspelt [] .nil

/-- The elements that are open at a cursor inside the one that is open at another, innermost first. -/
def tagsInside (document : Bytes) (entry c : Cursor) : List Tag :=
  (tagsAt document c).take ((tagsAt document c).length - (tagsAt document entry).length)

/-- **A path tells the chain of open elements.**  The path that a scope gives an element by has one segment for each
element that is open inside the scope, that one included, which is the element's own; but for slashes in names, and
elements without a name where the path is empty. -/
theorem Reached.chain {document : Bytes} {entry c c' : Cursor} {s s' : Scope} {path answer : Path}
    (h : Reached document entry s c) (hn : s.next c = ⟨.ok (some path), s', c'⟩) (hr : s'.relative path = .ok answer)
    (hopen : entry.opened <:+ c'.opened) (hne : answer ≠ [])
    (hplain : ∀ t ∈ tagsInside document entry c', ∀ seg, t.segment = .ok seg → '/' ∉ seg)
    (hfirst : entry.path = [] → ∀ t ∈ (tagsInside document entry c').getLast?, t.segment ≠ .ok []) :
    (tagsInside document entry c').reverse.map Tag.segment = (Path.segments answer).map .ok := by
  obtain ⟨hentry, -, hskipped⟩ := (h.next hn).placed
  have hspelt : Spelt c'.opened (tagsAt document c') := (h.next hn).placed.here.spelt
  obtain ⟨inside, hinside⟩ := hopen
  have hcount : (tagsAt document c').length - (tagsAt document entry).length = inside.length := by
    rw [← hspelt.length_eq, ← hentry.spelt.length_eq, ← hinside, List.length_append, Nat.add_sub_cancel]
  have hpath : (inside ++ entry.opened).headD [] = path := by
    rw [hinside]
    exact (Scope.next_passes hn).2 path rfl
  rw [← hinside] at hspelt
  obtain ⟨segs, hsegs, hfold⟩ := hspelt.path_of_inner
  rw [tagsInside, hcount] at hplain hfirst ⊢
  obtain ⟨rest, hrest⟩ := Path.exists_foldl_extend entry.path segs
  have hrel : rest = answer := by
    rw [← hpath, hfold] at hr
    exact Except.ok.inj ((Scope.relative_append hskipped rest).symm.trans (hrest ▸ hr))
  have hplain' : ∀ seg ∈ segs, '/' ∉ seg := by
    intro seg hseg
    have hmem : Except.ok seg ∈ ((tagsAt document c').take inside.length).reverse.map Tag.segment := by
      rw [hsegs]
      exact List.mem_map_of_mem hseg
    obtain ⟨t, ht, hts⟩ := List.mem_map.1 hmem
    exact hplain t (List.mem_reverse.1 ht) seg hts
  have hfirst' : entry.path = [] → segs.head? ≠ some [] := by
    intro hempty hhead
    have hlast : ((tagsAt document c').take inside.length).getLast?.map Tag.segment = some (.ok []) := by
      rw [← List.head?_reverse, ← List.head?_map, hsegs, List.head?_map, hhead]
      rfl
    obtain ⟨t, ht, hts⟩ := Option.map_eq_some_iff.1 hlast
    exact hfirst hempty t ht hts
  rw [hsegs, Path.segments_of_foldl (hrel ▸ hrest) hne hplain' hfirst']

/-! ## Clients that read and enter only what they were just given -/

theorem Story.reached {document : Bytes} {entry c : Cursor} {given : List Given} {fresh : Bool} {s : Scope}
    (h : Story entry given fresh s c) : Reached document entry (.within entry) entry → Reached document entry s c := by
  induction h with
  | entered entry => exact id
  | gave _ hn _ ih => exact fun he => (ih he).next hn
  | ended _ hn ih => exact fun he => (ih he).next hn
  | read _ ht ih => exact fun he => (ih he).text ht
  | descended _ _ hs ih ihInside => exact fun he => (ih he).left (ihInside (ih he).within) hs

theorem Entered.reached {document : Bytes} {entry : Cursor} (h : Entered document entry) :
    Reached document entry (.within entry) entry := by
  induction h with
  | document => exact .document
  | element _ story ih => exact (story.reached ih).within

end ScanDiscovery.Xml
