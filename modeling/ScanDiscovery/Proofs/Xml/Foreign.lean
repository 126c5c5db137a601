import Mathlib.Data.List.TakeWhile
import ScanDiscovery.Proofs.Text.Ascii
import ScanDiscovery.Proofs.Xml.Passing
import ScanDiscovery.Proofs.Xml.Visiting
/-!
# Proofs.Xml.Foreign — elements of other vocabularies

In the paths that a script looks for, one of a few prefixes stands behind every slash (`Path.Anchored`).  An element
whose namespace is not known has the prefix of the document in paths, so where that is another one, neither the element
nor anything below it has a path that is looked for: scripts pass it (`passes_foreign`).  Specification only.
-/
namespace ScanDiscovery.Xml

namespace Path

/-- One of some prefixes stands at the beginning of a path. -/
def Begins (prefixes : List (List Char)) (p : Path) : Prop := ∃ q ∈ prefixes, q ++ [':'] <+: p

instance (prefixes : List (List Char)) (p : Path) : Decidable (Begins prefixes p) :=
  inferInstanceAs (Decidable (∃ q ∈ prefixes, _))

/-- One of some prefixes stands behind every slash of a path. -/
def Anchored (prefixes : List (List Char)) : Path → Prop
  | [] => True
  | c :: p => (c = '/' → Begins prefixes p) ∧ Anchored prefixes p

instance (prefixes : List (List Char)) : ∀ p : Path, Decidable (Anchored prefixes p)
  | [] => inferInstanceAs (Decidable True)
  | c :: p =>
    have : Decidable (Anchored prefixes p) := instDecidableAnchored prefixes p
    inferInstanceAs (Decidable ((c = '/' → _) ∧ _))

variable {prefixes : List (List Char)}

theorem Anchored.behind : ∀ {p q : Path}, Anchored prefixes (p ++ '/' :: q) → Begins prefixes q
  | [], _, h => h.1 rfl
  | _ :: _, _, h => behind h.2

theorem qualified_ne_nil {qualifier : Option (List Char)} {localPart : List Char}
    (h : (qualifier, localPart) ≠ (none, [])) : qualified qualifier localPart ≠ [] := by
  cases qualifier with
  | none => exact fun hnil => h (congrArg (Prod.mk none) hnil)
  | some q => exact List.append_ne_nil_of_right_ne_nil _ (List.cons_ne_nil _ _)

end Path

/-- The prefix of a name has no colon in it, and neither has a name without one. -/
theorem Cursor.not_colon_mem {name : Name} {n : Option (List Char) × List Char} (h : nameParts none name = .ok n) :
    ':' ∉ n.1.getD n.2 := by
  have hbytes : ∀ {bs : Bytes} {cs : List Char}, nameText bs = .ok cs → Name.colon ∉ bs → ':' ∉ cs := by
    intro bs cs htext hbs hcs
    unfold nameText at htext
    cases hd : Utf8.decode bs with
    | error e =>
      rw [hd] at htext
      cases htext
    | ok ds =>
      rw [hd] at htext
      cases htext
      exact hbs (Utf8.mem_of_decode hd hcs (by decide) (by decide))
  unfold nameParts at h
  cases hl : nameText name.localPart with
  | error e =>
    rw [hl] at h
    cases h
  | ok localPart =>
    rw [hl] at h
    by_cases hcolon : Name.colon ∈ name.bytes
    · have hq : name.qualifier = some (name.bytes.takeWhile (· ≠ Name.colon)) := if_pos hcolon
      simp only [hq] at h
      obtain ⟨q, htext, rfl⟩ := map_eq_ok.1 h
      refine hbytes htext fun hmem => ?_
      simpa using List.mem_takeWhile_imp hmem
    · have hq : name.qualifier = none := if_neg hcolon
      have hlocal : name.localPart = name.bytes := if_neg hcolon
      rw [hlocal] at hl
      simp only [hq] at h
      cases h
      exact hbytes hl hcolon

theorem takeWhile_colon {u v : List Char} (hu : ':' ∉ u) : (u ++ ':' :: v).takeWhile (· ≠ ':') = u := by
  have hall : ∀ c ∈ u, decide (c ≠ ':') = true := fun c hc => decide_eq_true fun he => hu (he ▸ hc)
  rw [List.takeWhile_append_of_pos hall, List.takeWhile_cons_of_neg (by simp), List.append_nil]

/-- **A name with another prefix** is nowhere in a path where one of the prefixes is looked for. -/
theorem Path.not_begins {prefixes : List (List Char)} (hplain : ∀ q ∈ prefixes, ':' ∉ q ∧ '/' ∉ q) {name : Name}
    {n : Option (List Char) × List Char} (hn : Cursor.nameParts none name = .ok n)
    (hother : ∀ q ∈ prefixes, n.1 ≠ some q) {tail : Path} (htail : ∀ c ∈ tail.head?, c = '/') :
    ¬ Begins prefixes (qualified n.1 n.2 ++ tail) := by
  rintro ⟨q, hq, hprefix⟩
  obtain ⟨hcolon, hslash⟩ := hplain q hq
  have hfree : ':' ∉ n.1.getD n.2 := Cursor.not_colon_mem hn
  obtain ⟨qualifier, localPart⟩ := n
  cases qualifier with
  | some q' =>
    have hfree : ':' ∉ q' := hfree
    obtain ⟨more, hmore⟩ := hprefix
    rw [qualified, List.append_assoc, List.append_assoc, List.singleton_append, List.cons_append] at hmore
    have hsame := congrArg (List.takeWhile (· ≠ ':')) hmore
    rw [takeWhile_colon hcolon, takeWhile_colon hfree] at hsame
    exact hother q hq (congrArg some hsame.symm)
  | none =>
    have hfree : ':' ∉ localPart := hfree
    rw [qualified] at hprefix
    rcases List.prefix_or_prefix_of_prefix hprefix (List.prefix_append localPart tail) with hin | ⟨more, hmore⟩
    · exact hfree (hin.subset (List.mem_append_right q List.mem_cons_self))
    · rw [← hmore, List.prefix_append_right_inj] at hprefix
      cases more with
      | nil =>
        rw [List.append_nil] at hmore
        exact hfree (hmore ▸ List.mem_append_right q List.mem_cons_self)
      | cons c more =>
        obtain ⟨rest, rfl⟩ := hprefix
        obtain rfl : c = '/' := htail c rfl
        have hmem : '/' ∈ q ++ [':'] := hmore ▸ List.mem_append_right localPart List.mem_cons_self
        rcases List.mem_append.1 hmem with hmem | hmem
        · exact hslash hmem
        · exact absurd (List.mem_singleton.1 hmem) (by decide)

/-! ## The elements of a tree -/

/-- A name that is a text has a path, under whatever prefix. -/
theorem Content.pathBelow_of_nameParts {name : Name} {n : Option (List Char) × List Char}
    (h : Cursor.nameParts none name = .ok n) (parent : Path) (uri : Option Bytes) :
    ∃ p, pathBelow parent name uri = .ok p := by
  rw [pathBelow, Cursor.enteredPath_eq]
  cases hu : uri.bind Vocabulary.prefixOf? with
  | none => exact ⟨_, by rw [h]; rfl⟩
  | some known =>
    unfold Cursor.nameParts at h ⊢
    cases hl : Cursor.nameText name.localPart with
    | error e =>
      rw [hl] at h
      cases h
    | ok localPart => exact ⟨_, rfl⟩

/-- **The elements that the events of a tree begin** are those of the tree, if all names are texts. -/
theorem Event.begun_content {own : Option Path} : ∀ {k : Content} {inner : List (Option Path)} {parent : Path}
    (es : List Event), k.named = .ok () → inner.headD own = some parent →
      (begun own inner (k.events ++ es)).map Element.path =
        (k.elements (fun _ => true) parent).map (fun x => some x.1) ++ (begun own inner es).map Element.path
  | .nil, inner, parent, es, _, _ => rfl
  | .text _ rest, inner, parent, es, hk, hhead => by
    have ih := begun_content (k := rest) es hk hhead
    cases inner <;> exact ih
  | .cdata _ rest, inner, parent, es, hk, hhead => by
    have ih := begun_content (k := rest) es hk hhead
    cases inner <;> exact ih
  | .element name uri inside rest, inner, parent, es, hk, hhead => by
    obtain ⟨n, hn, hk⟩ := bind_eq_ok.1 hk
    obtain ⟨u, hinside, hrest⟩ := bind_eq_ok.1 hk
    obtain ⟨p, hp⟩ := Content.pathBelow_of_nameParts hn parent uri
    have hhead' : (some p :: inner).headD own = some p := rfl
    have ihInside := begun_content (.finish :: (rest.events ++ es)) hinside hhead'
    have ihRest := begun_content (k := rest) es hrest hhead
    simp only [Content.events, List.cons_append, List.append_assoc, begun, hhead, Option.bind_some, hp,
      Except.toOption, List.map_cons, Content.elements, if_true, List.map_append, List.nil_append,
      ihInside, ihRest]

/-! ## What a script passes -/

/-- The path of an open element begins with that of the element around it. -/
def Event.Chained : List (Option Path) → Prop
  | [] => True
  | path :: outer =>
    (∀ p, path = some p → ∃ parent rel, outer.headD (some []) = some parent ∧ p = parent ++ rel) ∧ Chained outer

theorem Event.chained_openPaths : ∀ (es : List Event) {stack : List (Option Path)}, Chained stack →
    Chained (openPaths stack es)
  | [], _, h => h
  | .start name uri :: es, stack, h => by
    refine chained_openPaths es ⟨fun p hp => ?_, h⟩
    obtain ⟨parent, hparent, hp⟩ := Option.bind_eq_some_iff.1 hp
    obtain ⟨rel, hrel⟩ := Walk.pathBelow_append (List.append_nil parent).symm (toOption_eq_some.1 hp)
    exact ⟨parent, rel, hparent, hrel⟩
  | .finish :: es, [], _ => chained_openPaths es trivial
  | .finish :: es, _ :: _, h => chained_openPaths es h.2
  | .text _ :: es, _, h => chained_openPaths es h
  | .cdata _ :: es, _, h => chained_openPaths es h

namespace Script

variable {κ τ δ φ ε : Type} (m : Script κ τ δ φ ε) {prefixes : List (List Char)}

/-- All paths that a script looks for go by some prefixes. -/
structure Prefixed (prefixes : List (List Char)) : Prop where
  plain : ∀ q ∈ prefixes, ':' ∉ q ∧ '/' ∉ q
  anchored : ∀ k rel part, m.part k rel = some part → rel ≠ [] ∧ Path.Anchored prefixes rel
  begins : ∀ rel part, m.part m.root rel = some part → Path.Begins prefixes rel

variable {m}

/-- Only the whole document is a section with an empty path. -/
theorem Prefixed.base_of_stands (hm : m.Prefixed prefixes) : ∀ {stack : List (Option Path)} {k : κ} {base : Path},
    Event.Chained stack → m.stands stack = .within k base →
      (∃ rel, stack.headD (some []) = some (base ++ rel)) ∧ (base = [] → k = m.root)
  | [], k, base, _, h => by
    cases h
    exact ⟨⟨[], rfl⟩, fun _ => rfl⟩
  | path :: outer, k, base, hchain, h => by
    cases hout : m.stands outer with
    | reading =>
      rw [m.stands_reading hout] at h
      cases h
    | unread =>
      simp only [stands, hout] at h
      cases h
    | within k' base' =>
      cases path with
      | none =>
        simp only [stands, hout] at h
        cases h
      | some p =>
        rw [m.stands_within hout] at h
        obtain ⟨⟨rel, hhead⟩, hroot⟩ := base_of_stands hm hchain.2 hout
        obtain ⟨parent, more, hparent, rfl⟩ := hchain.1 p rfl
        obtain rfl : base' ++ rel = parent := Option.some.inj (hhead.symm.trans hparent)
        cases hpart : m.part k' ((base' ++ rel ++ more).drop base'.length) with
        | none =>
          simp only [hpart] at h
          cases h
          exact ⟨⟨rel ++ more, by rw [List.headD_cons, List.append_assoc]⟩, hroot⟩
        | some part =>
          simp only [hpart] at h
          cases part with
          | text t => cases h
          | within k'' =>
            cases h
            refine ⟨⟨[], by rw [List.append_nil]; rfl⟩, fun hnil => absurd ?_ (hm.anchored _ _ _ hpart).1⟩
            rw [hnil, List.drop_nil]

/-- No path that begins with that of an element with another prefix is looked for. -/
theorem Prefixed.part_foreign (hm : m.Prefixed prefixes) {k : κ} {base rel : Path} (hroot : base = [] → k = m.root)
    {name : Name} {n : Option (List Char) × List Char} (hn : Cursor.nameParts none name = .ok n)
    (hother : ∀ q ∈ prefixes, n.1 ≠ some q) {tail : Path} (htail : ∀ c ∈ tail.head?, c = '/') :
    m.part k (((base ++ rel).child n.1 n.2 ++ tail).drop base.length) = none := by
  have hnot : ¬ Path.Begins prefixes (Path.qualified n.1 n.2 ++ tail) :=
    Path.not_begins hm.plain hn hother htail
  refine Option.eq_none_iff_forall_not_mem.2 fun part hpart => hnot ?_
  by_cases hempty : base ++ rel = []
  · obtain ⟨rfl, rfl⟩ := List.append_eq_nil_iff.1 hempty
    rw [hroot rfl] at hpart
    exact hm.begins _ part hpart
  · have hdrop : ((base ++ rel).child n.1 n.2 ++ tail).drop base.length =
        rel ++ '/' :: (Path.qualified n.1 n.2 ++ tail) := by
      rw [Path.child, if_neg (by simpa using hempty), List.append_assoc, List.append_assoc, List.drop_left,
        List.cons_append]
    rw [hdrop] at hpart
    exact (hm.anchored _ _ part hpart).2.behind

/-- **An element of another vocabulary is passed**, with everything in it, if it goes by a prefix that no path has. -/
theorem Prefixed.passes_foreign (hm : m.Prefixed prefixes) {outer : List (Option Path)} (hchain : Event.Chained outer)
    (hreading : m.stands outer ≠ .reading) {name : Name} {uri : Option Bytes} {inside : Content}
    {n : Option (List Char) × List Char} (hforeign : uri.bind Vocabulary.prefixOf? = none)
    (hn : Cursor.nameParts none name = .ok n) (hinside : inside.named = .ok ())
    (hne : outer.headD (some []) = some [] → n ≠ (none, [])) (hother : ∀ q ∈ prefixes, n.1 ≠ some q) :
    m.passes outer (Content.element name uri inside .nil).events = true := by
  rw [passes]
  cases hstands : m.stands outer with
  | reading => exact absurd hstands hreading
  | unread => rfl
  | within k base =>
    obtain ⟨⟨rel, hhead⟩, hroot⟩ := hm.base_of_stands hchain hstands
    have hnamed : (Content.element name uri inside .nil).named = .ok () := by
      rw [Content.named, hn, Except.bind, hinside]
      rfl
    have hpath : Content.pathBelow (base ++ rel) name uri = .ok ((base ++ rel).child n.1 n.2) := by
      rw [Content.pathBelow, hforeign, Cursor.enteredPath_eq, hn]
      rfl
    have hne' : (base ++ rel).child n.1 n.2 ≠ [] := by
      unfold Path.child
      split
      · rename_i hempty
        exact Path.qualified_ne_nil (hne (by rw [hhead, List.isEmpty_iff.1 hempty]))
      · exact List.append_ne_nil_of_right_ne_nil _ (List.cons_ne_nil _ _)
    refine List.all_eq_true.2 fun e he => ?_
    have hmem := List.mem_map_of_mem (f := Element.path) he
    rw [hhead, ← List.append_nil (Content.events _), Event.begun_content [] hnamed rfl] at hmem
    simp only [Content.elements, hpath, if_true, Event.begun, List.map_nil, List.append_nil,
      List.map_cons, List.singleton_append, List.mem_cons] at hmem
    rcases hmem with hown | hbelow
    · have hnone : m.part k (((base ++ rel).child n.1 n.2 ++ []).drop base.length) = none :=
        hm.part_foreign hroot hn hother fun c hc => by cases hc
      rw [List.append_nil] at hnone
      rw [hown, Option.any_some, hnone]
      rfl
    · obtain ⟨x, hx, hxe⟩ := List.mem_map.1 hbelow
      obtain ⟨below, hxp, -⟩ := Content.elements_below hne' inside _ (.inl rfl) x hx
      have hnone : m.part k (((base ++ rel).child n.1 n.2 ++ '/' :: below).drop base.length) = none :=
        hm.part_foreign hroot hn hother fun c hc => (Option.some.inj hc).symm
      rw [← hxe, Option.any_some, hxp, hnone]
      rfl

end Script

end ScanDiscovery.Xml
