import ScanDiscovery.Proofs.Xml.Machine
/-!
# Proofs.Xml.Slicing — the path of a reader is only ever cut where it can be

The steps of a reader come to what the scope and the cursor make of its calls (`Sound.answered`): to the next element
(`comes_seek`), the text of one (`comes_gather`) or the end of a scope (`leaves_skipFrom`).  With what is kept in order
this says that no cut fails, wherever a client has come in whatever document (`slices_in_bounds`).  Specification only.
-/
namespace ScanDiscovery.Xml

namespace Machine

variable {m : Machine}

/-- The state after some steps. -/
def rounds : Nat → Machine → Machine
  | 0, m => m
  | n + 1, m => rounds n m.round

/-- Steps of the reader lead from one state to the other. -/
def Comes (m m' : Machine) : Prop := ∃ n, rounds n m = m'

theorem comes_round {m' : Machine} (h : m.round = m') : m.Comes m' := ⟨1, h⟩

theorem Comes.of_round {m₁ m' : Machine} (h : m.round = m₁) (hc : m₁.Comes m') : m.Comes m' := by
  obtain ⟨n, hn⟩ := hc
  exact ⟨n + 1, by rw [rounds, h, hn]⟩

/-- What a call for the next element comes to: one that is found is given by its path in the scope. -/
inductive Given (s : Scope) : Except Error (Option Path) → Task → Prop
  | refused (e : Error) : Given s (.error e) (.refused e)
  | ended : Given s (.ok none) (.idle none)
  | element {path rel : Path} (h : s.relative path = .ok rel) : Given s (.ok (some path)) (.idle (some rel))

/-- What a call for a text comes to. -/
def told : Except Error (List Char) → Task
  | .error e => .refused e
  | .ok _ => .idle none

/-- The reader comes to the end of the scope, and is in the one around it, or stops on the way. -/
def Leaves (m : Machine) (f : Frame) (fs : List Frame) (k : Scope.Skipped) : Prop :=
  match k.outcome with
  | .ok () => m.Comes (on f fs (.idle none) k.cursor)
  | .error e => ∃ i, m.Comes (on i (f :: fs) (.refused e) k.cursor)

theorem Leaves.of_round {m₁ : Machine} {f : Frame} {fs : List Frame} {k : Scope.Skipped} (h : m.round = m₁)
    (hl : m₁.Leaves f fs k) : m.Leaves f fs k := by
  unfold Leaves at hl ⊢
  cases hk : k.outcome with
  | ok _ =>
    rw [hk] at hl
    exact .of_round h hl
  | error e =>
    rw [hk] at hl
    obtain ⟨i, hc⟩ := hl
    exact ⟨i, .of_round h hc⟩

section

variable {entry : Cursor} {s : Scope} {f : Frame} {o : List Frame}

theorem round_seeking (entry : Cursor) (o : List Frame) (hf : s.finished = false) (leaving : Bool) (c : Cursor) :
    (on ⟨entry, s⟩ o (.seeking leaving) c).round = (on ⟨entry, s⟩ o (.seeking leaving) c).find leaving := by
  show (if s.finished then _ else _ : Machine) = _
  rw [if_neg (Bool.eq_false_iff.1 hf)]

theorem comes_seek (hf : s.finished = false) : ∀ (es : List Event) (c : Cursor), Stacked ⟨entry, s⟩ o c.opened →
    ∃ task, Given (s.seek es c).scope (s.seek es c).outcome task ∧
      (on ⟨entry, s⟩ o (.seeking false) { c with rest := es }).Comes
        (on ⟨entry, (s.seek es c).scope⟩ o task (s.seek es c).cursor)
  | [], c, h => by
    have hround := (round_seeking entry o hf false _).trans (find_nil (c := c) false)
    rw [Scope.seek]
    cases hc : c.fault with
    | some e =>
      rw [hc] at hround
      exact ⟨_, .refused e, comes_round hround⟩
    | none =>
      rw [hc] at hround
      dsimp only
      cases hs : s.atEnd c with
      | error e =>
        rw [hs] at hround
        exact ⟨_, .refused e, comes_round hround⟩
      | ok _ =>
        rw [hs] at hround
        exact ⟨_, .ended, comes_round hround⟩
  | .start name uri :: es, c, h => by
    have hround := (round_seeking entry o hf false _).trans
      (find_start (c := c) (r := es) name uri false)
    rw [Scope.seek_start]
    cases hn : Cursor.nameParts (uri.bind Vocabulary.prefixOf?) name with
    | error e =>
      rw [hn] at hround
      rw [c.enter_error hn]
      exact ⟨_, .refused e, comes_round hround⟩
    | ok n =>
      rw [hn] at hround
      rw [c.enter_ok hn]
      have hpush := h.push n
      obtain ⟨p, hrel, hgive⟩ := give_on (o := o) (t := .seeking false)
        (c := { c.entered (c.path.child n.1 n.2) with rest := es }) (hpush.inside hf) hpush.chained false
      exact ⟨_, .element hrel, comes_round (hround.trans hgive)⟩
  | .finish :: es, c, h => by
    have hround := (round_seeking entry o hf false _).trans
      (find_finish (r := es) h.chained false)
    rw [Scope.seek_finish]
    by_cases hd : c.depth = s.depth
    · rw [if_pos hd] at hround ⊢
      exact ⟨_, .ended, comes_round hround⟩
    · rw [if_neg hd] at hround ⊢
      obtain ⟨task, hgiven, hcomes⟩ := comes_seek hf es c.leave (h.pop hf (h.depth_lt hf hd))
      exact ⟨task, hgiven, .of_round hround hcomes⟩
  | .text _ :: es, c, h => by
    obtain ⟨task, hgiven, hcomes⟩ := comes_seek hf es c h
    exact ⟨task, hgiven, .of_round (round_seeking entry o hf false _) hcomes⟩
  | .cdata _ :: es, c, h => by
    obtain ⟨task, hgiven, hcomes⟩ := comes_seek hf es c h
    exact ⟨task, hgiven, .of_round (round_seeking entry o hf false _) hcomes⟩

theorem leaves_skipFrom (hf : s.finished = false) : ∀ (es : List Event) (c : Cursor),
    Stacked ⟨entry, s⟩ (f :: o) c.opened →
      (on ⟨entry, s⟩ (f :: o) (.seeking true) { c with rest := es }).Leaves f o (s.skipFrom es c)
  | [], c, h => by
    have hround := (round_seeking entry (f :: o) hf true _).trans (find_nil (c := c) true)
    rw [Scope.skipFrom]
    cases hc : c.fault with
    | some e =>
      rw [hc] at hround
      exact ⟨_, comes_round hround⟩
    | none =>
      rw [hc] at hround
      dsimp only [Leaves]
      cases hs : s.atEnd c with
      | error e =>
        rw [hs] at hround
        exact ⟨_, comes_round hround⟩
      | ok _ =>
        rw [hs] at hround
        exact comes_round hround
  | .start name uri :: es, c, h => by
    have hround := (round_seeking entry (f :: o) hf true _).trans
      (find_start (c := c) (r := es) name uri true)
    rw [Scope.skipFrom]
    cases hn : Cursor.nameParts (uri.bind Vocabulary.prefixOf?) name with
    | error e =>
      rw [hn] at hround
      rw [c.enter_error hn]
      exact ⟨_, comes_round hround⟩
    | ok n =>
      rw [hn] at hround
      rw [c.enter_ok hn]
      have hpush := h.push n
      obtain ⟨p, hrel, hgive⟩ := give_on (o := f :: o) (t := .seeking true)
        (c := { c.entered (c.path.child n.1 n.2) with rest := es }) (hpush.inside hf) hpush.chained true
      dsimp only
      rw [show s.relative (c.entered (c.path.child n.1 n.2)).path = .ok p from hrel]
      exact .of_round (hround.trans hgive) (leaves_skipFrom hf es (c.entered (c.path.child n.1 n.2)) hpush)
  | .finish :: es, c, h => by
    have hround := (round_seeking entry (f :: o) hf true _).trans
      (find_finish (r := es) h.chained true)
    rw [Scope.skipFrom]
    by_cases hd : c.depth = s.depth
    · rw [if_pos hd] at hround ⊢
      exact comes_round hround
    · rw [if_neg hd] at hround ⊢
      exact .of_round hround (leaves_skipFrom hf es c.leave (h.pop hf (h.depth_lt hf hd)))
  | .text _ :: es, c, h => .of_round (round_seeking entry (f :: o) hf true _) (leaves_skipFrom hf es c h)
  | .cdata _ :: es, c, h => .of_round (round_seeking entry (f :: o) hf true _) (leaves_skipFrom hf es c h)

theorem comes_gather {i : Frame} {depth : Nat} : ∀ (es : List Event) (read : List Char) (c : Cursor),
    Chained c.opened →
      (on i o (.reading depth read) { c with rest := es }).Comes
        (on i o (told (Cursor.gather depth read es c).1) (Cursor.gather depth read es c).2)
  | [], _, c, _ => comes_round rfl
  | .text content :: es, read, c, h => by
    have hround := gather_text (i := i) (o := o) (t := .reading depth read) (c := c) (r := es) content depth read
    rw [Cursor.gather]
    by_cases hd : c.depth = depth
    · rw [if_pos hd] at hround ⊢
      cases ht : Cursor.textOf content with
      | error e =>
        rw [ht] at hround
        exact comes_round hround
      | ok cs =>
        rw [ht] at hround
        exact .of_round hround (comes_gather es (read ++ cs) c h)
    · rw [if_neg hd] at hround ⊢
      exact .of_round hround (comes_gather es read c h)
  | .cdata content :: es, read, c, h => by
    have hround := gather_cdata (i := i) (o := o) (t := .reading depth read) (c := c) (r := es) content depth read
    rw [Cursor.gather]
    by_cases hd : c.depth = depth
    · rw [if_pos hd] at hround ⊢
      exact .of_round hround (comes_gather es (read ++ Utf8.decodeLossy content) c h)
    · rw [if_neg hd] at hround ⊢
      exact .of_round hround (comes_gather es read c h)
  | .start name uri :: es, read, c, h => by
    have hround := gather_start (i := i) (o := o) (t := .reading depth read) (c := c) (r := es) name uri depth read
    rw [Cursor.gather]
    cases hn : Cursor.nameParts none name with
    | error e =>
      rw [hn] at hround
      rw [c.enter_error hn]
      exact comes_round hround
    | ok n =>
      rw [hn] at hround
      rw [c.enter_ok hn]
      exact .of_round hround (comes_gather es read (c.entered (c.path.child n.1 n.2)) (h.child n.1 n.2))
  | .finish :: es, read, c, h => by
    have hround := gather_finish (i := i) (o := o) (t := .reading depth read) (r := es) h depth read
    rw [Cursor.gather]
    by_cases hd : c.leave.depth < depth
    · rw [if_pos hd] at hround ⊢
      exact comes_round hround
    · rw [if_neg hd] at hround ⊢
      exact .of_round hround (comes_gather es read c.leave h.tail)

end

/-- **What the steps of a reader come to** is what the scope and the cursor make of the call. -/
structure Answered (m : Machine) : Prop where
  next : ∃ task, Given (m.inner.scope.next m.cursor).scope (m.inner.scope.next m.cursor).outcome task ∧
    (m.doing (.seeking false)).Comes
      (on ⟨m.inner.entry, (m.inner.scope.next m.cursor).scope⟩ m.outer task (m.inner.scope.next m.cursor).cursor)
  text : (m.doing (.reading m.cursor.depth [])).Comes
    (on m.inner m.outer (told m.cursor.readText.1) m.cursor.readText.2)
  leave : ∀ f fs, m.outer = f :: fs →
    (m.doing (.seeking true)).Leaves f fs (m.inner.scope.skip m.cursor)

theorem Sound.doing_eq (h : m.Sound) (t : Task) : m.doing t = Machine.on m.inner m.outer t m.cursor := by
  rw [Machine.on, ← h.trail, doing]

/-- A scope that is at its end has no more elements. -/
theorem round_finished {i : Frame} (hf : i.scope.finished = true) (o : List Frame) (leaving : Bool) (c : Cursor) :
    (on i o (.seeking leaving) c).round = (on i o (.seeking leaving) c).close leaving := by
  show (if i.scope.finished then _ else _ : Machine) = _
  rw [if_pos hf]

theorem Sound.answered (h : m.Sound) : m.Answered where
  next := by
    rw [h.doing_eq]
    cases hf : m.inner.scope.finished with
    | true =>
      rw [Scope.next, if_pos hf]
      exact ⟨_, .ended, comes_round (round_finished hf m.outer false m.cursor)⟩
    | false =>
      rw [Scope.next_eq_seek hf]
      exact comes_seek hf m.cursor.rest m.cursor h.stacked
  text := by
    rw [h.doing_eq]
    exact comes_gather m.cursor.rest [] m.cursor h.stacked.chained
  leave := fun f fs ho => by
    rw [h.doing_eq, ho]
    cases hf : m.inner.scope.finished with
    | true =>
      rw [Scope.skip, if_pos hf]
      exact comes_round (round_finished hf (f :: fs) true m.cursor)
    | false =>
      rw [Scope.skip, if_neg (Bool.eq_false_iff.1 hf)]
      exact leaves_skipFrom hf m.cursor.rest m.cursor (ho ▸ h.stacked)

/-- **No cut fails.**  Wherever a client has come in a document, the lengths recorded do not grow outwards, and each is
that of a beginning of the path, so that the end of an element can cut the path back; and the path begins with that of
the element on which a scope was entered, whose length the scope has, so that what lies behind it can be given.  What
the reader does step by step is what the scope and the cursor make of the calls. -/
theorem slices_in_bounds {document : Bytes} (h : Reachable document m) :
    m.task ≠ .broken ∧ m.trail = m.cursor.trail ∧
      m.trail.lengths.Pairwise (· ≥ ·) ∧
      (∀ n ∈ m.trail.lengths, n ≤ m.trail.path.size ∧ ∃ q : Path, q <+: m.trail.path ∧ q.size = n) ∧
      (∃ t, m.trail.pop? = some t) ∧
      (∀ f ∈ m.inner :: m.outer, f.scope.finished = false →
        f.scope = .within f.entry ∧ f.entry.path <+: m.trail.path ∧ f.scope.skipped ≤ m.trail.path.size ∧
          ∃ rel, m.trail.path.dropBytes? f.scope.skipped = some rel) ∧
      m.Answered := by
  have hs := h.sound
  have hchained := hs.stacked.chained
  refine ⟨fun hb => ?_, hs.trail, ?_⟩
  · have hfits := hs.fits
    rw [hb] at hfits
    exact hfits
  -- what is kept as one text is told by the cursor, whose open elements carry the argument
  rw [hs.trail]
  refine ⟨hchained.recorded_descends, fun n hn => ?_, ⟨_, Cursor.trail_pop hchained⟩, fun f hf hopen => ?_,
    hs.answered⟩
  · obtain ⟨q, hq, rfl⟩ := hchained.prefix_of_recorded n hn
    exact ⟨Path.size_le_of_prefix hq, q, hq, rfl⟩
  · have hholds : f.Holds m.cursor.opened := by
      rcases List.mem_cons.1 hf with rfl | hf
      · exact hs.stacked.inside hopen
      · exact hs.stacked.around f hf
    obtain ⟨rel, hrel, hdrop⟩ := hholds.cut hchained
    refine ⟨hholds.scope, ⟨rel, hrel⟩, ?_, rel, hdrop⟩
    rw [hholds.scope]
    exact Path.size_le_of_prefix ⟨rel, hrel⟩

/-- An element inside another one, with characters of two bytes in the path. -/
def sampleNested : Bytes := Utf8.encode "<é:ü xmlns:é='u'><b/></é:ü>".toList

/-- The reader at the inner element, in the scope of the outer one. -/
def sampleInside : Machine :=
  (((ofBytes sampleNested).doing (.seeking false)).round.descended.doing (.seeking false)).round

theorem sampleInside_in_bounds : Reachable sampleNested sampleInside ∧
    sampleInside.trail = ⟨"é:ü/b".toList, [5, 0]⟩ ∧ sampleInside.task = .idle (some "/b".toList) ∧
      sampleInside.inner.scope.skipped = 5 ∧ ∃ t, sampleInside.trail.pop? = some t := by
  have hroot : Reachable sampleNested ((ofBytes sampleNested).doing (.seeking false)).round := .round (.next .start rfl)
  have h : Reachable sampleNested sampleInside :=
    .round (.next (.descend (p := "é:ü".toList) hroot (by decide +kernel)) rfl)
  exact ⟨h, by decide +kernel, by decide +kernel, by decide +kernel, (slices_in_bounds h).2.2.2.2.1⟩

end Machine

end ScanDiscovery.Xml
