import ScanDiscovery.Proofs.Xml.Bindings
import ScanDiscovery.Proofs.Xml.Story
/-!
# Proofs.Xml.Resuming — where a reader goes on after an element

An element that was just given can be read as a text, or entered by a client that does what it likes inside and stops
where it likes, and even gives up the elements that it has entered itself.  Whatever is done, the cursor stands on
behind the end of the element (`Consumed.resumed`): the client may be in the midst of the element, and then what it left
is passed over, or at its end, and then nothing is (`Bounded`).  A walk that reads and enters only what it was just given
is such a client (`Walk.consumed_of_run`).  Specification only.
-/
namespace ScanDiscovery.Xml

/-- A client of the scope that was entered at `entry`, which met no fault so far; `fresh` says whether the last call
gave an element.  An element is read or entered directly after it was given, if at all. -/
inductive Client : (entry : Cursor) → (fresh : Bool) → Scope → Cursor → Prop
  | entered (entry : Cursor) : Client entry false (.within entry) entry
  | next {entry : Cursor} {fresh : Bool} {s s' : Scope} {c c' : Cursor} {given : Option Path}
      (h : Client entry fresh s c) (hn : s.next c = ⟨.ok given, s', c'⟩) : Client entry given.isSome s' c'
  | read {entry : Cursor} {s : Scope} {c c' : Cursor} {t : List Char} (h : Client entry true s c)
      (ht : c.readText = (.ok t, c')) : Client entry false s c'
  | descended {entry : Cursor} {fresh : Bool} {s si : Scope} {c ci : Cursor} (h : Client entry true s c)
      (inside : Client c fresh si ci) (hs : (si.skip ci).outcome = .ok ()) : Client entry false s (si.skip ci).cursor
  /-- the client inside fails for a reason of its own, and the one outside goes on from there -/
  | abandoned {entry : Cursor} {fresh : Bool} {s si : Scope} {c ci : Cursor} (h : Client entry true s c)
      (inside : Client c fresh si ci) : Client entry false s ci

/-- An element that was just given is read, or entered by a client that leaves it. -/
inductive Consumed (c : Cursor) : Cursor → Prop
  | read {c' : Cursor} {t : List Char} (ht : c.readText = (.ok t, c')) : Consumed c c'
  | left {fresh : Bool} {s : Scope} {ci : Cursor} (inside : Client c fresh s ci)
      (hs : (s.skip ci).outcome = .ok ()) : Consumed c (s.skip ci).cursor

/-- Wherever calls have led in a document, of whatever scopes, refused or not. -/
inductive Wandered (document : Bytes) : Cursor → Prop
  | start : Wandered document (.ofBytes document)
  | next {c : Cursor} (h : Wandered document c) (s : Scope) : Wandered document (s.next c).cursor
  | text {c : Cursor} (h : Wandered document c) : Wandered document c.readText.2
  | skip {c : Cursor} (h : Wandered document c) (s : Scope) : Wandered document (s.skip c).cursor

/-! ## Moves -/

/-- **The end of an element around another one** comes behind the end of that. -/
theorem Event.behindEnd_bind (m : Nat) : ∀ (es : List Event) (n : Nat),
    behindEnd (n + (m + 1)) es = (behindEnd n es).bind (behindEnd m)
  | [], _ => rfl
  | .start _ _ :: es, n => by
    rw [behindEnd, behindEnd, Nat.add_right_comm]
    exact behindEnd_bind m es (n + 1)
  | .finish :: es, 0 => by rw [Nat.zero_add, behindEnd, behindEnd, Option.bind_some]
  | .finish :: es, n + 1 => by
    rw [Nat.add_right_comm, behindEnd, behindEnd]
    exact behindEnd_bind m es n
  | .text _ :: es, n => behindEnd_bind m es n
  | .cdata _ :: es, n => behindEnd_bind m es n

namespace Cursor

theorem gather_rooted {depth : Nat} : ∀ (es : List Event) (read : List Char) (c : Cursor), c.rooted = true →
    (gather depth read es c).2.rooted = true
  | [], _, _, h => h
  | .text x :: es, read, c, h => by
    rw [gather]
    split
    · cases textOf x with
      | error e => exact h
      | ok cs => exact gather_rooted es _ c h
    · exact gather_rooted es _ c h
  | .cdata x :: es, read, c, h => by
    rw [gather]
    split <;> exact gather_rooted es _ c h
  | .start name uri :: es, read, c, h => by
    rw [gather, enter_eq]
    cases enteredPath c.path none name with
    | error e => exact h
    | ok p => exact gather_rooted es _ (c.entered p) rfl
  | .finish :: es, read, c, h => by
    rw [gather]
    split
    · exact h
    · exact gather_rooted es _ c.leave h

theorem gather_suffix {depth : Nat} : ∀ (es : List Event) (read : List Char) (c : Cursor),
    (gather depth read es c).2.rest <:+ es
  | [], _, _ => List.suffix_refl _
  | .text x :: es, read, c => by
    rw [gather]
    split
    · cases textOf x with
      | error e => exact List.suffix_cons _ _
      | ok cs => exact (gather_suffix es _ c).trans (List.suffix_cons _ _)
    · exact (gather_suffix es _ c).trans (List.suffix_cons _ _)
  | .cdata x :: es, read, c => by
    rw [gather]
    split <;> exact (gather_suffix es _ c).trans (List.suffix_cons _ _)
  | .start name uri :: es, read, c => by
    rw [gather]
    cases c.enter none name with
    | error e => exact List.suffix_cons _ _
    | ok c => exact (gather_suffix es _ c).trans (List.suffix_cons _ _)
  | .finish :: es, read, c => by
    rw [gather]
    split
    · exact List.suffix_cons _ _
    · exact (gather_suffix es _ c.leave).trans (List.suffix_cons _ _)

end Cursor

namespace Scope

theorem skipFrom_rooted (s : Scope) : ∀ (es : List Event) (c : Cursor), c.rooted = true →
    (s.skipFrom es c).cursor.rooted = true
  | [], c, h => by
    rw [skipFrom]
    cases c.fault <;> exact h
  | .start name uri :: es, c, h => by
    rw [skipFrom, Cursor.enter_eq]
    cases Cursor.enteredPath c.path (uri.bind Vocabulary.prefixOf?) name with
    | error e => exact h
    | ok p =>
      simp only [Except.map]
      split
      · exact skipFrom_rooted s es (c.entered p) rfl
      · rfl
  | .finish :: es, c, h => by
    rw [skipFrom]
    split
    · exact h
    · exact skipFrom_rooted s es c.leave h
  | .text _ :: es, c, h => skipFrom_rooted s es c h
  | .cdata _ :: es, c, h => skipFrom_rooted s es c h

theorem skip_rooted (s : Scope) {c : Cursor} (h : c.rooted = true) : (s.skip c).cursor.rooted = true := by
  rw [skip]
  split
  · exact h
  · exact skipFrom_rooted s c.rest c h

theorem skipFrom_suffix (s : Scope) : ∀ (es : List Event) (c : Cursor), (s.skipFrom es c).cursor.rest <:+ es
  | [], c => by
    rw [skipFrom]
    cases c.fault <;> exact List.suffix_refl _
  | .start name uri :: es, c => by
    rw [skipFrom]
    cases c.enter (uri.bind Vocabulary.prefixOf?) name with
    | error e => exact List.suffix_cons _ _
    | ok c =>
      simp only []
      cases s.relative c.path with
      | error e => exact List.suffix_cons _ _
      | ok q => exact (skipFrom_suffix s es c).trans (List.suffix_cons _ _)
  | .finish :: es, c => by
    rw [skipFrom]
    split
    · exact List.suffix_cons _ _
    · exact (skipFrom_suffix s es c.leave).trans (List.suffix_cons _ _)
  | .text _ :: es, c => (skipFrom_suffix s es c).trans (List.suffix_cons _ _)
  | .cdata _ :: es, c => (skipFrom_suffix s es c).trans (List.suffix_cons _ _)

theorem seek_suffix (s : Scope) : ∀ (es : List Event) (c : Cursor), (s.seek es c).cursor.rest <:+ es
  | [], c => by
    rw [seek]
    cases c.fault <;> exact List.suffix_refl _
  | .start name uri :: es, c => by
    rw [seek, Cursor.enter_eq]
    cases Cursor.enteredPath c.path (uri.bind Vocabulary.prefixOf?) name <;> exact List.suffix_cons _ _
  | .finish :: es, c => by
    rw [seek]
    split
    · exact List.suffix_cons _ _
    · exact (seek_suffix s es c.leave).trans (List.suffix_cons _ _)
  | .text _ :: es, c => (seek_suffix s es c).trans (List.suffix_cons _ _)
  | .cdata _ :: es, c => (seek_suffix s es c).trans (List.suffix_cons _ _)

/-- **The cursor stands inside the element that was just given**, below the elements that are open around it. -/
theorem seek_gave (s : Scope) : ∀ (es : List Event) (c : Cursor) {path : Path},
    (s.seek es c).outcome = .ok (some path) →
      ∃ name uri parents, .start name uri :: (s.seek es c).cursor.rest <:+ es ∧
        (s.seek es c).cursor.opened = path :: parents ∧ (s.seek es c).cursor.rooted = true ∧
        Content.pathBelow (parents.headD []) name uri = .ok path
  | [], c, path, h => by
    rw [seek] at h
    cases hf : c.fault with
    | some e => rw [hf] at h; cases h
    | none =>
      rw [hf] at h
      simp only at h
      cases ha : s.atEnd c <;> rw [ha] at h <;> cases h
  | .start name uri :: es, c, path, h => by
    rw [seek, Cursor.enter_eq] at h ⊢
    cases hp : Cursor.enteredPath c.path (uri.bind Vocabulary.prefixOf?) name with
    | error e => rw [hp] at h; cases h
    | ok p =>
      rw [hp] at h
      cases h
      exact ⟨name, uri, c.opened, List.suffix_refl _, rfl, rfl, hp⟩
  | .finish :: es, c, path, h => by
    rw [seek] at h ⊢
    split at h
    · cases h
    · rename_i hd
      rw [if_neg hd]
      obtain ⟨name, uri, parents, hs, hrest⟩ := seek_gave s es c.leave h
      exact ⟨name, uri, parents, hs.trans (List.suffix_cons _ _), hrest⟩
  | .text _ :: es, c, path, h => by
    obtain ⟨name, uri, parents, hs, hrest⟩ := seek_gave s es c h
    exact ⟨name, uri, parents, hs.trans (List.suffix_cons _ _), hrest⟩
  | .cdata _ :: es, c, path, h => by
    obtain ⟨name, uri, parents, hs, hrest⟩ := seek_gave s es c h
    exact ⟨name, uri, parents, hs.trans (List.suffix_cons _ _), hrest⟩

theorem next_gave {s s' : Scope} {c c' : Cursor} {path : Path} (h : s.next c = ⟨.ok (some path), s', c'⟩) :
    ∃ name uri parents, .start name uri :: c'.rest <:+ c.rest ∧ c'.opened = path :: parents ∧ c'.rooted = true ∧
      Content.pathBelow (parents.headD []) name uri = .ok path := by
  have hf : s.finished = false := by
    cases hfin : s.finished with
    | false => rfl
    | true =>
      rw [Scope.next, if_pos hfin] at h
      cases h
  rw [Scope.next_eq_seek hf] at h
  have hgave := s.seek_gave c.rest c (congrArg Scope.Moved.outcome h)
  rw [h] at hgave
  exact hgave

end Scope

theorem Wandered.suffix {document : Bytes} {c : Cursor} (h : Wandered document c) :
    c.rest <:+ (Event.ofBytes document).items := by
  induction h with
  | start => exact List.suffix_refl _
  | next h s ih =>
    refine List.IsSuffix.trans ?_ ih
    rw [Scope.next]
    split
    · exact List.suffix_refl _
    · exact s.seek_suffix _ _
  | text h ih => exact (Cursor.gather_suffix _ _ _).trans ih
  | skip h s ih =>
    refine List.IsSuffix.trans ?_ ih
    rw [Scope.skip]
    split
    · exact List.suffix_refl _
    · exact s.skipFrom_suffix _ _

/-! ## Clients -/

/-- The cursor stands behind the end of the element that it was in at `c`. -/
structure Resumed (c c' : Cursor) : Prop where
  rest : Event.behindEnd 0 c.rest = some c'.rest
  opened : c'.opened = c.opened.tail
  fault : c'.fault = c.fault
  rooted : c'.rooted = true

/-- The cursor stands in the element that it was in at `entry`, and the elements at the paths `inner` are open inside. -/
structure Amid (entry : Cursor) (inner : List Path) (c : Cursor) : Prop where
  opened : c.opened = inner ++ entry.opened
  ends : Event.behindEnd inner.length c.rest = Event.behindEnd 0 entry.rest
  fault : c.fault = entry.fault
  rooted : c.rooted = true

/-- **What a client cannot leave**: its scope has come to the end of its element, or its cursor is in the midst of it. -/
structure Bounded (entry : Cursor) (fresh : Bool) (s : Scope) (c : Cursor) : Prop where
  depth : s.depth = entry.depth
  amid : s.finished = false → ∃ inner, Amid entry inner c
  behind : s.finished = true → Resumed entry c
  fresh : fresh = true → s.finished = false ∧ entry.depth < c.depth

theorem Resumed.unique {c c₁ c₂ : Cursor} (h₁ : Resumed c c₁) (h₂ : Resumed c c₂) : c₁ = c₂ := by
  obtain ⟨hrest₁, hopened₁, hfault₁, hrooted₁⟩ := h₁
  obtain ⟨hrest₂, hopened₂, hfault₂, hrooted₂⟩ := h₂
  obtain ⟨rest, fault, opened, rooted⟩ := c₁
  obtain ⟨rest', fault', opened', rooted'⟩ := c₂
  obtain rfl : rest = rest' := Option.some.inj (hrest₁.symm.trans hrest₂)
  obtain rfl : fault = fault' := hfault₁.trans hfault₂.symm
  obtain rfl : opened = opened' := hopened₁.trans hopened₂.symm
  obtain rfl : rooted = rooted' := hrooted₁.trans hrooted₂.symm
  rfl

namespace Amid

variable {entry c : Cursor} {inner : List Path}

theorem refl (h : entry.rooted = true) : Amid entry [] entry := ⟨rfl, rfl, rfl, h⟩

theorem depth_eq (h : Amid entry inner c) : c.depth = entry.depth + inner.length := by
  rw [Cursor.depth, h.opened, List.length_append, Nat.add_comm, Cursor.depth]

theorem cons_of_lt (h : Amid entry inner c) (hd : entry.depth < c.depth) : ∃ p outer, inner = p :: outer := by
  refine List.exists_cons_of_ne_nil fun hnil => ?_
  rw [h.depth_eq, hnil, List.length_nil] at hd
  omega

/-- Behind the end of an element inside, the cursor is still in the midst of the one around it. -/
theorem resumed {p : Path} (h : Amid entry (p :: inner) c) {c' : Cursor} (hr : Resumed c c') : Amid entry inner c' where
  opened := by
    rw [hr.opened, h.opened]
    rfl
  ends := by
    have hends := h.ends
    rw [List.length_cons, ← Nat.zero_add (inner.length + 1), Event.behindEnd_bind, hr.rest] at hends
    exact hends
  fault := hr.fault.trans h.fault
  rooted := hr.rooted

/-- In the midst of an element inside, it is in the midst of both. -/
theorem trans {p : Path} (h : Amid entry (p :: inner) c) {inside : List Path} {c' : Cursor} (h' : Amid c inside c') :
    Amid entry (inside ++ p :: inner) c' where
  opened := by rw [h'.opened, h.opened, List.append_assoc]
  ends := by
    have hends := h.ends
    rw [List.length_cons, ← Nat.zero_add (inner.length + 1), Event.behindEnd_bind] at hends
    rw [List.length_append, List.length_cons, Event.behindEnd_bind, h'.ends]
    exact hends
  fault := h'.fault.trans h.fault
  rooted := h'.rooted

end Amid

theorem resumed_of_readText {c c' : Cursor} {t : List Char} (hd : 0 < c.depth) (hr : c.rooted = true)
    (h : c.readText = (.ok t, c')) : Resumed c c' := by
  obtain ⟨hrest, hopened⟩ := Cursor.readText_end hd h
  have hrooted : c.readText.2.rooted = true := Cursor.gather_rooted c.rest [] c hr
  rw [h] at hrooted
  exact ⟨hrest, hopened, (Cursor.readText_leads h).fault, hrooted⟩

namespace Bounded

variable {entry c : Cursor} {fresh : Bool} {s : Scope}

theorem entered (h : entry.rooted = true) : Bounded entry false (.within entry) entry where
  depth := rfl
  amid _ := ⟨[], .refl h⟩
  behind h := by cases h
  fresh h := by cases h

theorem next (h : Bounded entry fresh s c) (hd : 0 < entry.depth) {s' : Scope} {c' : Cursor} {given : Option Path}
    (hn : s.next c = ⟨.ok given, s', c'⟩) : Bounded entry given.isSome s' c' := by
  cases hf : s.finished with
  | true =>
    rw [Scope.next, if_pos hf] at hn
    cases hn
    exact { h with fresh := fun hfresh => by cases hfresh }
  | false =>
    obtain ⟨inner, hamid⟩ := h.amid hf
    rw [Scope.next_eq_seek hf] at hn
    have hm := Scope.seek_sought h.depth c.rest inner c hamid.opened
    have hends := hamid.ends
    rw [hn] at hm
    generalize he : Event.behindEnd inner.length c.rest = ends at hm hends
    generalize hl : Event.begun (some entry.path) (inner.map some) c.rest = left at hm
    generalize hmoved : (⟨.ok given, s', c'⟩ : Scope.Moved (Option Path)) = m at hm
    cases hm with
    | nameless h =>
      rw [← hmoved] at h
      cases h
    | gave p inner' es =>
      cases hmoved
      have hlt : entry.depth < (⟨es, c.fault, p :: (inner' ++ entry.opened), true⟩ : Cursor).depth := by
        simp only [Cursor.depth, List.length_cons, List.length_append]
        omega
      exact ⟨h.depth, fun _ => ⟨p :: inner', rfl, hends, hamid.fault, rfl⟩,
        fun hfin => absurd (hf.symm.trans hfin) (by decide), fun _ => ⟨hf, hlt⟩⟩
    | closed es =>
      cases hmoved
      exact ⟨h.depth, fun hgo => (by cases hgo), fun _ => ⟨hends.symm, rfl, hamid.fault, hamid.rooted⟩,
        fun hfresh => by cases hfresh⟩
    | lasted inner' hs ho =>
      -- the scope of an element does not end where the document does
      have hlast := (congrArg Scope.Moved.outcome hmoved).symm
      cases given with
      | some p => exact absurd hlast (Scope.lastAnswer_ne_some _ _ _ _)
      | none =>
        obtain ⟨-, houtlook⟩ := Scope.lastAnswer_eq_none.1 hlast
        have hlen : (inner' ++ entry.opened).length = 0 := congrArg Prod.fst (ho.symm.trans houtlook)
        rw [List.length_append] at hlen
        rw [Cursor.depth] at hd
        omega

/-- **The end of an element is found from wherever its scope was left.** -/
theorem skip (h : Bounded entry fresh s c) (hd : 0 < entry.depth) (hs : (s.skip c).outcome = .ok ()) :
    Resumed entry (s.skip c).cursor := by
  have hleads := Scope.skip_leads hs
  have hrooted : c.rooted = true → (s.skip c).cursor.rooted = true := Scope.skip_rooted s
  rw [Scope.skip] at hs hleads hrooted ⊢
  cases hf : s.finished with
  | true =>
    rw [if_pos rfl]
    exact h.behind hf
  | false =>
    obtain ⟨inner, hamid⟩ := h.amid hf
    rw [hf, if_neg Bool.false_ne_true] at hs hleads hrooted
    rw [if_neg Bool.false_ne_true]
    have hdepth : c.depth = s.depth + inner.length := by rw [h.depth, hamid.depth_eq]
    obtain ⟨hend, ho⟩ := Scope.skipFrom_end (by rw [h.depth]; exact hd) c.rest c inner.length hs hdepth
    refine ⟨hamid.ends.symm.trans hend, ho.trans ?_, hleads.fault.trans hamid.fault, hrooted hamid.rooted⟩
    rw [hamid.opened, ← List.tail_drop, List.drop_left]

theorem resumed (h : Bounded entry true s c) {c' : Cursor} (hr : Resumed c c') : Bounded entry false s c' := by
  obtain ⟨hf, hlt⟩ := h.fresh rfl
  obtain ⟨inner, hamid⟩ := h.amid hf
  obtain ⟨p, outer, rfl⟩ := hamid.cons_of_lt hlt
  exact ⟨h.depth, fun _ => ⟨outer, hamid.resumed hr⟩, fun hfin => absurd (hf.symm.trans hfin) (by decide),
    fun hfresh => by cases hfresh⟩

/-- A client that gave up inside is at the end of the element that it had entered, or in the midst of it. -/
theorem abandoned (h : Bounded entry true s c) {fresh : Bool} {si : Scope} {ci : Cursor}
    (inside : Bounded c fresh si ci) : Bounded entry false s ci := by
  cases hfin : si.finished with
  | true => exact h.resumed (inside.behind hfin)
  | false =>
    obtain ⟨hf, hlt⟩ := h.fresh rfl
    obtain ⟨inner, hamid⟩ := h.amid hf
    obtain ⟨p, outer, rfl⟩ := hamid.cons_of_lt hlt
    obtain ⟨deeper, hdeeper⟩ := inside.amid hfin
    exact ⟨h.depth, fun _ => ⟨_, hamid.trans hdeeper⟩, fun hfin => absurd (hf.symm.trans hfin) (by decide),
      fun hfresh => by cases hfresh⟩

end Bounded

theorem Client.bounded {entry : Cursor} {fresh : Bool} {s : Scope} {c : Cursor} (h : Client entry fresh s c) :
    0 < entry.depth → entry.rooted = true → Bounded entry fresh s c := by
  induction h with
  | entered entry => exact fun _ hr => .entered hr
  | next _ hn ih => exact fun hd hr => (ih hd hr).next hd hn
  | read _ ht ih =>
    intro hd hr
    have hb := ih hd hr
    obtain ⟨hf, hlt⟩ := hb.fresh rfl
    obtain ⟨inner, hamid⟩ := hb.amid hf
    exact hb.resumed (resumed_of_readText (Nat.zero_lt_of_lt hlt) hamid.rooted ht)
  | descended _ _ hs ih ihInside =>
    intro hd hr
    have hb := ih hd hr
    obtain ⟨hf, hlt⟩ := hb.fresh rfl
    obtain ⟨inner, hamid⟩ := hb.amid hf
    have hdepth := Nat.zero_lt_of_lt hlt
    exact hb.resumed ((ihInside hdepth hamid.rooted).skip hdepth hs)
  | abandoned _ _ ih ihInside =>
    intro hd hr
    have hb := ih hd hr
    obtain ⟨hf, hlt⟩ := hb.fresh rfl
    obtain ⟨inner, hamid⟩ := hb.amid hf
    exact hb.abandoned (ihInside (Nat.zero_lt_of_lt hlt) hamid.rooted)

theorem Consumed.resumed {c c' : Cursor} (h : Consumed c c') (hd : 0 < c.depth) (hr : c.rooted = true) : Resumed c c' := by
  cases h with
  | read ht => exact resumed_of_readText hd hr ht
  | left inside hs => exact (inside.bounded hd hr).skip hd hs

/-! ## Walks as clients -/

theorem Story.client {entry : Cursor} {given : List Given} {fresh : Bool} {s : Scope} {c : Cursor}
    (h : Story entry given fresh s c) : Client entry fresh s c := by
  induction h with
  | entered entry => exact .entered entry
  | gave _ hn _ ih => exact ih.next hn
  | ended _ hn ih => exact ih.next hn
  | read _ ht ih => exact ih.read ht
  | descended _ _ hs ih ihInside => exact ih.descended ihInside hs

/-- **A walk through an element that reads and enters only what it was just given** goes on behind the element. -/
theorem Walk.consumed_of_run {φ ε α : Type} (lift : Error → ε) {w : Walk φ ε α} (hw : Disciplined false w) {c : Cursor}
    {a : α} (h : (run lift w (.within c) c).result = .ok a)
    (hs : ((run lift w (.within c) c).scope.skip (run lift w (.within c) c).cursor).outcome = .ok ()) :
    Consumed c ((run lift w (.within c) c).scope.skip (run lift w (.within c) c).cursor).cursor := by
  obtain ⟨_, _, story⟩ := story_of_run lift w (.entered c) hw a h
  exact .left story.client hs

/-! ## Behind an element -/

/-- **After an element a reader goes on right behind its end tag**, however the element was consumed: with the elements
around it open, and the namespace bindings from before its start.  A disciplined walk that is left consumes it. -/
theorem element_resumed {document : Bytes} {c₀ c : Cursor} {s s' : Scope} {path : Path} (h : Wandered document c₀)
    (hn : s.next c₀ = ⟨.ok (some path), s', c⟩) :
    ∃ name uri parents, .start name uri :: c.rest <:+ (Event.ofBytes document).items ∧ c.opened = path :: parents ∧
      Content.pathBelow (parents.headD []) name uri = .ok path ∧
      (∀ c₁, Consumed c c₁ → Event.behindEnd 0 c.rest = some c₁.rest ∧ c₁.opened = parents ∧
        Event.bindingsAt document c₁.rest = Event.bindingsAt document (.start name uri :: c.rest)) ∧
      (∀ c₁ c₂, Consumed c c₁ → Consumed c c₂ → c₁ = c₂) ∧
      ∀ {φ ε α : Type} (lift : Error → ε) (w : Walk φ ε α), w.Disciplined false →
        let o := Walk.run lift w (.within c) c
        ∀ a, o.result = .ok a → (o.scope.skip o.cursor).outcome = .ok () → Consumed c (o.scope.skip o.cursor).cursor := by
  obtain ⟨name, uri, parents, hsuffix, hopened, hrooted, hpath⟩ := Scope.next_gave hn
  have hstart := hsuffix.trans h.suffix
  have hd : 0 < c.depth := by
    rw [Cursor.depth, hopened]
    exact Nat.zero_lt_succ _
  have hresumed : ∀ c₁, Consumed c c₁ → Resumed c c₁ := fun _ hc => hc.resumed hd hrooted
  refine ⟨name, uri, parents, hstart, hopened, hpath, fun c₁ hc => ?_, fun c₁ c₂ hc hc' =>
    (hresumed c₁ hc).unique (hresumed c₂ hc'), fun lift w hw a ha hs => Walk.consumed_of_run lift hw ha hs⟩
  have hr := hresumed c₁ hc
  refine ⟨hr.rest, ?_, bindings_restored hstart hr.rest⟩
  rw [hr.opened, hopened]
  rfl

/-- `<a><b xmlns:n='u'><n:x/>t<y/></b><n:c/></a>` -/
def boundSample : Bytes := Utf8.encode "<a><b xmlns:n='u'><n:x/>t<y/></b><n:c/></a>".toList

/-- One client reads `b` as a text, another enters it and stops at `x`: both go on behind `b`, where `n` is unbound. -/
theorem boundSample_resumed : ∃ c c₁ c₂, c.path = "a/b".toList ∧ Consumed c c₁ ∧ Consumed c c₂ ∧ c₁ = c₂ ∧
    c₁.path = "a".toList ∧ Event.bindingsAt boundSample c₁.rest = Bindings.initial := by
  let begins (name : String) (uri : Option Bytes) : Event := .start ⟨Utf8.encode name.toList⟩ uri
  let behindB : List Event := [begins "n:c" none, .finish, .finish]
  let behindX : List Event := .finish :: .text [0x74] :: begins "y" none :: .finish :: .finish :: behindB
  let inB : List Event := begins "n:x" (some [0x75]) :: behindX
  have hbegin : Cursor.ofBytes boundSample = ⟨begins "a" none :: begins "b" none :: inB, none, [], false⟩ := by
    decide +kernel
  have hbindings : Event.bindingsAt boundSample behindB = Bindings.initial := by decide +kernel
  have inA : Wandered boundSample ⟨begins "b" none :: inB, none, ["a".toList], true⟩ := by
    have h : Wandered boundSample (.ofBytes boundSample) := .start
    rw [hbegin] at h
    exact h.next .document
  have gaveB : Scope.next .document ⟨begins "b" none :: inB, none, ["a".toList], true⟩ =
      ⟨.ok (some "a/b".toList), .document, ⟨inB, none, ["a/b".toList, "a".toList], true⟩⟩ := rfl
  have readB : Consumed ⟨inB, none, ["a/b".toList, "a".toList], true⟩ ⟨behindB, none, ["a".toList], true⟩ :=
    @Consumed.read _ _ "t".toList rfl
  have gaveX := @Client.next _ _ _ ⟨2, 3, false⟩ _
    ⟨behindX, none, ["a/b/n:x".toList, "a/b".toList, "a".toList], true⟩ (some "a/b/n:x".toList)
    (.entered ⟨inB, none, ["a/b".toList, "a".toList], true⟩) rfl
  have leftB := Consumed.left gaveX rfl
  obtain ⟨_, _, _, -, -, -, -, hunique, -⟩ := element_resumed inA gaveB
  exact ⟨_, _, _, rfl, readB, leftB, hunique _ _ readB leftB, rfl, hbindings⟩

end ScanDiscovery.Xml
