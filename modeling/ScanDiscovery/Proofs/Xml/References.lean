import ScanDiscovery.Proofs.Xml.Report
import ScanDiscovery.Xml.Reference
/-!
# Proofs.Xml.References — what a text with references in it stands for

`Replaced` is the grammar of texts: a character that is no ampersand stands for itself, and a reference for the character
that it resolves to.  A text can be read where it is of this grammar (`replace_eq_ok_iff`).  Texts one after the other
stand for what each of them does, unless a reference begins in the one and ends in the other (`Replaced.split`).
Specification only.
-/
namespace ScanDiscovery.Xml.Reference

/-- It may stand in a reference. -/
def Inner (c : Char) : Prop := c ≠ '&' ∧ c ≠ ';'

/-- A text, and the characters that it stands for. -/
inductive Replaced : List Char → List Char → Prop
  | nil : Replaced [] []
  | plain {c : Char} {text chars : List Char} (hc : c ≠ '&') (rest : Replaced text chars) : Replaced (c :: text) (c :: chars)
  | reference {body text : List Char} {c : Char} {chars : List Char} (hbody : ∀ d ∈ body, Inner d)
      (hc : resolve 0 body = .ok c) (rest : Replaced text chars) : Replaced ('&' :: (body ++ ';' :: text)) (c :: chars)

/-- What a reference stands for does not depend on its place. -/
theorem resolve_eq_ok {first first' : Nat} {body : List Char} {c : Char} (h : resolve first body = .ok c) :
    resolve first' body = .ok c := by
  unfold resolve at h ⊢
  split at h
  · exact h
  · cases he : entity? body with
    | some d =>
      rw [he] at h
      exact h
    | none =>
      rw [he] at h
      cases h

/-- The first character that may not stand in a reference divides a text. -/
theorem inner_unique {x x' : Char} {text text' : List Char} (hx : ¬ Inner x) (hx' : ¬ Inner x') : ∀ {body body' : List Char},
    (∀ d ∈ body, Inner d) → (∀ d ∈ body', Inner d) → body ++ x :: text = body' ++ x' :: text' →
      body = body' ∧ x = x' ∧ text = text'
  | [], [], _, _, h => ⟨rfl, List.cons.inj h⟩
  | [], d :: _, _, hb', h => absurd (hb' d List.mem_cons_self) ((List.cons.inj h).1 ▸ hx)
  | d :: _, [], hb, _, h => absurd (hb d List.mem_cons_self) ((List.cons.inj h).1 ▸ hx')
  | d :: body, d' :: body', hb, hb', h => by
    obtain ⟨rfl, htail⟩ := List.cons.inj h
    obtain ⟨rfl, hrest⟩ := inner_unique hx hx' (List.forall_mem_cons.1 hb).2 (List.forall_mem_cons.1 hb').2 htail
    exact ⟨rfl, hrest⟩

theorem not_inner_amp : ¬ Inner '&' := fun h => h.1 rfl

theorem not_inner_semicolon : ¬ Inner ';' := fun h => h.2 rfl

/-- All that an ampersand can begin. -/
theorem Replaced.of_amp {text chars : List Char} (h : Replaced ('&' :: text) chars) : ∃ body rest c more,
    text = body ++ ';' :: rest ∧ (∀ d ∈ body, Inner d) ∧ resolve 0 body = .ok c ∧ Replaced rest more ∧ chars = c :: more := by
  cases h with
  | plain hc => exact absurd rfl hc
  | reference hbody hc rest => exact ⟨_, _, _, _, rfl, hbody, hc, rest, rfl⟩

/-- A reference ends before the next ampersand. -/
theorem not_replaced_amp {body text chars : List Char} (hbody : ∀ d ∈ body, Inner d) :
    ¬ Replaced ('&' :: (body ++ '&' :: text)) chars := by
  intro h
  obtain ⟨body', rest, c, more, hsplit, hbody', -⟩ := h.of_amp
  exact absurd (inner_unique not_inner_amp not_inner_semicolon hbody hbody' hsplit).2.1 (by decide)

theorem replaced_reference_iff {body text chars : List Char} (hbody : ∀ d ∈ body, Inner d) :
    Replaced ('&' :: (body ++ ';' :: text)) chars ↔
      ∃ c, resolve 0 body = .ok c ∧ ∃ more, Replaced text more ∧ c :: more = chars := by
  constructor
  · intro h
    obtain ⟨body', rest, c, more, hsplit, hbody', hc, hmore, rfl⟩ := h.of_amp
    obtain ⟨rfl, -, rfl⟩ := inner_unique not_inner_semicolon not_inner_semicolon hbody hbody' hsplit
    exact ⟨c, hc, more, hmore, rfl⟩
  · rintro ⟨c, hc, more, hmore, rfl⟩
    exact .reference hbody hc hmore

theorem not_replaced_unended {body chars : List Char} (hbody : ∀ d ∈ body, Inner d) : ¬ Replaced ('&' :: body) chars := by
  intro h
  obtain ⟨body', rest, c, more, rfl, -⟩ := h.of_amp
  exact absurd (hbody ';' (List.mem_append_right _ List.mem_cons_self)) not_inner_semicolon

/-- Reading on, between references and inside one. -/
theorem replaceFrom_eq_ok_iff (size : Nat) : ∀ (text : List Char) {chars : List Char},
    (∀ index, replaceFrom size none index text = .ok chars ↔ Replaced text chars) ∧
    ∀ start index read, (∀ d ∈ read, Inner d) →
      (replaceFrom size (some (start, read)) index text = .ok chars ↔ Replaced ('&' :: (read.reverse ++ text)) chars)
  | [], chars => by
    refine ⟨fun index => ?_, fun start index read hread => ?_⟩
    · rw [replaceFrom]
      constructor
      · intro h
        cases h
        exact .nil
      · intro h
        cases h
        rfl
    · have hbody : ∀ d ∈ read.reverse ++ [], Inner d := fun d hd => hread d (by simpa using hd)
      exact iff_of_false (fun h => by cases h) (not_replaced_unended hbody)
  | c :: text, chars => by
    constructor
    · intro index
      rw [replaceFrom]
      by_cases hc : c = '&'
      · rw [if_pos hc, hc]
        exact (replaceFrom_eq_ok_iff size text).2 index (index + 1) [] fun _ h => absurd h List.not_mem_nil
      · rw [if_neg hc]
        refine map_eq_ok.trans ⟨?_, fun h => ?_⟩
        · rintro ⟨more, hmore, rfl⟩
          exact .plain hc (((replaceFrom_eq_ok_iff size text).1 _).1 hmore)
        · cases h with
          | plain _ rest => exact ⟨_, ((replaceFrom_eq_ok_iff size text).1 _).2 rest, rfl⟩
          | reference => exact absurd rfl hc
    · intro start index read hread
      have hbody : ∀ d ∈ read.reverse, Inner d := fun d hd => hread d (List.mem_reverse.1 hd)
      rw [replaceFrom]
      by_cases hamp : c = '&'
      · rw [if_pos hamp, hamp]
        exact iff_of_false (fun h => by cases h) (not_replaced_amp hbody)
      rw [if_neg hamp]
      by_cases hsemi : c = ';'
      · rw [if_pos hsemi, hsemi, replaced_reference_iff hbody]
        cases hr : resolve (start + 1) read.reverse with
        | error e =>
          refine iff_of_false (fun h => by cases h) fun h => ?_
          obtain ⟨d, hd, -⟩ := h
          rw [resolve_eq_ok hd] at hr
          cases hr
        | ok d =>
          refine map_eq_ok.trans ⟨?_, ?_⟩
          · rintro ⟨more, hmore, rfl⟩
            exact ⟨d, resolve_eq_ok hr, more, ((replaceFrom_eq_ok_iff size text).1 _).1 hmore, rfl⟩
          · rintro ⟨d', hd', more, hmore, rfl⟩
            rw [resolve_eq_ok hd'] at hr
            cases hr
            exact ⟨more, ((replaceFrom_eq_ok_iff size text).1 _).2 hmore, rfl⟩
      · rw [if_neg hsemi]
        have hread' : ∀ d ∈ c :: read, Inner d := List.forall_mem_cons.2 ⟨⟨hamp, hsemi⟩, hread⟩
        have htext : Replaced ('&' :: (read.reverse ++ c :: text)) chars ↔
            Replaced ('&' :: ((c :: read).reverse ++ text)) chars := by
          rw [List.reverse_cons, List.append_assoc]
          rfl
        rw [htext]
        exact (replaceFrom_eq_ok_iff size text).2 start (index + c.utf8Size) (c :: read) hread'

/-- **A text can be read where it is of the grammar**, and then it stands for what the grammar says. -/
theorem replace_eq_ok_iff {text chars : List Char} : replace text = .ok chars ↔ Replaced text chars :=
  (replaceFrom_eq_ok_iff _ text).1 0

namespace Replaced

variable {text text' chars chars' : List Char}

theorem append (h : Replaced text chars) (h' : Replaced text' chars') : Replaced (text ++ text') (chars ++ chars') := by
  induction h with
  | nil => exact h'
  | plain hc _ ih => exact .plain hc ih
  | reference hbody hc _ ih =>
    rw [List.cons_append, List.append_assoc]
    exact .reference hbody hc ih

/-- A text stands for one thing only. -/
theorem unique (h : Replaced text chars) (h' : Replaced text chars') : chars = chars' :=
  Except.ok.inj ((replace_eq_ok_iff.2 h).symm.trans (replace_eq_ok_iff.2 h'))

theorem of_plain : ∀ {text : List Char}, '&' ∉ text → Replaced text text
  | [], _ => .nil
  | _ :: _, h => .plain (fun hc => h (hc ▸ List.mem_cons_self)) (of_plain fun hmem => h (List.mem_cons_of_mem _ hmem))

/-- **A text in which every character is written so that it stands for itself.** -/
theorem flatMap {f : Char → List Char} (h : ∀ c, Replaced (f c) [c]) : ∀ text : List Char, Replaced (text.flatMap f) text
  | [] => .nil
  | c :: text => (h c).append (flatMap h text)

end Replaced

/-- No reference begins in it that does not end in it. -/
def Settled (text : List Char) : Prop := ∀ before behind, text = before ++ '&' :: behind → ';' ∈ behind

theorem Settled.behind (text : List Char) {text' : List Char} (h : Settled (text ++ text')) : Settled text' := fun before behind he =>
  h (text ++ before) behind (by rw [he, List.append_assoc])

theorem Settled.before {text text' : List Char} (h : Settled (text ++ text')) (hno : ';' ∉ text') : Settled text := by
  intro before behind he
  have hmem := h before (behind ++ text') (by rw [he, List.append_assoc]; rfl)
  exact (List.mem_append.1 hmem).resolve_right hno

namespace Replaced

variable {text text' chars : List Char}

/-- In a text that can be read every reference ends. -/
theorem settled (h : Replaced text chars) : Settled text := by
  induction h with
  | nil => exact fun before behind he => by simp at he
  | @plain c text chars hc _ ih =>
    intro before behind he
    cases before with
    | nil => exact absurd (List.cons.inj he).1 hc
    | cons d before => exact ih before behind (List.cons.inj he).2
  | @reference body text c chars hbody _ _ ih =>
    intro before behind he
    cases before with
    | nil =>
      rw [← (List.cons.inj he).2]
      exact List.mem_append_right _ List.mem_cons_self
    | cons d before =>
      rcases List.append_eq_append_iff.1 (List.cons.inj he).2 with ⟨more, rfl, hmore⟩ | ⟨more, rfl, hmore⟩
      · cases more with
        | nil => exact absurd (List.cons.inj hmore).1 (by decide)
        | cons e more => exact ih more behind (List.cons.inj hmore).2
      · cases more with
        | nil => exact absurd (List.cons.inj hmore).1 (by decide)
        | cons e more =>
          have hamp : '&' ∈ before ++ e :: more := by
            rw [(List.cons.inj hmore).1]
            exact List.mem_append_right _ List.mem_cons_self
          exact absurd (hbody _ hamp) not_inner_amp

/-- **Texts one after the other**, the first of which ends outside of a reference, stand for what each stands for. -/
theorem split (h : Replaced (text ++ text') chars) (hsettled : Settled text) :
    ∃ front back, Replaced text front ∧ Replaced text' back ∧ chars = front ++ back := by
  generalize hwhole : text ++ text' = whole at h
  induction h generalizing text with
  | nil =>
    obtain ⟨rfl, rfl⟩ := List.append_eq_nil_iff.1 hwhole
    exact ⟨[], [], .nil, .nil, rfl⟩
  | @plain c whole chars hc rest ih =>
    cases text with
    | nil =>
      obtain rfl : text' = c :: whole := hwhole
      exact ⟨[], _, .nil, .plain hc rest, rfl⟩
    | cons d text =>
      obtain ⟨rfl, htail⟩ := List.cons.inj hwhole
      obtain ⟨front, back, hfront, hback, rfl⟩ := ih (Settled.behind [d] hsettled) htail
      exact ⟨d :: front, back, .plain hc hfront, hback, rfl⟩
  | @reference body whole c chars hbody hc rest ih =>
    cases text with
    | nil =>
      obtain rfl : text' = '&' :: (body ++ ';' :: whole) := hwhole
      exact ⟨[], _, .nil, .reference hbody hc rest, rfl⟩
    | cons d text =>
      obtain ⟨rfl, htail⟩ := List.cons.inj hwhole
      have hend : ';' ∈ text := hsettled [] text rfl
      -- the reference that begins the text ends in it
      rcases List.append_eq_append_iff.1 htail with ⟨more, rfl, -⟩ | ⟨more, rfl, hmore⟩
      · exact absurd (hbody _ (List.mem_append_left _ hend)) not_inner_semicolon
      · cases more with
        | nil =>
          rw [List.append_nil] at hend
          exact absurd (hbody _ hend) not_inner_semicolon
        | cons e more =>
          obtain ⟨rfl, hrest⟩ := List.cons.inj hmore
          have hmoreSettled : Settled more := Settled.behind ('&' :: (body ++ [';'])) (by simpa using hsettled)
          obtain ⟨front, back, hfront, hback, rfl⟩ := ih hmoreSettled hrest.symm
          exact ⟨c :: front, back, .reference hbody hc hfront, hback, rfl⟩

end Replaced

/-- In a text without an `&` no reference begins. -/
theorem Settled.of_plain {text : List Char} (h : '&' ∉ text) : Settled text := (Replaced.of_plain h).settled

end ScanDiscovery.Xml.Reference
