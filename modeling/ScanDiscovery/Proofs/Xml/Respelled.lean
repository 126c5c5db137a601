import Mathlib.Data.List.Forall2
import ScanDiscovery.Proofs.Xml.Visiting
/-!
# Proofs.Xml.Respelled — documents that name the same namespaces in different ways

A document chooses the prefixes of its namespaces, and of a known namespace the spelling of the URI.  Events respell
others if texts, ends and local names are the same and every element has the same prefix of the vocabulary; which prefix
it has in the document does not matter, as long as that is a text.  Trees with such events have the same texts
(`Respelled.value_eq`), and a visit reports the same of them, faults included (`Respelled.report_eq`).
Specification only.
-/
namespace ScanDiscovery.Xml

/-- The prefix of a name, if it has one, is a text. -/
def Name.hasText (name : Name) : Bool := name.qualifier.all fun q => (Utf8.decode q).isOk

/-- Whether an event respells another. -/
def Event.respells : Event → Event → Bool
  | .start name uri, .start name' uri' =>
    name.localPart = name'.localPart && name.hasText && name'.hasText &&
      (uri.bind Vocabulary.prefixOf?).isSome && uri.bind Vocabulary.prefixOf? = uri'.bind Vocabulary.prefixOf?
  | .finish, .finish => true
  | .text t, .text t' => t = t'
  | .cdata t, .cdata t' => t = t'
  | _, _ => false

namespace Cursor

/-- A name whose prefix is a text fails by its local part, if at all. -/
theorem nameParts_bind {name : Name} (h : name.hasText = true) {α : Type} (x : Except Error α) :
    ((nameParts none name).bind fun _ => x) = (nameText name.localPart).bind fun _ => x := by
  unfold nameParts
  cases nameText name.localPart with
  | error e => rfl
  | ok localPart =>
    unfold Name.hasText at h
    cases hq : name.qualifier with
    | none => rfl
    | some q =>
      rw [hq, Option.all_some] at h
      unfold nameText
      cases hd : Utf8.decode q with
      | error e =>
        rw [hd] at h
        cases h
      | ok cs =>
        simp only [hd]
        rfl

end Cursor

namespace Content

/-- Trees whose events respell each other. -/
inductive Respelled : Content → Content → Prop
  | nil : Respelled .nil .nil
  | text (t : Bytes) {rest rest' : Content} (hrest : Respelled rest rest') : Respelled (.text t rest) (.text t rest')
  | cdata (t : Bytes) {rest rest' : Content} (hrest : Respelled rest rest') : Respelled (.cdata t rest) (.cdata t rest')
  | element {name name' : Name} {uri uri' : Option Bytes} {inside inside' rest rest' : Content}
    (hname : Event.respells (.start name uri) (.start name' uri') = true) (hinside : Respelled inside inside')
    (hrest : Respelled rest rest') : Respelled (.element name uri inside rest) (.element name' uri' inside' rest')

/-- **Events that respell those of a tree** are those of a tree that respells it. -/
theorem respelled_of_events {k : Content} {es es' : List Event}
    (h : List.Forall₂ (fun e e' => e.respells e' = true) (k.events ++ es) es') :
    ∃ k' tail, es' = k'.events ++ tail ∧ k.Respelled k' ∧ List.Forall₂ (fun e e' => e.respells e' = true) es tail := by
  induction k generalizing es es' with
  | nil => exact ⟨.nil, es', rfl, .nil, h⟩
  | text t rest ih =>
    cases h with
    | @cons _ e _ tail he htail =>
      obtain ⟨k', tail', rfl, hk, hes⟩ := ih htail
      cases e with
      | text t' =>
        obtain rfl : t = t' := of_decide_eq_true he
        exact ⟨.text t k', tail', rfl, .text t hk, hes⟩
      | _ => cases he
  | cdata t rest ih =>
    cases h with
    | @cons _ e _ tail he htail =>
      obtain ⟨k', tail', rfl, hk, hes⟩ := ih htail
      cases e with
      | cdata t' =>
        obtain rfl : t = t' := of_decide_eq_true he
        exact ⟨.cdata t k', tail', rfl, .cdata t hk, hes⟩
      | _ => cases he
  | element name uri inside rest ihInside ihRest =>
    rw [events, List.cons_append, List.append_assoc] at h
    cases h with
    | @cons _ e _ tail he htail =>
      obtain ⟨inside', tail', rfl, hinside, hfinish⟩ := ihInside htail
      cases hfinish with
      | @cons _ f _ tail'' hf hrest =>
        obtain ⟨rest', tail, rfl, hrest, hes⟩ := ihRest hrest
        cases e with
        | start name' uri' =>
          cases f with
          | finish =>
            refine ⟨.element name' uri' inside' rest', tail, ?_, .element he hinside hrest, hes⟩
            rw [events, List.cons_append, List.append_assoc, List.cons_append]
          | _ => cases hf
        | _ => cases he

namespace Respelled

variable {k k' : Content}

theorem hasElement_eq (h : k.Respelled k') : k.hasElement = k'.hasElement := by
  induction h with
  | nil => rfl
  | text t _ ih => exact ih
  | cdata t _ ih => exact ih
  | element => rfl

theorem named_eq (h : k.Respelled k') : k.named = k'.named := by
  induction h with
  | nil => rfl
  | text t _ ih => exact ih
  | cdata t _ ih => exact ih
  | element hname _ _ ihInside ihRest =>
    simp only [Event.respells, Bool.and_eq_true, decide_eq_true_eq] at hname
    obtain ⟨⟨⟨⟨hlocal, htext⟩, htext'⟩, -⟩, -⟩ := hname
    rw [named, named, Cursor.nameParts_bind htext, Cursor.nameParts_bind htext', hlocal, ihInside, ihRest]

theorem ownText_eq (h : k.Respelled k') : k.ownText = k'.ownText := by
  induction h with
  | nil => rfl
  | text t _ ih => rw [ownText, ownText, ih]
  | cdata t _ ih => rw [ownText, ownText, ih]
  | element hname hinside _ _ ihRest =>
    simp only [Event.respells, Bool.and_eq_true, decide_eq_true_eq] at hname
    obtain ⟨⟨⟨⟨hlocal, htext⟩, htext'⟩, -⟩, -⟩ := hname
    rw [ownText, ownText, Cursor.nameParts_bind htext, Cursor.nameParts_bind htext', hlocal, hinside.named_eq, ihRest]

/-- **The text of an element** does not depend on how the names in it are spelt. -/
theorem value_eq (h : k.Respelled k') : k.value = k'.value := by rw [value, value, h.ownText_eq]

/-- Names that are spelt differently have the same path. -/
theorem pathBelow_eq {name name' : Name} {uri uri' : Option Bytes}
    (h : Event.respells (.start name uri) (.start name' uri') = true) (parent : Path) :
    pathBelow parent name uri = pathBelow parent name' uri' := by
  simp only [Event.respells, Bool.and_eq_true, decide_eq_true_eq] at h
  obtain ⟨⟨⟨⟨hlocal, -⟩, -⟩, hsome⟩, hsame⟩ := h
  obtain ⟨p, hp⟩ := Option.isSome_iff_exists.1 hsome
  rw [pathBelow, pathBelow, Cursor.enteredPath_eq, Cursor.enteredPath_eq, ← hsame, hp]
  unfold Cursor.nameParts
  rw [hlocal]

/-- **The report of a visit** does not depend on how names are spelt, if those of the elements that it takes do not. -/
theorem report_eq {φ ε σ : Type} {lift : Error → ε} {handle : Path → Option (σ → Content → Report φ ε σ)}
    (hread : ∀ p read, handle p = some read → ∀ a k k', Respelled k k' → read a k = read a k')
    (h : k.Respelled k') (parent : Path) (a : σ) : k.report lift handle parent a = k'.report lift handle parent a := by
  induction h generalizing parent a with
  | nil => rfl
  | text t _ ih => exact ih parent a
  | cdata t _ ih => exact ih parent a
  | element hname hinside _ ihInside ihRest =>
    rw [report, report, pathBelow_eq hname]
    cases pathBelow parent _ _ with
    | error e => rfl
    | ok p =>
      simp only [ihRest]
      congr 1
      cases hh : handle p with
      | none => exact ihInside p a
      | some read => exact hread p read hh a _ _ hinside

theorem report_handling_eq {φ ε ρ σ ν : Type} {lift : Error → ε} {base : Path} {part? : Path → Option ρ}
    {item : ρ → Content → Report φ ε ν} {step : σ → ν → σ}
    (hitem : ∀ part k k', Respelled k k' → item part k = item part k') (h : k.Respelled k') (a : σ) :
    k.report lift (handling base part? item step) base a = k'.report lift (handling base part? item step) base a := by
  refine h.report_eq (fun p read hread a k k' hk => ?_) base a
  obtain ⟨part, -, rfl⟩ := Option.map_eq_some_iff.1 hread
  simp only [hitem part k k' hk]

end Respelled

end Content

end ScanDiscovery.Xml
