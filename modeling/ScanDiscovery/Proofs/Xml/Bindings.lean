import ScanDiscovery.Proofs.Xml.Elements
/-!
# Proofs.Xml.Bindings — the namespace bindings in force at a place of a document

Who reads the events does not matter to the bindings: what is in force behind an event is told by the tokens before it
(`Event.bound`).  The start of an element puts new bindings in force, its end those that were in force outside
(`Restores`); so behind the end of an element the bindings are those from before its start (`bindings_restored`).
Specification only.
-/
namespace ScanDiscovery.Xml

namespace Event

/-- The events of some tokens, each with the bindings in force behind it. -/
def bound : Bindings → List Open → List Token → List (Event × Bindings)
  | _, _, [] => []
  | bs, opened, .text content :: ts => (.text content, bs) :: bound bs opened ts
  | bs, opened, .cdata content :: ts => (.cdata content, bs) :: bound bs opened ts
  | bs, opened, .remark :: ts => bound bs opened ts
  | bs, opened, .opening content empty :: ts =>
    match bs.extend (attributesOf content) with
    | .error _ => []
    | .ok inside =>
      if empty then (begin (nameOf content) inside, inside) :: (.finish, bs) :: bound bs opened ts
      else (begin (nameOf content) inside, inside) :: bound inside (⟨(nameOf content).bytes, bs⟩ :: opened) ts
  | _, [], .closing _ :: _ => []
  | _, o :: opened, .closing name :: ts =>
    if o.name = name then (.finish, o.outside) :: bound o.outside opened ts else []

theorem items_ofTokens (fault : Option Error) : ∀ (ts : List Token) (bs : Bindings) (opened : List Open),
    (ofTokens fault bs opened ts).items = (bound bs opened ts).map Prod.fst
  | [], _, _ => rfl
  | .text content :: ts, bs, opened => congrArg (Event.text content :: ·) (items_ofTokens fault ts bs opened)
  | .cdata content :: ts, bs, opened => congrArg (Event.cdata content :: ·) (items_ofTokens fault ts bs opened)
  | .remark :: ts, bs, opened => items_ofTokens fault ts bs opened
  | .opening content empty :: ts, bs, opened => by
    simp only [ofTokens, bound]
    cases bs.extend (attributesOf content) with
    | error e => rfl
    | ok inside =>
      cases empty with
      | true => exact congrArg (begin _ _ :: Event.finish :: ·) (items_ofTokens fault ts bs opened)
      | false => exact congrArg (begin _ _ :: ·) (items_ofTokens fault ts inside _)
  | .closing _ :: _, _, [] => rfl
  | .closing name :: ts, _, o :: opened => by
    simp only [ofTokens, bound]
    by_cases hname : o.name = name
    · rw [if_pos hname, if_pos hname]
      exact congrArg (Event.finish :: ·) (items_ofTokens fault ts o.outside opened)
    · rw [if_neg hname, if_neg hname]
      rfl

/-- The bindings in force before some events of a document, which are those that are left. -/
def bindingsAt (document : Bytes) (rest : List Event) : Bindings :=
  let all := bound Bindings.initial [] (Token.ofBytes document).items
  ((all.take (all.length - rest.length)).getLast?.map Prod.snd).getD Bindings.initial

end Event

open Event (bound bindingsAt behindEnd)

/-- Events before which the first of these bindings are in force, the others outside the elements that are open,
innermost first: a start names its element by the bindings that it puts in force, and an end restores those outside. -/
inductive Restores : List Bindings → List (Event × Bindings) → Prop
  | nil (stack : List Bindings) : Restores stack []
  | start {stack : List Bindings} {es : List (Event × Bindings)} (name : Name) (inside : Bindings)
      (h : Restores (inside :: stack) es) :
      Restores stack ((.start name (inside.uri? name.qualifier), inside) :: es)
  | finish {inside outside : Bindings} {stack : List Bindings} {es : List (Event × Bindings)}
      (h : Restores (outside :: stack) es) : Restores (inside :: outside :: stack) ((.finish, outside) :: es)
  | text {bs : Bindings} {stack : List Bindings} {es : List (Event × Bindings)} (content : Bytes)
      (h : Restores (bs :: stack) es) : Restores (bs :: stack) ((.text content, bs) :: es)
  | cdata {bs : Bindings} {stack : List Bindings} {es : List (Event × Bindings)} (content : Bytes)
      (h : Restores (bs :: stack) es) : Restores (bs :: stack) ((.cdata content, bs) :: es)

theorem restores_bound : ∀ (ts : List Token) (bs : Bindings) (opened : List Event.Open),
    Restores (bs :: opened.map (·.outside)) (bound bs opened ts)
  | [], _, _ => .nil _
  | .text content :: ts, bs, opened => .text content (restores_bound ts bs opened)
  | .cdata content :: ts, bs, opened => .cdata content (restores_bound ts bs opened)
  | .remark :: ts, bs, opened => restores_bound ts bs opened
  | .opening content empty :: ts, bs, opened => by
    rw [bound]
    cases bs.extend (Event.attributesOf content) with
    | error e => exact .nil _
    | ok inside =>
      cases empty with
      | true => exact .start _ inside (.finish (restores_bound ts bs opened))
      | false => exact .start _ inside (restores_bound ts inside (⟨(Event.nameOf content).bytes, bs⟩ :: opened))
  | .closing _ :: _, _, [] => .nil _
  | .closing name :: ts, bs, o :: opened => by
    rw [bound]
    by_cases hname : o.name = name
    · rw [if_pos hname]
      exact .finish (restores_bound ts o.outside opened)
    · rw [if_neg hname]
      exact .nil _

namespace Restores

variable {bs : Bindings} {stack : List Bindings}

/-- Behind some of the events the bindings are those behind the last of them. -/
theorem behind : ∀ {before es : List (Event × Bindings)} {bs : Bindings} {stack : List Bindings},
    Restores (bs :: stack) (before ++ es) →
      ∃ stack', Restores ((before.getLast?.map Prod.snd).getD bs :: stack') es
  | [], _, _, stack, h => ⟨stack, h⟩
  | x :: before, es, bs, stack, h => by
    have hlast : ((x :: before).getLast?.map Prod.snd).getD bs = (before.getLast?.map Prod.snd).getD x.2 := by
      rw [List.getLast?_cons]
      cases before.getLast? <;> rfl
    rw [hlast]
    cases h with
    | start name inside h => exact behind h
    | finish h => exact behind h
    | text content h => exact behind h
    | cdata content h => exact behind h

/-- **The end of an element restores** the bindings that were in force outside. -/
theorem finish_of_behindEnd {stack : List Bindings} {es : List (Event × Bindings)} (h : Restores stack es) :
    ∀ {n : Nat} {rest : List Event}, behindEnd n (es.map Prod.fst) = some rest →
      ∃ passed outside more, es = passed ++ (.finish, outside) :: more ∧ more.map Prod.fst = rest ∧
        stack[n + 1]? = some outside := by
  induction h with
  | nil stack => exact fun h => by cases h
  | start name inside h ih =>
    intro n rest hend
    obtain ⟨passed, outside, more, rfl, hmore, hstack⟩ := ih (n := n + 1) hend
    exact ⟨_ :: passed, outside, more, rfl, hmore, hstack⟩
  | @finish inside outside stack es h ih =>
    intro n rest hend
    cases n with
    | zero => exact ⟨[], outside, es, rfl, Option.some.inj hend, rfl⟩
    | succ n =>
      obtain ⟨passed, outside', more, rfl, hmore, hstack⟩ := ih (n := n) hend
      exact ⟨_ :: passed, outside', more, rfl, hmore, hstack⟩
  | text content h ih =>
    intro n rest hend
    obtain ⟨passed, outside, more, rfl, hmore, hstack⟩ := ih (n := n) hend
    exact ⟨_ :: passed, outside, more, rfl, hmore, hstack⟩
  | cdata content h ih =>
    intro n rest hend
    obtain ⟨passed, outside, more, rfl, hmore, hstack⟩ := ih (n := n) hend
    exact ⟨_ :: passed, outside, more, rfl, hmore, hstack⟩

end Restores

theorem bindingsAt_split {document : Bytes} {before rest : List (Event × Bindings)}
    (h : bound Bindings.initial [] (Token.ofBytes document).items = before ++ rest) :
    bindingsAt document (rest.map Prod.fst) = (before.getLast?.map Prod.snd).getD Bindings.initial := by
  rw [bindingsAt, h, List.length_append, List.length_map, Nat.add_sub_cancel, List.take_left]

/-- **Behind the end of an element the bindings are those from before its start.** -/
theorem bindings_restored {document : Bytes} {name : Name} {uri : Option Bytes} {inside rest : List Event}
    (h : Event.start name uri :: inside <:+ (Event.ofBytes document).items) (hend : behindEnd 0 inside = some rest) :
    bindingsAt document rest = bindingsAt document (.start name uri :: inside) := by
  obtain ⟨passed, hpassed⟩ := h
  have hitems : passed ++ .start name uri :: inside =
      (bound Bindings.initial [] (Token.ofBytes document).items).map Prod.fst := by
    rw [hpassed, Event.ofBytes, Event.items_ofTokens]
  obtain ⟨before, there, hsplit, rfl, hthere⟩ := List.append_eq_map_iff.1 hitems
  obtain ⟨first, es, rfl, hfirst, rfl⟩ := List.map_eq_cons_iff.1 hthere
  have hall := restores_bound (Token.ofBytes document).items Bindings.initial []
  rw [hsplit] at hall
  obtain ⟨stack, hhere⟩ := hall.behind
  have hrestored : ∃ stack', Restores (stack' :: (before.getLast?.map Prod.snd).getD Bindings.initial :: stack) es := by
    obtain ⟨event, bs⟩ := first
    cases hfirst
    cases hhere with
    | start _ _ h => exact ⟨_, h⟩
  obtain ⟨_, hes⟩ := hrestored
  obtain ⟨more, outside, last, rfl, rfl, hstack⟩ := hes.finish_of_behindEnd hend
  have hsplit' : bound Bindings.initial [] (Token.ofBytes document).items =
      (before ++ first :: more ++ [(.finish, outside)]) ++ last := by
    rw [hsplit]
    simp
  have hbefore := bindingsAt_split hsplit
  rw [List.map_cons, hfirst] at hbefore
  rw [bindingsAt_split hsplit', hbefore, List.getLast?_concat]
  exact (Option.some.inj hstack).symm

end ScanDiscovery.Xml
