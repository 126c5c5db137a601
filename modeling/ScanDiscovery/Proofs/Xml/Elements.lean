import ScanDiscovery.Proofs.Xml.Progress
/-!
# Proofs.Xml.Elements — the elements of a document, and those inside each of them

An element is told from all others by the events that follow its beginning.  The elements inside it begin among these,
up to its end (`Event.begun`), and its end is where more elements were closed than opened (`Event.behindEnd`).  What
begins inside an element and what begins behind it are the two halves of what begins (`begun_append`).  Specification
only.
-/
namespace ScanDiscovery.Xml

/-- An element of a document: its absolute path, and the events behind its beginning.  An element has no path where its
name, or that of an element around it, is no text. -/
structure Element where
  path : Option Path
  behind : List Event
  deriving DecidableEq, Repr

namespace Event

/-- The elements that some events begin inside an element at the path `own`, up to its end; `inner` are the paths of
those elements inside it that are open before the events, innermost first. -/
def begun (own : Option Path) : List (Option Path) → List Event → List Element
  | _, [] => []
  | inner, .start name uri :: es =>
    let path := (inner.headD own).bind fun parent => (Content.pathBelow parent name uri).toOption
    ⟨path, es⟩ :: begun own (path :: inner) es
  | [], .finish :: _ => []
  | _ :: inner, .finish :: es => begun own inner es
  | inner, .text _ :: es => begun own inner es
  | inner, .cdata _ :: es => begun own inner es

/-- The events behind the end of an element, of those that follow a place where `n` elements inside it are open; none
where the document ends first. -/
def behindEnd : Nat → List Event → Option (List Event)
  | _, [] => none
  | n, .start _ _ :: es => behindEnd (n + 1) es
  | 0, .finish :: es => some es
  | n + 1, .finish :: es => behindEnd n es
  | n, .text _ :: es => behindEnd n es
  | n, .cdata _ :: es => behindEnd n es

theorem behindEnd_lt : ∀ (es : List Event) {n : Nat} {es' : List Event}, behindEnd n es = some es' →
    es'.length < es.length
  | [], _, _, h => by cases h
  | .start _ _ :: es, _, _, h => Nat.lt_succ_of_lt (behindEnd_lt es h)
  | .finish :: es, 0, _, h => by
    cases h
    exact Nat.lt_succ_self _
  | .finish :: es, _ + 1, _, h => Nat.lt_succ_of_lt (behindEnd_lt es h)
  | .text _ :: es, _, _, h => Nat.lt_succ_of_lt (behindEnd_lt es h)
  | .cdata _ :: es, _, _, h => Nat.lt_succ_of_lt (behindEnd_lt es h)

/-- The end of an element, seen from inside another one in it: first comes the end of that. -/
theorem behindEnd_add : ∀ (es : List Event) {n m : Nat} {es' : List Event}, behindEnd n es = some es' →
    behindEnd (n + (m + 1)) es = behindEnd m es'
  | [], _, _, _, h => by cases h
  | .start _ _ :: es, n, m, es', h => by
    rw [behindEnd, Nat.add_right_comm]
    exact behindEnd_add es h
  | .finish :: es, 0, m, es', h => by
    cases h
    rw [Nat.zero_add, behindEnd]
  | .finish :: es, n + 1, m, es', h => by
    rw [Nat.add_right_comm, behindEnd]
    exact behindEnd_add es h
  | .text _ :: es, n, m, es', h => behindEnd_add (m := m) es h
  | .cdata _ :: es, n, m, es', h => behindEnd_add (m := m) es h

/-- Events that close nothing that was open before them do not end an element around them. -/
theorem behindEnd_nested : ∀ (es : List Event) {n : Nat}, Nested n es → behindEnd n es = none
  | [], _, _ => rfl
  | .start _ _ :: es, _, h => behindEnd_nested es h
  | .finish :: _, 0, h => h.elim
  | .finish :: es, _ + 1, h => behindEnd_nested es h
  | .text _ :: es, _, h => behindEnd_nested es h
  | .cdata _ :: es, _, h => behindEnd_nested es h

theorem begun_lt {own : Option Path} : ∀ (es : List Event) {inner : List (Option Path)},
    ∀ e ∈ begun own inner es, e.behind.length < es.length
  | [], _, _, h => absurd h List.not_mem_nil
  | .start _ _ :: es, _, e, h => by
    rcases List.mem_cons.1 h with rfl | h
    · exact Nat.lt_succ_self _
    · exact Nat.lt_succ_of_lt (begun_lt es e h)
  | .finish :: _, [], _, h => absurd h List.not_mem_nil
  | .finish :: es, _ :: _, e, h => Nat.lt_succ_of_lt (begun_lt es e h)
  | .text _ :: es, _, e, h => Nat.lt_succ_of_lt (begun_lt es e h)
  | .cdata _ :: es, _, e, h => Nat.lt_succ_of_lt (begun_lt es e h)

theorem lt_of_begun {own : Option Path} : ∀ (es : List Event) {inner : List (Option Path)} {es' : List Event},
    behindEnd inner.length es = some es' → ∀ e ∈ begun own inner es, es'.length < e.behind.length
  | [], _, _, h, _, _ => by cases h
  | .start _ _ :: es, _, _, h, e, he => by
    rcases List.mem_cons.1 he with rfl | he
    · exact behindEnd_lt es h
    · exact lt_of_begun es h e he
  | .finish :: _, [], _, _, _, he => absurd he List.not_mem_nil
  | .finish :: es, _ :: _, _, h, e, he => lt_of_begun es h e he
  | .text _ :: es, _, _, h, e, he => lt_of_begun es h e he
  | .cdata _ :: es, _, _, h, e, he => lt_of_begun es h e he

theorem pairwise_begun {own : Option Path} : ∀ (es : List Event) (inner : List (Option Path)),
    (begun own inner es).Pairwise fun a b => b.behind.length < a.behind.length
  | [], _ => .nil
  | .start _ _ :: es, _ => .cons (begun_lt es) (pairwise_begun es _)
  | .finish :: _, [] => .nil
  | .finish :: es, _ :: inner => pairwise_begun es inner
  | .text _ :: es, inner => pairwise_begun es inner
  | .cdata _ :: es, inner => pairwise_begun es inner

theorem nodup_begun (own : Option Path) (inner : List (Option Path)) (es : List Event) :
    (begun own inner es).Nodup :=
  (pairwise_begun es inner).imp fun h he => by
    rw [he] at h
    exact Nat.lt_irrefl _ h

/-- **What begins in an element and behind it.**  Of the elements around a place, the one at the path `p` ends; what
begins from that place on begins inside it or behind its end. -/
theorem begun_append {own p : Option Path} {outer : List (Option Path)} :
    ∀ (es : List Event) (inner : List (Option Path)) {es' : List Event}, behindEnd inner.length es = some es' →
      begun own (inner ++ p :: outer) es = begun p inner es ++ begun own outer es'
  | [], _, _, h => by cases h
  | .start name uri :: es, inner, es', h => by
    have hhead : (inner ++ p :: outer).headD own = inner.headD p := by cases inner <;> rfl
    simp only [begun, hhead, List.cons_append]
    exact congrArg _ (begun_append es (_ :: inner) h)
  | .finish :: _, [], _, h => by
    cases h
    rfl
  | .finish :: es, _ :: inner, _, h => begun_append es inner h
  | .text _ :: es, inner, _, h => begun_append es inner h
  | .cdata _ :: es, inner, _, h => begun_append es inner h

theorem begun_prefix {own p : Option Path} {outer : List (Option Path)} :
    ∀ (es : List Event) (inner : List (Option Path)), begun p inner es <+: begun own (inner ++ p :: outer) es
  | [], _ => List.nil_prefix
  | .start name uri :: es, inner => by
    have hhead : (inner ++ p :: outer).headD own = inner.headD p := by cases inner <;> rfl
    simp only [begun, hhead]
    exact (List.cons_prefix_cons).2 ⟨rfl, begun_prefix es (_ :: inner)⟩
  | .finish :: _, [] => List.nil_prefix
  | .finish :: es, _ :: inner => begun_prefix es inner
  | .text _ :: es, inner => begun_prefix es inner
  | .cdata _ :: es, inner => begun_prefix es inner

end Event

namespace Element

/-- A whole document, as if it were an element with an empty path. -/
def ofBytes (document : Bytes) : Element := ⟨some [], (Event.ofBytes document).items⟩

/-- The elements that stand inside an element, however deep, in document order. -/
def subtree (e : Element) : List Element := Event.begun e.path [] e.behind

theorem lt_of_mem_subtree {e x : Element} (h : x ∈ e.subtree) : x.behind.length < e.behind.length :=
  Event.begun_lt _ x h

/-- What stands inside an element that stands inside another stands inside that. -/
theorem mem_begun_of_subtree {own : Option Path} : ∀ (es : List Event) {inner : List (Option Path)} {e x : Element},
    e ∈ Event.begun own inner es → x ∈ e.subtree → x ∈ Event.begun own inner es
  | [], _, _, _, he, _ => absurd he List.not_mem_nil
  | .start name uri :: es, inner, e, x, he, hx => by
    rcases List.mem_cons.1 he with rfl | he
    · exact List.mem_cons_of_mem _ ((Event.begun_prefix es []).subset hx)
    · exact List.mem_cons_of_mem _ (mem_begun_of_subtree es he hx)
  | .finish :: _, [], _, _, he, _ => absurd he List.not_mem_nil
  | .finish :: es, _ :: _, _, _, he, hx => mem_begun_of_subtree es he hx
  | .text _ :: es, _, _, _, he, hx => mem_begun_of_subtree es he hx
  | .cdata _ :: es, _, _, _, he, hx => mem_begun_of_subtree es he hx

end Element

end ScanDiscovery.Xml
