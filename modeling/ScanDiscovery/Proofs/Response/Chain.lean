import ScanDiscovery.Proofs.Response.Foreign
import ScanDiscovery.Proofs.Xml.Chain
/-!
# Proofs.Response.Chain — what the paths in an answer stand for

Where a scope gives an element by one of the paths that are looked for in an answer, the elements that are open in the
scope are those whose names the path is made of, one for each segment (`path_tells_chain`).  Specification only.
-/
namespace ScanDiscovery.Response

open Device
open Xml (Cursor Event Part Path Reached Scope Tag tagsInside)

/-- **A path that is looked for tells the chain of open elements**: there are as many inside the scope as the path has
segments, and the segments are their names. -/
theorem path_tells_chain {document : Bytes} {entry c c' : Cursor} {s s' : Scope} {path answer : Path} {region : Region}
    {part : Part Region Value} (h : Reached document entry s c) (hn : s.next c = ⟨.ok (some path), s', c'⟩)
    (hr : s'.relative path = .ok answer) (hpart : answerScript.part region answer = some part)
    (hopen : entry.opened <:+ c'.opened)
    (hplain : ∀ t ∈ tagsInside document entry c', ∀ seg, t.segment = .ok seg → '/' ∉ seg)
    (hfirst : entry.path = [] → ∀ t ∈ (tagsInside document entry c').getLast?, t.segment ≠ .ok []) :
    (tagsInside document entry c').length = answer.segments.length ∧
      (tagsInside document entry c').reverse.map Tag.segment = answer.segments.map .ok := by
  have hne : answer ≠ [] := (prefixed_answer.anchored region answer part hpart).1
  have hchain := h.chain hn hr hopen hne hplain hfirst
  have hcount := congrArg List.length hchain
  rw [List.length_map, List.length_map, List.length_reverse] at hcount
  exact ⟨hcount, hchain⟩

/-! ## A front inside a feeder, and one in its name only -/

/-- An element that begins, with no namespace. -/
def beginning (name : String) : Event := .start ⟨Utf8.encode name.toList⟩ none

/-- Inside the root element `x`, before these events. -/
def insideRoot (es : List Event) : Cursor := ⟨es, none, ["x".toList], true⟩

theorem reached_insideRoot {document : Bytes} {es : List Event}
    (h : Cursor.ofBytes document = ⟨beginning "x" :: es, none, [], false⟩) :
    Reached document (insideRoot es) (.within (insideRoot es)) (insideRoot es) := by
  have hnext : Scope.document.next (.ofBytes document) = ⟨.ok (some "x".toList), .document, insideRoot es⟩ := by
    rw [h]
    rfl
  exact (Reached.document.next hnext).within

theorem part_of_front : answerScript.part .configuration "/scan:ADF/scan:ADFFront".toList =
    some (.within (.source .adfSimplex)) := by
  have hpath : ConfigurationPart.ofPath? "/scan:ADF/scan:ADFFront".toList = some (.source .adfSimplex) := by decide
  have hregion : answerScript.part .configuration = Region.part .configuration := rfl
  rw [hregion, Region.part, hpath]
  rfl

def nestedFront : Bytes := Utf8.encode "<x><scan:ADF><scan:ADFFront/></scan:ADF></x>".toList

theorem nestedFront_chain : ∃ entry s s' c c' path, Reached nestedFront entry s c ∧
    s.next c = ⟨.ok (some path), s', c'⟩ ∧ s'.relative path = .ok "/scan:ADF/scan:ADFFront".toList ∧
    (tagsInside nestedFront entry c').reverse.map Tag.segment = [.ok "scan:ADF".toList, .ok "scan:ADFFront".toList] := by
  let inFeeder : List Event := [beginning "scan:ADFFront", .finish, .finish, .finish]
  let feeder : Cursor := ⟨inFeeder, none, ["x/scan:ADF".toList, "x".toList], true⟩
  let front : Cursor := ⟨inFeeder.tail, none, "x/scan:ADF/scan:ADFFront".toList :: feeder.opened, true⟩
  let entry : Cursor := insideRoot (beginning "scan:ADF" :: inFeeder)
  have hread : Cursor.ofBytes nestedFront = ⟨beginning "x" :: beginning "scan:ADF" :: inFeeder, none, [], false⟩ ∧
      (tagsInside nestedFront entry front).map Tag.segment = [.ok "scan:ADFFront".toList, .ok "scan:ADF".toList] := by
    decide +kernel
  obtain ⟨hbegin, htags⟩ := hread
  have hreached : Reached nestedFront entry (.within entry) feeder :=
    (reached_insideRoot hbegin).next (show (Scope.within entry).next entry = ⟨.ok (some _), .within entry, feeder⟩ from rfl)
  have hnext : (Scope.within entry).next feeder = ⟨.ok (some "x/scan:ADF/scan:ADFFront".toList), .within entry, front⟩ :=
    rfl
  have hrelative : (Scope.within entry).relative "x/scan:ADF/scan:ADFFront".toList =
      .ok "/scan:ADF/scan:ADFFront".toList := rfl
  have hopen : entry.opened <:+ front.opened := ⟨["x/scan:ADF/scan:ADFFront".toList, "x/scan:ADF".toList], rfl⟩
  have hplain : ∀ t ∈ tagsInside nestedFront entry front, ∀ seg, t.segment = .ok seg → '/' ∉ seg := by
    intro t ht seg hseg
    have hmem := List.mem_map_of_mem (f := Tag.segment) ht
    rw [htags, hseg] at hmem
    have hsegs : seg = "scan:ADFFront".toList ∨ seg = "scan:ADF".toList := by simpa using hmem
    rcases hsegs with rfl | rfl <;> decide
  have hfirst : entry.path = [] → ∀ t ∈ (tagsInside nestedFront entry front).getLast?, t.segment ≠ .ok [] :=
    fun hempty => absurd hempty (List.cons_ne_nil _ _)
  exact ⟨entry, _, _, feeder, front, _, hreached, hnext, hrelative,
    (path_tells_chain hreached hnext hrelative part_of_front hopen hplain hfirst).2⟩

/-- One element, with a slash in its name. -/
def slashedFront : Bytes := Utf8.encode "<x><scan:ADF/scan:ADFFront></scan:ADF/scan:ADFFront></x>".toList

/-- An answer whose only source stands in such an element. -/
def slashedAnswer : Bytes :=
  writtenAnswer [.element "s:ScannerConfiguration" [] [.element "s:ADF/scan:ADFFront" []
    [.element "s:ADFResolutions" []
      [.element "s:Widths" [] [.leaf "s:Width" "300"], .element "s:Heights" [] [.leaf "s:Height" "300"]],
    .element "s:ADFColor" [] [.leaf "s:ColorEntry" "RGB24"],
    .element "s:ADFMinimumSize" [] [.leaf "s:Width" "1", .leaf "s:Height" "1"],
    .element "s:ADFMaximumSize" [] [.leaf "s:Width" "9", .leaf "s:Height" "9"]]]]

/-- **A slash in a name passes for two elements**: an element that stands alone is given by a path of two segments, and
read for the front of a feeder. -/
theorem slash_in_name :
    (∃ entry s s' c c' path, Reached slashedFront entry s c ∧ s.next c = ⟨.ok (some path), s', c'⟩ ∧
      s'.relative path = .ok "/scan:ADF/scan:ADFFront".toList ∧ entry.opened <:+ c'.opened ∧
      answerScript.part .configuration "/scan:ADF/scan:ADFFront".toList = some (.within (.source .adfSimplex)) ∧
      (Path.segments "/scan:ADF/scan:ADFFront".toList).length = 2 ∧ (tagsInside slashedFront entry c').length = 1) ∧
    (decode ∅ slashedAnswer).result = .ok () := by
  let entry : Cursor := insideRoot [beginning "scan:ADF/scan:ADFFront", .finish, .finish]
  let front : Cursor := ⟨[.finish, .finish], none, ["x/scan:ADF/scan:ADFFront".toList, "x".toList], true⟩
  have hread : Cursor.ofBytes slashedFront =
        ⟨[beginning "x", beginning "scan:ADF/scan:ADFFront", .finish, .finish], none, [], false⟩ ∧
      (tagsInside slashedFront entry front).length = 1 ∧ (decode ∅ slashedAnswer).result = .ok () := by
    decide +kernel
  obtain ⟨hbegin, hcount, hdecode⟩ := hread
  have hopen : entry.opened <:+ front.opened := ⟨["x/scan:ADF/scan:ADFFront".toList], rfl⟩
  exact ⟨⟨entry, .within entry, .within entry, entry, front, "x/scan:ADF/scan:ADFFront".toList, reached_insideRoot hbegin,
    rfl, rfl, hopen, part_of_front, by decide, hcount⟩, hdecode⟩

end ScanDiscovery.Response
