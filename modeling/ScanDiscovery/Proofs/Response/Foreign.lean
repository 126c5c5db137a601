import ScanDiscovery.Proofs.Response.Inert
import ScanDiscovery.Proofs.Xml.Foreign
/-!
# Proofs.Response.Foreign — elements of other vocabularies in an answer

All paths that are looked for in an answer go by `s` and `scan` (`prefixed_answer`).  An element of an unknown namespace
goes by the prefix that the document gives it; so unless that is one of these two, the element and everything in it
change nothing of what the answer comes to, and if it is, only where something in it is recognised (`foreign_is_inert`).
Specification only.
-/
namespace ScanDiscovery.Response

open Device
open Xml (Bindings Content Event Name Path Token)

/-- The prefixes in the paths of an answer. -/
def pathPrefixes : List (List Char) := ["s".toList, "scan".toList]

theorem prefixed_answer : answerScript.Prefixed pathPrefixes := by
  have hplain : ∀ q ∈ pathPrefixes, ':' ∉ q ∧ '/' ∉ q := by decide
  have hpaths : (∀ path ∈ Region.answer.paths, Path.Begins pathPrefixes path.toList) ∧
      ∀ r ∈ [Region.answer, .description, .configuration, .formats, .source .flatbed],
        ∀ path ∈ r.paths, path.toList ≠ [] ∧ Path.Anchored pathPrefixes path.toList := by
    decide +kernel
  obtain ⟨hbegins, hanchored⟩ := hpaths
  refine ⟨hplain, fun r rel part h => ?_, fun rel part h => ?_⟩
  · obtain ⟨path, hpath, rfl⟩ := Region.mem_paths_of_part h
    cases r with
    | source kind => exact hanchored (.source .flatbed) (by simp) path hpath
    | _ => exact hanchored _ (by simp) path hpath
  · obtain ⟨path, hpath, rfl⟩ := Region.mem_paths_of_part (r := .answer) h
    exact hbegins path hpath

/-- The paths of the elements around what comes behind a beginning, innermost first. -/
def pathsAround (beginning : Bytes) : List (Option Path) :=
  ((Token.before beginning).bind (Event.follow Bindings.initial [])).elim [] fun place => Event.openPaths [] place.1

/-- Behind a beginning, inside another element and in no value that is read: bytes that are one element of an unknown
namespace, with names that are texts. -/
structure ForeignAt (beginning element : Bytes) (name : Name) (uri : Option Bytes) (inside : Content) : Prop where
  within : ∃ place ∈ (Token.before beginning).bind (Event.follow Bindings.initial []),
    place.2.2 ≠ [] ∧ Event.fragment place.2.1 element = some (Content.element name uri inside .nil).events
  unheard : answerScript.stands (pathsAround beginning) ≠ .reading
  unknown : uri.bind Xml.Vocabulary.prefixOf? = none
  named : (Content.element name uri inside .nil).named = .ok ()

instance (beginning element : Bytes) (name : Name) (uri : Option Bytes) (inside : Content) :
    Decidable (ForeignAt beginning element name uri inside) :=
  decidable_of_iff
    ((∃ place ∈ (Token.before beginning).bind (Event.follow Bindings.initial []),
        place.2.2 ≠ [] ∧ Event.fragment place.2.1 element = some (Content.element name uri inside .nil).events) ∧
      answerScript.stands (pathsAround beginning) ≠ .reading ∧ uri.bind Xml.Vocabulary.prefixOf? = none ∧
      (Content.element name uri inside .nil).named = .ok ())
    ⟨fun h => ⟨h.1, h.2.1, h.2.2.1, h.2.2.2⟩, fun h => ⟨h.within, h.unheard, h.unknown, h.named⟩⟩

/-- A name with none of the prefixes in the paths of an answer, that is not empty where the path around it is. -/
def GoesApart (outer : List (Option Path)) (name : Name) : Prop :=
  ∀ n, Xml.Cursor.nameParts none name = .ok n →
    (∀ q ∈ pathPrefixes, n.1 ≠ some q) ∧ (outer.headD (some []) = some [] → n ≠ (none, []))

section

variable {beginning element : Bytes} {name : Name} {uri : Option Bytes} {inside : Content}

theorem ForeignAt.passes (h : ForeignAt beginning element name uri inside)
    (hname : GoesApart (pathsAround beginning) name) :
    answerScript.passes (pathsAround beginning) (Content.element name uri inside .nil).events = true := by
  obtain ⟨place, hplace, -⟩ := h.within
  have hchained : Event.Chained (pathsAround beginning) := by
    rw [pathsAround, hplace]
    exact Event.chained_openPaths place.1 (show Event.Chained [] from trivial)
  obtain ⟨n, hn, hrest⟩ := Xml.bind_eq_ok.1 h.named
  obtain ⟨u, hinside, -⟩ := Xml.bind_eq_ok.1 hrest
  obtain ⟨hother, hne⟩ := hname n hn
  exact prefixed_answer.passes_foreign hchained h.unheard h.unknown hn hinside hne hother

/-- **Elements of other vocabularies do not count**: an answer comes to the same without them, if they go by a prefix of
their own, or else if nothing in them is recognised by its path. -/
theorem foreign_is_inert (h : ForeignAt beginning element name uri inside)
    (hname : GoesApart (pathsAround beginning) name ∨
      answerScript.passes (pathsAround beginning) (Content.element name uri inside .nil).events = true)
    (rest : Bytes) (caps : Capabilities) :
    (decode caps (beginning ++ (element ++ rest))).result = (decode caps (beginning ++ rest)).result ∧
      (decode caps (beginning ++ (element ++ rest))).caps = (decode caps (beginning ++ rest)).caps := by
  have hpasses : answerScript.passes (pathsAround beginning) (Content.element name uri inside .nil).events = true :=
    hname.elim h.passes id
  obtain ⟨⟨before, bs, names⟩, hplace, hnames, hfragment⟩ := h.within
  rw [pathsAround, hplace] at hpasses
  obtain ⟨tokens, htokens, hfollow⟩ := Option.bind_eq_some_iff.1 hplace
  have hplayed : played (beginning ++ (element ++ rest)) = played (beginning ++ rest) := by
    refine answerScript.play_insert htokens (fun before' bs' names' hfollow' => ?_) rest
    obtain ⟨rfl, rfl, rfl⟩ : before = before' ∧ bs = bs' ∧ names = names' := by
      simpa using hfollow.symm.trans hfollow'
    exact ⟨hnames, _, hfragment, hpasses⟩
  exact decode_of_played hplayed caps

end

/-- The back of a feeder, under a prefix that is not declared. -/
def undeclaredBack : Bytes := Utf8.encode "<y:ADFBack><s:Width>7</s:Width></y:ADFBack>".toList

theorem feeder_with_undeclared :
    (decode ∅ (feederAnswer.take 279 ++ (undeclaredBack ++ feederAnswer.drop 279))).result = .ok () := by
  let width : Content := .element ⟨Xml.Vocabulary.bytesOf "s:Width"⟩
    (some (Xml.Vocabulary.bytesOf Xml.Vocabulary.scan)) (.text (Xml.Vocabulary.bytesOf "7") .nil) .nil
  have hforeign : ForeignAt (feederAnswer.take 279) undeclaredBack ⟨Xml.Vocabulary.bytesOf "y:ADFBack"⟩ none width := by
    decide +kernel
  have hname : GoesApart (pathsAround (feederAnswer.take 279)) ⟨Xml.Vocabulary.bytesOf "y:ADFBack"⟩ := by
    have hparts : Xml.Cursor.nameParts none ⟨Xml.Vocabulary.bytesOf "y:ADFBack"⟩ =
        .ok (some ['y'], "ADFBack".toList) := by
      decide +kernel
    rintro n hn
    cases hparts.symm.trans hn
    exact ⟨by decide, fun _ => by decide⟩
  have hsame := foreign_is_inert hforeign (.inl hname) (feederAnswer.drop 279) ∅
  rw [List.take_append_drop] at hsame
  exact hsame.1.trans feederAnswer_read.2.1

/-! ## An element spelt like a known one -/

/-- An answer with a configuration that has no source. -/
def emptyConfiguration : Bytes := writtenAnswer [.element "s:ScannerConfiguration" [] []]

/-- A platen of another vocabulary, which the document spells with the prefix `scan`. -/
def strangePlaten : Bytes :=
  Utf8.encode (Xml.Markup.render (.element "scan:Platen" [("xmlns:scan", "urn:x")]
    [.element "scan:PlatenResolutions" []
      [.element "scan:Widths" [] [.leaf "scan:Width" "300"], .element "scan:Heights" [] [.leaf "scan:Height" "300"]],
    .element "scan:PlatenColor" [] [.leaf "scan:ColorEntry" "RGB24"],
    .element "scan:PlatenMinimumSize" [] [.leaf "scan:Width" "1", .leaf "scan:Height" "1"],
    .element "scan:PlatenMaximumSize" [] [.leaf "scan:Width" "9", .leaf "scan:Height" "9"]]))

def strangeElement (name : String) (inside rest : Content) : Content :=
  .element ⟨Xml.Vocabulary.bytesOf ("scan:" ++ name)⟩ (some (Xml.Vocabulary.bytesOf "urn:x")) inside rest

def strangeLeaf (name value : String) (rest : Content) : Content :=
  strangeElement name (.text (Xml.Vocabulary.bytesOf value) .nil) rest

/-- What stands in `strangePlaten`. -/
def strangeParts : Content :=
  strangeElement "PlatenResolutions" (strangeElement "Widths" (strangeLeaf "Width" "300" .nil)
    (strangeElement "Heights" (strangeLeaf "Height" "300" .nil) .nil))
  (strangeElement "PlatenColor" (strangeLeaf "ColorEntry" "RGB24" .nil)
  (strangeElement "PlatenMinimumSize" (strangeLeaf "Width" "1" (strangeLeaf "Height" "1" .nil))
  (strangeElement "PlatenMaximumSize" (strangeLeaf "Width" "9" (strangeLeaf "Height" "9" .nil)) .nil)))

/-- **A foreign element is taken for a known one** that the document spells it like: without it there is no source. -/
theorem strange_platen_counts :
    ForeignAt (emptyConfiguration.take 216) strangePlaten ⟨Xml.Vocabulary.bytesOf "scan:Platen"⟩
        (some (Xml.Vocabulary.bytesOf "urn:x")) strangeParts ∧
      (decode ∅ (emptyConfiguration.take 216 ++ (strangePlaten ++ emptyConfiguration.drop 216))).result = .ok () ∧
      (decode ∅ (emptyConfiguration.take 216 ++ emptyConfiguration.drop 216)).result = .error .noSources := by
  decide +kernel

end ScanDiscovery.Response
