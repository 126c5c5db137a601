import ScanDiscovery.Proofs.Response.Absorb
import ScanDiscovery.Proofs.Xml.Progress
import ScanDiscovery.Proofs.Xml.Visiting
/-!
# Proofs.Response.Reports — what each reader makes of its element

The reader of an element and the report of the element's content are two accounts of the same thing: one moves a
cursor through events, the other is a recursion on the tree that visits the parts of the element and hands each over
whole.  There is one report for each reader, and each reader comes to its report (`reads_source` up to
`delivers_response`); the walk through an answer succeeds exactly on documents that close and whose report does
(`walked_ok_iff`).  Specification only.
-/
namespace ScanDiscovery.Response

open Device
open Xml (Content Report Path handling isPart)
open Xml.Walk (Reads Still Follows reads_text reads_within_each follows_handling)

/-- The report of a reader. -/
abbrev Reported := Report Finding DecodeError

/-! ## Tables of paths -/

theorem ofList_eq_iff {p : Path} {s : String} : String.ofList p = s ↔ p = s.toList :=
  ⟨fun h => by rw [← h, String.toList_ofList], fun h => by rw [h, String.ofList_toList]⟩

section

variable {ρ : Type} {table : List (String × ρ)}

/-- No path of a table is empty or goes on another one behind a slash. -/
def Separate (table : List (String × ρ)) : Prop :=
  ∀ x ∈ table, x.1.toList ≠ [] ∧ ∀ y ∈ table, ¬ (x.1.toList ++ ['/']) <+: y.1.toList

instance : Decidable (Separate table) := inferInstanceAs (Decidable (∀ x ∈ table, _ ∧ ∀ y ∈ table, ¬ _))

theorem mem_of_lookup {p : Path} {part : ρ} (h : table.lookup (String.ofList p) = some part) :
    ∃ x ∈ table, x.1.toList = p := by
  obtain ⟨l, m, hl, -⟩ := List.lookup_eq_some_iff.1 h
  exact ⟨(String.ofList p, part), by rw [hl]; simp, String.toList_ofList⟩

theorem apart_of_separate (h : Separate table) (base : Path) :
    Content.Apart (isPart base fun p => table.lookup (String.ofList p)) := by
  refine Content.apart_isPart fun p part hp => ?_
  obtain ⟨x, hx, rfl⟩ := mem_of_lookup hp
  refine ⟨(h x hx).1, fun rel => ?_⟩
  cases hl : table.lookup (String.ofList (x.1.toList ++ '/' :: rel)) with
  | none => rfl
  | some other =>
    obtain ⟨y, hy, hey⟩ := mem_of_lookup hl
    exact absurd ⟨rel, by rw [hey, List.append_assoc]; rfl⟩ ((h x hx).2 y hy)

/-- Where every part has one path of its own, a path is looked up to find the part that has it. -/
theorem lookup_paths (all : List ρ) (path : ρ → String) (hall : ∀ part, part ∈ all)
    (hinj : ∀ part other, path part = path other → part = other) {p : Path} {part : ρ} :
    (all.map fun part => (path part, part)).lookup (String.ofList p) = some part ↔ p = (path part).toList := by
  have : ∀ l : List ρ, (l.map fun part => (path part, part)).lookup (String.ofList p) = some part ↔
      part ∈ l ∧ p = (path part).toList := by
    intro l
    induction l with
    | nil => simp
    | cons other l ih =>
      rw [List.map_cons, List.lookup_cons, List.mem_cons]
      by_cases hp : String.ofList p = path other
      · rw [beq_iff_eq.2 hp]
        simp only [Option.some.injEq]
        constructor
        · rintro rfl
          exact ⟨.inl rfl, ofList_eq_iff.1 hp⟩
        · rintro ⟨-, he⟩
          exact (hinj _ _ ((ofList_eq_iff.2 he).symm.trans hp)).symm
      · rw [beq_false_of_ne hp]
        simp only [ih]
        constructor
        · rintro ⟨hm, he⟩
          exact ⟨.inr hm, he⟩
        · rintro ⟨rfl | hm, he⟩
          · exact absurd (ofList_eq_iff.2 he) hp
          · exact ⟨hm, he⟩
  rw [this all]
  exact and_iff_right (hall part)

end

/-- The one part at a path. -/
def single (path : String) (p : Path) : Option Unit := [(path, ())].lookup (String.ofList p)

theorem single_eq_some_iff {path : String} {p : Path} {u : Unit} : single path p = some u ↔ p = path.toList :=
  lookup_paths [()] (fun _ => path) (fun _ => List.mem_singleton.2 rfl) (fun _ _ _ => rfl)

theorem single_eq_none_iff {path : String} {p : Path} : single path p = none ↔ String.ofList p ≠ path := by
  rw [Option.eq_none_iff_forall_not_mem, ne_eq, ofList_eq_iff]
  exact ⟨fun h he => h () (single_eq_some_iff.2 he), fun h _ he => h (single_eq_some_iff.1 he)⟩

/-- What the text of an element says. -/
def textItem (k : Content) : Reported (List Char) := .ofExcept (k.value.mapError .malformedXml)

theorem reads_item {σ ν : Type} (p : Path) {w : List Char → Reader σ} (item : List Char → Reported ν) {f : ν → σ}
    (h : ∀ t, Still (w t) ((item t).andThen fun v => .done (f v))) :
    Reads .malformedXml (.text w) p fun k => ((textItem k).andThen item).andThen fun v => .done (f v) := by
  have := reads_text .malformedXml p h
  simp only [← Report.andThen_assoc] at this
  exact this

/-! ## Formats -/

def formatItem (_ : Unit) (k : Content) : Reported (List Char) :=
  (textItem k).andThen fun tag =>
    ⟨if (Format.ofTag? (String.ofList tag)).isNone then [Finding.unknownFormat tag] else [], .ok tag⟩

/-- The formats with the one of a tag, if it is known. -/
def addTag (formats : Formats) (tag : List Char) : Formats :=
  match Format.ofTag? (String.ofList tag) with
  | some f => formats ∪ {f}
  | none => formats

def formatsReport (base : Path) (k : Content) : Reported Formats :=
  k.report .malformedXml (handling base (single formatPath) formatItem addTag) base ∅

theorem follows_format (base : Path) :
    Follows .malformedXml visitFormat (handling base (single formatPath) formatItem addTag) base := by
  refine follows_handling (fun a rel h => ?_) (fun a rel part h => ?_)
  · rw [visitFormat, if_neg (single_eq_none_iff.1 h)]
  · rw [visitFormat, if_pos (ofList_eq_iff.2 (single_eq_some_iff.1 h))]
    refine reads_item _ _ fun tag => ?_
    cases ht : Format.ofTag? (String.ofList tag) with
    | some f => simpa [addTag, ht] using Xml.Walk.still_done (a ∪ {f})
    | none => simpa [addTag, ht] using (Xml.Walk.still_done a).note (Finding.unknownFormat tag)

/-- **The reader of a list of formats comes to the report of the list.** -/
theorem reads_formats (base : Path) {β : Type} {l : Formats → Reader β} {q : Formats → Reported β}
    (hl : ∀ f, Still (l f) (q f)) :
    Reads .malformedXml (.within readFormats l) base fun k => (formatsReport base k).andThen q := by
  have := reads_within_each (follows_format base) ∅ Xml.Walk.still_done hl
  simp only [Report.andThen_done] at this
  exact this

/-! ## Sources -/

/-- What a field of a source says: how it changes what was stated. -/
def fieldItem (kind : SourceKind) : SourceField → Content → Reported (Stated → Stated)
  | .quantity q, k => (textItem k).andThen fun t => .ofExcept ((number q.label t).map fun n s => Stated.add s q n)
  | .colorEntry, k => (textItem k).andThen fun tag =>
    match ColorMode.ofTag? (String.ofList tag) with
    | some m => .done (·.addMode m)
    | none => ⟨[Finding.unknownColor kind tag], .ok id⟩

/-- What was stated, changed. -/
def change (s : Stated) (f : Stated → Stated) : Stated := f s

def statedReport (kind : SourceKind) (base : Path) (k : Content) : Reported Stated :=
  k.report .malformedXml (handling base SourceField.ofPath? (fieldItem kind) change) base .nothing

def sourceReport (kind : SourceKind) (base : Path) (k : Content) : Reported Source :=
  (statedReport kind base k).andThen fun s => .ofExcept (s.toSource kind)

theorem follows_source (kind : SourceKind) (base : Path) :
    Follows .malformedXml (visitSource kind) (handling base SourceField.ofPath? (fieldItem kind) change) base := by
  refine follows_handling (fun a rel h => ?_) (fun a rel part h => ?_)
  · rw [visitSource, h]
  · rw [visitSource, h]
    cases part with
    | quantity q =>
      refine reads_item _ (fun t => .ofExcept ((number q.label t).map fun n s => Stated.add s q n)) fun t => ?_
      beta_reduce
      cases number q.label t with
      | error e => exact Xml.Walk.still_fail e
      | ok n => exact Xml.Walk.still_done _
    | colorEntry =>
      refine reads_item _ _ fun tag => ?_
      cases ColorMode.ofTag? (String.ofList tag) with
      | some m => exact Xml.Walk.still_done _
      | none => exact (Xml.Walk.still_done a).note (Finding.unknownColor kind tag)

theorem still_judge (kind : SourceKind) (s : Stated) : Still (judgeSource kind s) (.ofExcept (s.toSource kind)) := by
  unfold judgeSource
  cases s.toSource kind with
  | error e => exact Xml.Walk.still_fail e
  | ok source => exact Xml.Walk.still_done source

/-- **The reader of a source comes to the report of the source.** -/
theorem reads_source (kind : SourceKind) (base : Path) {β : Type} {l : Source → Reader β} {q : Source → Reported β}
    (hl : ∀ s, Still (l s) (q s)) :
    Reads .malformedXml (.within (readSource kind) l) base fun k => (sourceReport kind base k).andThen q :=
  reads_within_each (follows_source kind base) .nothing (still_judge kind) hl

/-! ## Configurations -/

/-- The path of a part in a configuration. -/
def ConfigurationPart.path : ConfigurationPart → String
  | .formats => "/scan:DeviceSettings/scan:FormatsSupported"
  | .source .flatbed => "/scan:Platen"
  | .source .adfSimplex => "/scan:ADF/scan:ADFFront"
  | .source .adfDuplex => "/scan:ADF/scan:ADFBack"
  | .duplex => "/scan:ADF/scan:ADFSupportsDuplex"

def ConfigurationPart.all : List ConfigurationPart :=
  [.formats, .source .flatbed, .source .adfSimplex, .source .adfDuplex, .duplex]

theorem ConfigurationPart.path_injective {part other : ConfigurationPart} (h : part.path = other.path) :
    part = other := by
  rcases part with _ | ⟨_ | _ | _⟩ | _ <;> rcases other with _ | ⟨_ | _ | _⟩ | _ <;>
    first | rfl | exact absurd h (by decide)

theorem ConfigurationPart.ofPath?_eq_some_iff {rel : Path} {part : ConfigurationPart} :
    ofPath? rel = some part ↔ rel = part.path.toList :=
  lookup_paths all path (fun part => by rcases part with _ | ⟨_ | _ | _⟩ | _ <;> simp [all])
    (fun _ _ => path_injective)

/-- What a part of a configuration says. -/
inductive Said where
  | formats (formats : Formats)
  | source (kind : SourceKind) (source : Source)
  | duplex (yes : Bool)

/-- An overview with what a part adds to it. -/
def Overview.hear (o : Overview) : Said → Overview
  | .formats formats => { o with formats := o.formats ∪ formats }
  | .source kind _ => o.addSource kind
  | .duplex yes => { o with duplex := yes }

/-- The path of the part of a configuration. -/
abbrev partPath (part : ConfigurationPart) : Path := configurationPath.toList ++ part.path.toList

def partItem : ConfigurationPart → Content → Reported Said
  | .formats, k => (formatsReport (partPath .formats) k).andThen fun formats => .done (.formats formats)
  | .source kind, k => (sourceReport kind (partPath (.source kind)) k).andThen fun s =>
    ⟨[.source kind s], .ok (.source kind s)⟩
  | .duplex, k => (textItem k).andThen fun t => .done (.duplex (isTrue t))

def overviewReport (k : Content) : Reported Overview :=
  k.report .malformedXml (handling configurationPath.toList ConfigurationPart.ofPath? partItem .hear)
    configurationPath.toList .nothing

def configurationReport (k : Content) : Reported Unit :=
  (overviewReport k).andThen fun o => ⟨[.configured o], .ok ()⟩

theorem follows_configuration :
    Follows .malformedXml visitConfiguration
      (handling configurationPath.toList ConfigurationPart.ofPath? partItem .hear) configurationPath.toList := by
  refine follows_handling (fun a rel h => ?_) (fun a rel part h => ?_)
  · rw [visitConfiguration, h]
  · rw [visitConfiguration, h, ConfigurationPart.ofPath?_eq_some_iff.1 h]
    cases part with
    | formats =>
      simp only [partItem, Report.andThen_assoc, Report.done_andThen]
      exact reads_formats (partPath .formats) fun _ => Xml.Walk.still_done _
    | source kind =>
      simp only [partItem, Report.andThen_assoc, Report.andThen_ok]
      exact reads_source kind (partPath (.source kind)) fun s => (Xml.Walk.still_done _).note (Finding.source kind s)
    | duplex =>
      refine reads_item _ _ fun t => ?_
      exact Xml.Walk.still_done _

theorem reads_configuration :
    Reads .malformedXml (.within readConfiguration .done) configurationPath.toList configurationReport := by
  have := reads_within_each follows_configuration .nothing
    (fun o => (Xml.Walk.still_done ()).note (Finding.configured o)) Xml.Walk.still_done
  simp only [Report.andThen_done] at this
  exact this

/-! ## Descriptions -/

/-- The scanner's name. -/
def nameItem (_ : Unit) (k : Content) : Reported (List Char) :=
  (textItem k).andThen fun name => ⟨[Finding.named name], .ok name⟩

def descriptionReport (k : Content) : Reported Unit :=
  k.report .malformedXml (handling descriptionPath.toList (single namePath) nameItem fun _ _ => ())
    descriptionPath.toList ()

theorem follows_description :
    Follows .malformedXml
      (fun _ path => if String.ofList path = namePath then .text fun name => .found (.named name) else .done ())
      (handling descriptionPath.toList (single namePath) nameItem fun _ _ => ()) descriptionPath.toList := by
  refine follows_handling (fun a rel h => ?_) (fun a rel part h => ?_)
  · exact if_neg (single_eq_none_iff.1 h)
  · rw [if_pos (ofList_eq_iff.2 (single_eq_some_iff.1 h))]
    exact reads_item _ _ fun name => (Xml.Walk.still_done ()).note (Finding.named name)

theorem reads_description :
    Reads .malformedXml (.within readDescription .done) descriptionPath.toList descriptionReport := by
  have := reads_within_each follows_description () Xml.Walk.still_done Xml.Walk.still_done
  simp only [Report.andThen_done] at this
  exact this

/-! ## Answers -/

/-- An element of an answer that is read. -/
inductive AnswerPart where
  | description
  | configuration
  deriving DecidableEq

namespace AnswerPart

def all : List AnswerPart := [.description, .configuration]

def path : AnswerPart → String
  | .description => descriptionPath
  | .configuration => configurationPath

def ofPath? (p : Path) : Option AnswerPart := (all.map fun part => (part.path, part)).lookup (String.ofList p)

theorem path_injective {part other : AnswerPart} (h : part.path = other.path) : part = other := by
  cases part <;> cases other <;> first | rfl | exact absurd h (by decide +kernel)

theorem ofPath?_eq_some_iff {p : Path} {part : AnswerPart} : ofPath? p = some part ↔ p = part.path.toList :=
  lookup_paths all path (fun part => by cases part <;> simp [all]) (fun _ _ => path_injective)

end AnswerPart

def answerItem : AnswerPart → Content → Reported Unit
  | .description, k => descriptionReport k
  | .configuration, k => configurationReport k

def responseReport (k : Content) : Reported Unit :=
  k.report .malformedXml (handling [] AnswerPart.ofPath? answerItem fun _ _ => ()) [] ()

/-- The reader of a part. -/
def AnswerPart.reader : AnswerPart → Reader Unit
  | .description => readDescription
  | .configuration => readConfiguration

/-- What an element of an answer adds. -/
def visitAnswer (_ : Unit) (p : Path) : Reader Unit :=
  match AnswerPart.ofPath? p with
  | none => .done ()
  | some part => .within part.reader .done

theorem readResponse_eq : readResponse = .each visitAnswer () .done := by
  unfold readResponse readAt visitAnswer
  congr 1
  funext _ p
  simp only [AnswerPart.ofPath?, AnswerPart.all, List.map_cons, List.map_nil, List.lookup_cons, List.lookup_nil,
    AnswerPart.path]
  cases String.ofList p == descriptionPath with
  | true => rfl
  | false => cases String.ofList p == configurationPath <;> rfl

theorem follows_response :
    Follows .malformedXml visitAnswer (handling [] AnswerPart.ofPath? answerItem fun _ _ => ()) [] := by
  refine follows_handling (fun a rel h => ?_) (fun a rel part h => ?_)
  · rw [visitAnswer, h]
  · rw [visitAnswer, h, List.nil_append, AnswerPart.ofPath?_eq_some_iff.1 h]
    have hd : ∀ k, ((answerItem part k).andThen fun _ => .done ()) = answerItem part k := fun k =>
      Report.andThen_done _
    simp only [hd]
    cases part with
    | description => exact reads_description
    | configuration => exact reads_configuration

/-- **An answer of which every element is closed** is walked through to its report. -/
theorem delivers_response {document : Bytes} {k : Content} (h : Xml.Event.ofBytes document = ⟨k.events, none⟩) :
    (walked document).Delivers
      ((responseReport k).andThen fun _ =>
        if k.hasElement then .done () else .ofExcept (.error (.malformedXml .missingRoot)))
      { Xml.Scope.document with finished := true } ⟨[], none, [], k.hasElement⟩ := by
  rw [walked, readResponse_eq]
  exact Xml.Walk.delivers_document follows_response () Xml.Walk.still_done h

/-- **The walk through an answer succeeds** exactly on a document of which every element is closed, which has one, and
of which the report is no failure. -/
theorem walked_ok_iff {document : Bytes} {fs : List Finding} :
    (walked document).result = .ok () ∧ Xml.Mark.findings (walked document).trace = fs ↔
      ∃ k : Content, Xml.Event.ofBytes document = ⟨k.events, none⟩ ∧ k.hasElement = true ∧
        responseReport k = ⟨fs, .ok ()⟩ := by
  constructor
  · rintro ⟨h, hfs⟩
    rw [walked, readResponse_eq] at h
    obtain ⟨k, hk, hroot⟩ := Xml.Walk.closed_of_run _ h
    rw [← readResponse_eq] at h
    have hd := delivers_response hk
    rw [hroot, if_pos rfl, show (fun _ : Unit => Report.done ()) = (Report.done : Unit → Reported Unit) from rfl,
      Report.andThen_done] at hd
    refine ⟨k, hk, hroot, ?_⟩
    rw [← hfs, hd.findings, ← h, hd.result]
  · rintro ⟨k, hk, hroot, hr⟩
    have hd := delivers_response hk
    rw [hroot, hr] at hd
    exact ⟨hd.result, hd.findings.trans (List.append_nil fs)⟩

/-- **An answer that can be used, by its tree.** -/
theorem decode_of_tree {caps c : Capabilities} {document : Bytes} {k : Content} {fs : List Finding}
    (hk : Xml.Event.ofBytes document = ⟨k.events, none⟩) (hroot : k.hasElement = true)
    (hr : responseReport k = ⟨fs, .ok ()⟩) (hc : absorb caps fs = .ok c) (hn : c.sourceNames ≠ []) :
    (decode caps document).result = .ok () ∧ (decode caps document).caps = complete c.rebuildNames := by
  obtain ⟨hw, rfl⟩ := walked_ok_iff.2 ⟨k, hk, hroot, hr⟩
  exact decode_of_absorb hc hw hn

theorem tree_of_decode {caps : Capabilities} {document : Bytes} (h : (decode caps document).result = .ok ()) :
    ∃ k fs c, Xml.Event.ofBytes document = ⟨k.events, none⟩ ∧ k.hasElement = true ∧
      responseReport k = ⟨fs, .ok ()⟩ ∧ absorb caps fs = .ok c ∧ (decode caps document).caps = complete c.rebuildNames ∧
      c.sourceNames ≠ [] := by
  obtain ⟨c, hc, hw, hn⟩ := decode_ok_iff.1 h
  obtain ⟨k, hk, hroot, hr⟩ := walked_ok_iff.1 ⟨hw, rfl⟩
  exact ⟨k, _, c, hk, hroot, hr, hc, (decode_of_absorb hc hw hn).2, hn⟩

end ScanDiscovery.Response
