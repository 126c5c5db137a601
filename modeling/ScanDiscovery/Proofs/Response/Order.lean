import ScanDiscovery.Proofs.Response.Reference
import ScanDiscovery.Proofs.Response.Stated
import ScanDiscovery.Proofs.Xml.Rearranged
/-!
# Proofs.Response.Order — the parts of a configuration may come in any order

The formats of the device, double-sided scanning, the front and the back of the feeder are collected while a
configuration is read, and put together at its end.  So siblings in a configuration may change places (`isLoose`), at any
depth and in as many elements as one likes, and nothing comes of it as long as no part of which the first or the last one
counts is there twice (`Once`): an answer can be used in one order if and only if it can be in the other, and the same
is known then (`decode_rearranged`).  Specification only.
-/
namespace ScanDiscovery.Response

open Device
open Xml (Content Path isPart)
open Xml.Content (Rearranged)

/-! ## Places -/

/-- Where a configuration has values. -/
def valuePaths : List Path :=
  partPath .duplex :: (partPath .formats ++ formatPath.toList) ::
    SourceKind.all.flatMap fun kind => SourceField.paths.map fun field => partPath (.source kind) ++ field.1.toList

/-- Whether siblings in the element at a path may change places: in a configuration, except in its values. -/
def isLoose (p : Path) : Bool :=
  (p = configurationPath.toList || (configurationPath.toList ++ ['/']).isPrefixOf p) && !valuePaths.contains p

theorem isLoose_value {p : Path} (h : p ∈ valuePaths) : isLoose p = false := by
  rw [isLoose, List.contains_iff_mem.2 h, Bool.not_true, Bool.and_false]

theorem isLoose_field {kind : SourceKind} {rel : Path} {field : SourceField} (h : SourceField.ofPath? rel = some field) :
    isLoose (partPath (.source kind) ++ rel) = false := by
  obtain ⟨x, hx, rfl⟩ := mem_of_lookup h
  have hkind : kind ∈ SourceKind.all := by cases kind <;> decide
  exact isLoose_value (List.mem_cons_of_mem _ (List.mem_cons_of_mem _
    (List.mem_flatMap.2 ⟨kind, hkind, List.mem_map.2 ⟨x, hx, rfl⟩⟩)))

theorem prefix_of_isLoose {p : Path} (h : isLoose p = true) : configurationPath.toList <+: p := by
  rw [isLoose, Bool.and_eq_true, Bool.or_eq_true, List.isPrefixOf_iff_prefix, decide_eq_true_eq] at h
  rcases h.1 with rfl | h
  · exact List.prefix_refl _
  · exact (List.prefix_append _ _).trans h

/-! ## What must be there once -/

/-- No part of which the first or the last one counts is there twice. -/
structure Once (k : Content) : Prop where
  part : ∀ part, part ≠ .formats → (k.contentsAt configurationPath.toList (ConfigurationPart.path part)).length ≤ 1
  bound : ∀ kind, ∀ e ∈ k.contentsAt configurationPath.toList (ConfigurationPart.source kind).path,
    ∀ q, q ≠ .resolutionWidth → q ≠ .resolutionHeight → ((fieldsIn kind e).filter (·.1 = .quantity q)).length ≤ 1

theorem eq_of_perm {α : Type} {l l' : List α} (h : l.Perm l') (hone : l.length ≤ 1) : l = l' := by
  match l, hone, h with
  | [], _, h => exact h.nil_eq
  | [a], _, h => exact List.singleton_perm.1 h

theorem length_numbersOf (q : Quantity) : ∀ xs : List (SourceField × Content),
    (numbersOf q xs).length ≤ (xs.filter (·.1 = .quantity q)).length
  | [] => Nat.le_refl _
  | (field, k) :: xs => by
    have ih := length_numbersOf q xs
    unfold numbersOf at ih ⊢
    by_cases hx : field = .quantity q
    · rw [List.filter_cons_of_pos (by simpa using hx), List.length_cons, List.filterMap_cons]
      split
      · exact Nat.le_succ_of_le ih
      · exact Nat.succ_le_succ ih
    · rw [List.filter_cons_of_neg (by simpa using hx), List.filterMap_cons_none (by simp [hx])]
      exact ih

/-! ## Sources -/

section

variable {kind : SourceKind} {e e' : Content} (h : Rearranged isLoose (partPath (.source kind)) e e')

include h

theorem fields_rearranged :
    Multiset.Rel (fun x y : SourceField × Content => x.1 = y.1 ∧ ∀ t, x.2.value = .ok t ↔ y.2.value = .ok t)
      (fieldsIn kind e : Multiset (SourceField × Content)) (fieldsIn kind e') := by
  refine (h.parts SourceField.ofPath?).mono fun x _ y _ hxy => ?_
  obtain ⟨hfield, rel, hrel, hr⟩ := hxy
  exact ⟨hfield, fun t => hr.value_iff (isLoose_field hrel) t⟩

theorem count_rearranged (q : Quantity) :
    ((fieldsIn kind e).filter (·.1 = .quantity q)).length = ((fieldsIn kind e').filter (·.1 = .quantity q)).length := by
  have hperm : ((fieldsIn kind e).map (·.1)).Perm ((fieldsIn kind e').map (·.1)) := by
    rw [← Multiset.coe_eq_coe, ← Multiset.map_coe, ← Multiset.map_coe, ← Multiset.rel_eq, Multiset.rel_map]
    exact (fields_rearranged h).mono fun x _ y _ hxy => hxy.1
  have hlen := (hperm.filter (· = .quantity q)).length_eq
  rwa [List.filter_map, List.filter_map, List.length_map, List.length_map] at hlen

theorem numbers_rearranged (q : Quantity) : (numbersOf q (fieldsIn kind e)).Perm (numbersOf q (fieldsIn kind e')) :=
  Xml.filterMap_perm_of_rel (fields_rearranged h) fun x y hxy => by rw [hxy.1, toOption_congr hxy.2]

theorem modes_rearranged : (modesOf (fieldsIn kind e)).Perm (modesOf (fieldsIn kind e')) :=
  Xml.filterMap_perm_of_rel (fields_rearranged h) fun x y hxy => by rw [hxy.1, toOption_congr hxy.2]

/-- **A source is the same in any order of its fields**, as long as no bound is there twice. -/
theorem sourceIn_rearranged
    (hone : ∀ q, q ≠ .resolutionWidth → q ≠ .resolutionHeight →
      ((fieldsIn kind e).filter (·.1 = .quantity q)).length ≤ 1) (s : Source) :
    sourceIn kind e = .ok s ↔ sourceIn kind e' = .ok s := by
  have hbound : ∀ q, q ≠ .resolutionWidth → q ≠ .resolutionHeight →
      numbersOf q (fieldsIn kind e) = numbersOf q (fieldsIn kind e') := fun q hw hh =>
    eq_of_perm (numbers_rearranged h q) ((length_numbersOf q _).trans (hone q hw hh))
  have hmodes : (ColorModes.ofPred fun m => m ∈ modesOf (fieldsIn kind e)) =
      ColorModes.ofPred fun m => m ∈ modesOf (fieldsIn kind e') := by
    refine ColorModes.ext_mem fun m => ?_
    rw [ColorModes.mem_iff, ColorModes.mem_iff, ColorModes.has_ofPred, ColorModes.has_ofPred, decide_eq_true_eq,
      decide_eq_true_eq, (modes_rearranged h).mem_iff]
  have hverdict : (Stated.nothing.also (fieldsIn kind e)).toSource kind =
      (Stated.nothing.also (fieldsIn kind e')).toSource kind := by
    refine toSource_congr (fun n => ?_) (fun n => ?_) ?_ ?_ ?_ ?_ ?_ kind
    · exact (numbers_rearranged h .resolutionWidth).mem_iff
    · exact (numbers_rearranged h .resolutionHeight).mem_iff
    · exact congrArg (Stated.nothing.colorModes ∪ ·) hmodes
    all_goals exact congrArg List.head? (hbound _ (by decide) (by decide))
  rw [sourceIn_iff, sourceIn_iff, h.clear_iff, hverdict]
  refine and_congr_right fun _ => and_congr_left fun _ => ?_
  refine Xml.forall_mem_iff_of_rel (fields_rearranged h) fun x y hxy => exists_congr fun t => ?_
  rw [hxy.1, hxy.2 t]

end

/-! ## A configuration -/

theorem texts_rearranged {base : Path} {path : String} {k k' : Content} (h : Rearranged isLoose base k k')
    (hp : base ++ path.toList ∈ valuePaths) : (textsAt base path k).Perm (textsAt base path k') :=
  Xml.filterMap_perm_of_rel (h.contentsAt path) fun _ _ hxy => toOption_congr (hxy.value_iff (isLoose_value hp))

section

variable {k k' : Content} (h : Rearranged isLoose configurationPath.toList k k')

include h

theorem formatsIn_rearranged : formatsIn k = formatsIn k' := by
  have hsub : ∀ {k k' : Content}, Rearranged isLoose configurationPath.toList k k' → ∀ tag ∈ formatTags k,
      tag ∈ formatTags k' := by
    intro k k' h tag htag
    obtain ⟨f, hf, htag⟩ := List.mem_flatMap.1 htag
    obtain ⟨f', hf', hff⟩ := Multiset.exists_mem_of_rel_of_mem (h.contentsAt ConfigurationPart.formats.path)
      (Multiset.mem_coe.2 hf)
    refine List.mem_flatMap.2 ⟨f', Multiset.mem_coe.1 hf', ?_⟩
    exact (texts_rearranged hff (List.mem_cons_of_mem _ List.mem_cons_self)).mem_iff.1 htag
  refine Formats.ext_mem fun f => ?_
  rw [mem_formatsIn, mem_formatsIn]
  exact exists_congr fun tag => and_congr_left fun _ => ⟨hsub h tag, hsub h.symm tag⟩

theorem once_rearranged (hone : Once k) : Once k' where
  part part hp := by
    rw [← Xml.length_eq_of_rel (h.contentsAt part.path)]
    exact hone.part part hp
  bound kind e' he' q hw hh := by
    obtain ⟨e, he, hee⟩ := Multiset.exists_mem_of_rel_of_mem
      (Multiset.rel_flip.2 (h.contentsAt (ConfigurationPart.source kind).path)) (Multiset.mem_coe.2 he')
    rw [← count_rearranged hee q]
    exact hone.bound kind e (Multiset.mem_coe.1 he) q hw hh

variable (hone : Once k)

include hone

theorem duplexIn_rearranged : duplexIn k = duplexIn k' := by
  have hlen : (textsAt configurationPath.toList "/scan:ADF/scan:ADFSupportsDuplex" k).length ≤ 1 :=
    (List.length_filterMap_le _ _).trans (hone.part .duplex (by decide))
  have htexts : textsAt configurationPath.toList "/scan:ADF/scan:ADFSupportsDuplex" k =
      textsAt configurationPath.toList "/scan:ADF/scan:ADFSupportsDuplex" k' :=
    eq_of_perm (texts_rearranged h List.mem_cons_self) hlen
  rw [duplexIn, duplexIn, htexts]

theorem sources_rearranged (kind : SourceKind) :
    Multiset.Rel (fun e e' => ∀ s, sourceIn kind e = .ok s ↔ sourceIn kind e' = .ok s)
      (k.contentsAt configurationPath.toList (ConfigurationPart.source kind).path : Multiset Content)
      (k'.contentsAt configurationPath.toList (ConfigurationPart.source kind).path) :=
  (h.contentsAt _).mono fun e he _ _ hee => sourceIn_rearranged hee (hone.bound kind e (Multiset.mem_coe.1 he))

theorem sourcesIn_rearranged (kind : SourceKind) : sourcesIn kind k = sourcesIn kind k' := by
  have hlen : (sourcesIn kind k).length ≤ 1 :=
    (List.length_filterMap_le _ _).trans (hone.part (.source kind) ConfigurationPart.noConfusion)
  exact eq_of_perm (Xml.filterMap_perm_of_rel (sources_rearranged h hone kind) fun _ _ hee => toOption_congr hee) hlen

theorem firstOf_rearranged (kind : SourceKind) : firstOf kind k = firstOf kind k' := by
  rw [firstOf, firstOf, sourcesIn_rearranged h hone, formatsIn_rearranged h]

theorem duplexOf_rearranged : duplexOf k = duplexOf k' := by
  rw [duplexOf, duplexOf, firstOf_rearranged h hone, firstOf_rearranged h hone, duplexIn_rearranged h hone]

end

/-! ## An answer -/

theorem ne_nil_of_apart {p q : Path} (h : ¬ p <+: q) : p ≠ [] := by
  rintro rfl
  exact h List.nil_prefix

section

variable {content content' k : Content} (h : Rearranged isLoose [] content content')
  (hconf : content.contentsAt [] configurationPath = [k])

include h

theorem descriptions_rearranged :
    content.contentsAt [] descriptionPath = content'.contentsAt [] descriptionPath := by
  have hapart : ¬ configurationPath.toList <+: descriptionPath.toList ∧
      ¬ descriptionPath.toList <+: configurationPath.toList := by decide +kernel
  have hwant : ∀ rel, isLoose (descriptionPath.toList ++ rel) = false := by
    refine fun rel => Bool.eq_false_iff.2 fun hp => ?_
    rcases List.prefix_or_prefix_of_prefix (prefix_of_isLoose hp) (List.prefix_append _ rel) with hc | hd
    · exact hapart.1 hc
    · exact hapart.2 hd
  have hloose : ∀ p, isLoose p = true → p ≠ [] ∧
      ∀ rel, decide (p ++ '/' :: rel = [] ++ descriptionPath.toList) = false := by
    intro p hp
    have hpre := prefix_of_isLoose hp
    refine ⟨fun hnil => ?_, fun rel => decide_eq_false fun he => ?_⟩
    · rw [hnil] at hpre
      exact ne_nil_of_apart hapart.1 (List.prefix_nil.1 hpre)
    · have hlonger := hpre.trans (List.prefix_append p ('/' :: rel))
      rw [he, List.nil_append] at hlonger
      exact hapart.1 hlonger
  rw [Content.contentsAt, Content.contentsAt, h.elements_eq hloose]
  intro p hp
  obtain rfl : p = descriptionPath.toList := of_decide_eq_true hp
  exact ⟨ne_nil_of_apart hapart.2, by simpa using hwant [], fun rel => hwant ('/' :: rel)⟩

include hconf

theorem configuration_rearranged :
    ∃ k', content'.contentsAt [] configurationPath = [k'] ∧ Rearranged isLoose configurationPath.toList k k' := by
  have hrel := h.contentsAt configurationPath
  rw [hconf] at hrel
  obtain ⟨k', l, hk, hl, hconf'⟩ := List.forall₂_cons_left_iff.1 (Xml.forall₂_of_rel hrel (Nat.le_refl 1))
  rw [List.forall₂_nil_left_iff.1 hl] at hconf'
  exact ⟨k', hconf', hk⟩

end

/-- **An answer that is accepted is accepted in any order** of its configuration. -/
theorem Accepted.rearranged {content content' k k' : Content} (h : Rearranged isLoose [] content content')
    (hk : Rearranged isLoose configurationPath.toList k k') (hone : Once k) (ha : Accepted content k) :
    Accepted content' k' := by
  have hvalue : ∀ {p : Path} {e e' : Content}, p ∈ valuePaths → Rearranged isLoose p e e' →
      ((∃ t, e.value = .ok t) ↔ ∃ t, e'.value = .ok t) := fun hp he =>
    exists_congr fun t => he.value_iff (isLoose_value hp) t
  have hsources := fun kind => sources_rearranged hk hone kind
  have hpresent : ∀ path : String, k.contentsAt configurationPath.toList path ≠ [] →
      k'.contentsAt configurationPath.toList path ≠ [] := by
    intro path hne
    rw [← List.length_pos_iff] at hne ⊢
    rwa [← Xml.length_eq_of_rel (hk.contentsAt path)]
  have hread : ∀ kind, ∀ e ∈ k'.contentsAt configurationPath.toList (ConfigurationPart.source kind).path,
      ∃ s, sourceIn kind e = .ok s := fun kind =>
    (Xml.forall_mem_iff_of_rel (hsources kind) fun _ _ hee => exists_congr hee).1 (ha.sources kind)
  refine ⟨⟨⟨(h.clear_iff _).1 ha.legible.answer, ?_, (hk.clear_iff _).1 ha.legible.configuration, ?_, ?_,
    fun kind e he => ?_⟩, fun kind e he x hx q hq => ?_, hread⟩, ha.present.imp (hpresent _) (hpresent _)⟩
  · rw [← descriptions_rearranged h]
    exact ha.legible.description
  · refine (Xml.forall_mem_iff_of_rel (hk.contentsAt _) fun f f' hf => ?_).1 ha.legible.formats
    refine and_congr (hf.clear_iff _) (Xml.forall_mem_iff_of_rel (hf.contentsAt formatPath) fun _ _ => hvalue ?_)
    exact List.mem_cons_of_mem _ List.mem_cons_self
  · exact (Xml.forall_mem_iff_of_rel (hk.contentsAt _) fun _ _ => hvalue List.mem_cons_self).1 ha.legible.duplex
  · obtain ⟨s, hs⟩ := hread kind e he
    obtain ⟨hc, hf, -⟩ := sourceIn_iff.1 hs
    exact ⟨hc, fun x hx => (hf x hx).imp fun t ht => ht.1⟩
  · obtain ⟨s, hs⟩ := hread kind e he
    obtain ⟨t, ht, hn⟩ := (sourceIn_iff.1 hs).2.1 x hx
    obtain ⟨n, hn⟩ := hn q hq
    exact ⟨t, n, ht, Decimal.unsigned?_eq_some_iff.1 (number_eq_ok.1 hn)⟩

theorem answered_rearranged {document document' : Bytes} {content content' k : Content}
    (ht : Answered document content k) (hevents : Xml.Event.ofBytes document' = ⟨content'.events, none⟩)
    (h : Rearranged isLoose [] content content') :
    ∃ k', Answered document' content' k' ∧ Rearranged isLoose configurationPath.toList k k' := by
  obtain ⟨k', hconf', hk⟩ := configuration_rearranged h ht.configuration
  have hne : content'.contentsAt [] configurationPath ≠ [] := by
    rw [hconf']
    exact List.cons_ne_nil _ _
  exact ⟨k', ⟨hevents, Content.hasElement_of_contentsAt hne, hconf'⟩, hk⟩

theorem reference_rearranged {content content' k k' : Content} (h : Rearranged isLoose [] content content')
    (hk : Rearranged isLoose configurationPath.toList k k') (hone : Once k) :
    reference content k = reference content' k' := by
  rw [reference, reference, namesIn, namesIn, descriptions_rearranged h, firstOf_rearranged hk hone,
    firstOf_rearranged hk hone, duplexOf_rearranged hk hone]

/-- **The parts of a configuration may come in any order**: an answer and the same answer with siblings in its
configuration in another order can both be used or neither can, and what is known afterwards is the same. -/
theorem decode_rearranged {document document' : Bytes} {content content' k : Content}
    (ht : Answered document content k) (hone : Once k)
    (hevents : Xml.Event.ofBytes document' = ⟨content'.events, none⟩) (h : Rearranged isLoose [] content content') :
    ((decode ∅ document).result = .ok () ↔ (decode ∅ document').result = .ok ()) ∧
      (decode ∅ document).caps = (decode ∅ document').caps := by
  obtain ⟨k', ht', hk⟩ := answered_rearranged ht hevents h
  have hiff : Accepted content k ↔ Accepted content' k' :=
    ⟨fun ha => ha.rearranged h hk hone, fun ha => ha.rearranged h.symm hk.symm (once_rearranged hk hone)⟩
  have hok : (decode ∅ document).result = .ok () ↔ (decode ∅ document').result = .ok () := by
    rw [decode_ok_iff_of_answered ht, decode_ok_iff_of_answered ht', hiff]
  refine ⟨hok, ?_⟩
  cases hr : (decode ∅ document).result with
  | ok u =>
    have ha := (decode_ok_iff_of_answered ht).1 hr
    rw [(decode_of_accepted ht ha).2, (decode_of_accepted ht' (hiff.1 ha)).2, reference_rearranged h hk hone]
  | error e =>
    cases hr' : (decode ∅ document').result with
    | ok u =>
      rw [hok.2 hr'] at hr
      cases hr
    | error e' => rw [caps_of_error hr, caps_of_error hr']

/-! ## The feeder's answer, reordered -/

/-- The path below `parent` of an element of the vocabulary of SOAP, as `writtenTree` spells it. -/
def soapPath (parent : Path) (name : String) : Except Xml.Error Path :=
  Content.pathBelow parent ⟨Xml.Vocabulary.bytesOf name⟩ (some (Xml.Vocabulary.bytesOf Xml.Vocabulary.soap12))

/-- The path below `parent` of an element of the scanners' own vocabulary. -/
def scanPath (parent : Path) (name : String) : Except Xml.Error Path :=
  Content.pathBelow parent ⟨Xml.Vocabulary.bytesOf ("s:" ++ name)⟩ (some (Xml.Vocabulary.bytesOf Xml.Vocabulary.scan))

theorem written_paths :
    let response : Path := "s:Envelope/s:Body/scan:GetScannerElementsResponse".toList
    let feeder : Path := configurationPath.toList ++ "/scan:ADF".toList
    (soapPath [] "Envelope" = .ok "s:Envelope".toList ∧
      soapPath "s:Envelope".toList "Body" = .ok "s:Envelope/s:Body".toList ∧
      scanPath "s:Envelope/s:Body".toList "GetScannerElementsResponse" = .ok response ∧
      scanPath response "ScannerElements" = .ok (response ++ "/scan:ScannerElements".toList) ∧
      scanPath (response ++ "/scan:ScannerElements".toList) "ElementData" = .ok elementData.toList) ∧
    (scanPath elementData.toList "ScannerConfiguration" = .ok configurationPath.toList ∧
      scanPath configurationPath.toList "ADF" = .ok feeder ∧ isLoose feeder = true ∧
      scanPath feeder "ADFFront" = .ok (partPath (.source .adfSimplex)) ∧
      isLoose (partPath (.source .adfSimplex)) = true) := by
  decide +kernel

theorem rearranged_written {loose : Path → Bool} {data data' : Content}
    (h : Rearranged loose elementData.toList data data') :
    Rearranged loose [] (writtenTree data) (writtenTree data') := by
  obtain ⟨⟨henvelope, hbody, hresponse, helements, hdata⟩, -⟩ := written_paths
  exact .inside .nil henvelope (.inside .nil hbody (.inside .nil hresponse (.inside .nil helements
    (.inside .nil hdata h))))

/-- The parts of the front the other way round. -/
def reorderedFront : Content :=
  frontSize "ADFMaximumSize" "9" (frontSize "ADFMinimumSize" "1" (frontColors (frontResolutions .nil)))

/-- `feederTree` with the duplex flag behind the reordered front. -/
def reorderedTree : Content :=
  scanElement "ADF" (scanElement "ADFFront" reorderedFront (scanLeaf "ADFSupportsDuplex" "1" .nil)) .nil

def feederReordered : Bytes :=
  writtenAnswer [.element "s:ScannerConfiguration" [] [.element "s:ADF" []
    [.element "s:ADFFront" []
      [.element "s:ADFMaximumSize" [] [.leaf "s:Width" "9", .leaf "s:Height" "9"],
      .element "s:ADFMinimumSize" [] [.leaf "s:Width" "1", .leaf "s:Height" "1"],
      .element "s:ADFColor" [] [.leaf "s:ColorEntry" "RGB24"],
      .element "s:ADFResolutions" []
        [.element "s:Widths" [] [.leaf "s:Width" "300"], .element "s:Heights" [] [.leaf "s:Height" "300"]]],
    .leaf "s:ADFSupportsDuplex" "1"]]]

theorem feederTree_read :
    Xml.Event.ofBytes feederAnswer =
        ⟨(writtenTree (scanElement "ScannerConfiguration" feederTree .nil)).events, none⟩ ∧
      (writtenTree (scanElement "ScannerConfiguration" feederTree .nil)).contentsAt [] configurationPath =
        [feederTree] ∧
      Xml.Event.ofBytes feederReordered =
        ⟨(writtenTree (scanElement "ScannerConfiguration" reorderedTree .nil)).events, none⟩ := by
  decide +kernel

theorem once_feederTree : Once feederTree := by
  have hcounts : (∀ part ∈ ConfigurationPart.all,
        (feederTree.contentsAt configurationPath.toList (ConfigurationPart.path part)).length ≤ 1) ∧
      (∀ kind ∈ SourceKind.all, ∀ e ∈ feederTree.contentsAt configurationPath.toList
        (ConfigurationPart.source kind).path, ∀ q ∈ [Quantity.minWidth, .minHeight, .maxWidth, .maxHeight],
          ((fieldsIn kind e).filter (·.1 = .quantity q)).length ≤ 1) := by
    decide +kernel
  refine ⟨fun part _ => hcounts.1 part ?_, fun kind e he q hw hh => hcounts.2 kind ?_ e he q ?_⟩
  · rcases part with _ | ⟨_ | _ | _⟩ | _ <;> decide
  · cases kind <;> decide
  · cases q <;> first | exact absurd rfl hw | exact absurd rfl hh | decide

theorem rearranged_feederTree :
    Rearranged isLoose elementData.toList (scanElement "ScannerConfiguration" feederTree .nil)
      (scanElement "ScannerConfiguration" reorderedTree .nil) := by
  obtain ⟨-, hconf, hadf, hlooseFeeder, hfront, hlooseFront⟩ := written_paths
  have hflag : Rearranged isLoose (configurationPath.toList ++ "/scan:ADF".toList)
      (scanLeaf "ADFSupportsDuplex" "1" (scanElement "ADFFront" feederFront .nil))
      (scanElement "ADFFront" feederFront (scanLeaf "ADFSupportsDuplex" "1" .nil)) :=
    .shuffle hlooseFeeder (.swap _ _ _)
  have hparts : Rearranged isLoose (partPath (.source .adfSimplex)) feederFront reorderedFront :=
    .shuffle hlooseFront (List.reverse_perm feederFront.children).symm
  exact .inside .nil hconf (.inside .nil hadf (.trans hflag (.inside _ hfront hparts)))

theorem feeder_reordered :
    (decode ∅ feederReordered).result = .ok () ∧ (decode ∅ feederReordered).caps = (decode ∅ feederAnswer).caps := by
  obtain ⟨hevents, hconf, hevents'⟩ := feederTree_read
  have hsame := decode_rearranged ⟨hevents, rfl, hconf⟩ once_feederTree hevents'
    (rearranged_written rearranged_feederTree)
  exact ⟨hsame.1.1 feederAnswer_read.2.1, hsame.2.symm⟩

end ScanDiscovery.Response
