import ScanDiscovery.Proofs.Response.Absorb
import ScanDiscovery.Proofs.Xml.Noting
/-!
# Proofs.Response.Front — double-sided scanning is never settled without a front

A configuration says that it has a feeder only after a source was found for the feeder's front (`Fronted`), wherever its
reader is run and however that ends.  A source that is found fills its slot, and no finding empties the slot of the
front; so the end of a configuration finds a front where it looks for one, and what is refused is refused for want of
sources (`absorb_error`).  Specification only.
-/
namespace ScanDiscovery.Response

open Device
open Xml.Walk (Ensures ensures_done ensures_fail ensures_note ensures_bind ensures_text ensures_within ensures_each)

/-- Every configuration with a feeder comes after a source for the front. -/
def Fronted (fs : List Finding) : Prop :=
  ∀ gs o hs, fs = gs ++ .configured o :: hs → o.feeder = true → ∃ s, .source .adfSimplex s ∈ gs

theorem fronted_nil : Fronted [] := by
  intro gs o hs h
  have := congrArg List.length h
  simp at this

theorem Fronted.snoc {fs : List Finding} (h : Fronted fs) {f : Finding}
    (hf : ∀ o, f = .configured o → o.feeder = true → ∃ s, .source .adfSimplex s ∈ fs) : Fronted (fs ++ [f]) := by
  intro gs o hs he hfeed
  rcases List.eq_nil_or_concat hs with rfl | ⟨hs, g, rfl⟩
  · obtain ⟨rfl, hlast⟩ := List.append_inj' he rfl
    exact hf o (List.singleton_inj.1 hlast) hfeed
  · rw [List.concat_eq_append, ← List.cons_append, ← List.append_assoc] at he
    obtain ⟨rfl, -⟩ := List.append_inj' he rfl
    exact h gs o hs rfl hfeed

theorem Fronted.snoc_of_ne {fs : List Finding} (h : Fronted fs) {f : Finding} (hf : ∀ o, f ≠ .configured o) :
    Fronted (fs ++ [f]) := h.snoc fun o ho => absurd ho (hf o)

/-! ## The readers -/

/-- The findings are in order, and the error is not the one that stands for a bug. -/
def Sane (fs : List Finding) (e : DecodeError) : Prop := Fronted fs ∧ e ≠ .duplexWithoutFront

theorem sane_malformedXml {fs : List Finding} (h : Fronted fs) (e : Xml.Error) : Sane fs (.malformedXml e) :=
  ⟨h, fun he => by cases he⟩

theorem ensures_formats {fs : List Finding} (h : Fronted fs) :
    Ensures .malformedXml fs readFormats (fun gs _ => Fronted gs) Sane := by
  refine ensures_each (fun gs _ => Fronted gs) h (fun _ _ hg => sane_malformedXml hg) (fun gs formats p hg => ?_)
    fun _ _ hg => ensures_done hg
  unfold visitFormat
  split
  · refine ensures_text (sane_malformedXml hg) fun tag => ?_
    cases Format.ofTag? (String.ofList tag) with
    | some f => exact ensures_done hg
    | none =>
      have hne : ∀ o, Finding.unknownFormat tag ≠ .configured o := by intro o ho; cases ho
      exact ensures_note (ensures_done (hg.snoc_of_ne hne))
  · exact ensures_done hg

theorem ensures_number (element : String) {fs : List Finding} (h : Fronted fs) :
    Ensures .malformedXml fs (readNumber element) (fun gs _ => Fronted gs) Sane := by
  refine ensures_text (sane_malformedXml h) fun t => ?_
  unfold number
  cases Decimal.unsigned? t with
  | some n => exact ensures_done h
  | none =>
    have hne : DecodeError.malformedValue element t ≠ .duplexWithoutFront := by intro he; cases he
    exact ensures_fail ⟨h, hne⟩

theorem toSource_error {stated : Stated} {kind : SourceKind} {e : DecodeError} (h : stated.toSource kind = .error e) :
    e ≠ .duplexWithoutFront := by
  rintro rfl
  unfold Stated.toSource at h
  simp only [bind, pure, Except.pure, throw, throwThe, MonadExceptOf.throw] at h
  have hreq : ∀ (b : Bound) (n : Option UInt32) (k : UInt32 → Except DecodeError Source),
      (∀ m, k m ≠ .error .duplexWithoutFront) →
        (Stated.require kind b n).bind k ≠ .error .duplexWithoutFront := by
    intro b n k hk hn
    cases n with
    | none => cases hn
    | some m => exact hk m hn
  split at h
  · cases h
  split at h
  · cases h
  refine hreq _ _ _ (fun minWidth => hreq _ _ _ fun minHeight => hreq _ _ _ fun maxWidth => hreq _ _ _
    fun maxHeight hm => ?_) h
  split at hm
  · cases hm
  split at hm
  · cases hm
  · cases hm

theorem ensures_source (kind : SourceKind) {fs : List Finding} (h : Fronted fs) :
    Ensures .malformedXml fs (readSource kind) (fun gs _ => Fronted gs) Sane := by
  refine ensures_each (fun gs _ => Fronted gs) h (fun _ _ hg => sane_malformedXml hg) (fun gs stated p hg => ?_)
    fun gs stated hg => ?_
  · unfold visitSource
    rcases SourceField.ofPath? p with _ | q | _
    · exact ensures_done hg
    · exact ensures_bind (ensures_number q.label hg) fun _ _ hg => ensures_done hg
    · refine ensures_text (sane_malformedXml hg) fun tag => ?_
      cases ColorMode.ofTag? (String.ofList tag) with
      | some m => exact ensures_done hg
      | none =>
        have hne : ∀ o, Finding.unknownColor kind tag ≠ .configured o := by intro o ho; cases ho
        exact ensures_note (ensures_done (hg.snoc_of_ne hne))
  · unfold judgeSource
    cases hs : stated.toSource kind with
    | ok s => exact ensures_done hg
    | error e => exact ensures_fail ⟨hg, toSource_error hs⟩

/-- The overview of a configuration has a feeder only if the front was found. -/
def Overview.FrontIn (o : Overview) (fs : List Finding) : Prop :=
  Fronted fs ∧ (o.feeder = true → ∃ s, .source .adfSimplex s ∈ fs)

theorem ensures_visitConfiguration {fs : List Finding} {o : Overview} (h : o.FrontIn fs) (p : Xml.Path) :
    Ensures .malformedXml fs (visitConfiguration o p) (fun gs o => o.FrontIn gs) Sane := by
  obtain ⟨hf, hfeed⟩ := h
  -- what the reading of a part finds comes after what was found before it
  have keep : ∀ (gs : List Finding), fs <+: gs → o.feeder = true → ∃ s, .source .adfSimplex s ∈ gs := by
    intro gs hgs hfeeder
    obtain ⟨s, hs⟩ := hfeed hfeeder
    exact ⟨s, hgs.subset hs⟩
  unfold visitConfiguration
  rcases ConfigurationPart.ofPath? p with _ | _ | kind | _
  · exact ensures_done ⟨hf, hfeed⟩
  · refine ensures_within (ensures_formats hf).extends (fun gs _ hg => sane_malformedXml hg.1) fun gs formats hg => ?_
    exact ensures_done ⟨hg.1, keep gs hg.2⟩
  · refine ensures_within (ensures_source kind hf).extends (fun gs _ hg => sane_malformedXml hg.1) fun gs s hg => ?_
    have hne : ∀ o, Finding.source kind s ≠ .configured o := by intro o ho; cases ho
    refine ensures_note (ensures_done ⟨hg.1.snoc_of_ne hne, fun hfeeder => ?_⟩)
    by_cases hkind : kind = .adfSimplex
    · rw [hkind]
      exact ⟨s, List.mem_append_right _ (List.mem_singleton.2 rfl)⟩
    · rw [Overview.addSource, if_neg hkind] at hfeeder
      obtain ⟨t, ht⟩ := keep gs hg.2 hfeeder
      exact ⟨t, List.mem_append_left _ ht⟩
  · exact ensures_text (sane_malformedXml hf) fun t => ensures_done ⟨hf, hfeed⟩

/-- **The reader of a configuration**, wherever it is run. -/
theorem ensures_configuration {fs : List Finding} (h : Fronted fs) :
    Ensures .malformedXml fs readConfiguration (fun gs _ => Fronted gs) Sane := by
  refine ensures_each (fun gs o => o.FrontIn gs) ⟨h, fun hfeeder => by cases hfeeder⟩
    (fun _ _ hg => sane_malformedXml hg.1) (fun gs o p hg => ensures_visitConfiguration hg p) fun gs o hg => ?_
  refine ensures_note (ensures_done (hg.1.snoc fun o' ho hfeeder => ?_))
  cases ho
  exact hg.2 hfeeder

theorem ensures_description {fs : List Finding} (h : Fronted fs) :
    Ensures .malformedXml fs readDescription (fun gs _ => Fronted gs) Sane := by
  refine ensures_each (fun gs _ => Fronted gs) h (fun _ _ hg => sane_malformedXml hg) (fun gs _ p hg => ?_)
    fun _ _ hg => ensures_done hg
  split
  · refine ensures_text (sane_malformedXml hg) fun name => ensures_note (ensures_done (hg.snoc_of_ne ?_))
    intro o ho
    cases ho
  · exact ensures_done hg

/-- **A walk that reads elements at some paths**, each by a reader that finds no feeder without its front. -/
theorem ensures_readAt {readers : List (String × Reader Unit)}
    (h : ∀ p r, (p, r) ∈ readers → ∀ fs, Fronted fs → Ensures .malformedXml fs r (fun gs _ => Fronted gs) Sane)
    {fs : List Finding} (hf : Fronted fs) :
    Ensures .malformedXml fs (readAt readers) (fun gs _ => Fronted gs) Sane := by
  refine ensures_each (fun gs _ => Fronted gs) hf (fun _ _ hg => sane_malformedXml hg) (fun gs _ p hg => ?_)
    fun _ _ hg => ensures_done hg
  cases hr : readers.lookup (String.ofList p) with
  | none => exact ensures_done hg
  | some r =>
    obtain ⟨l, l', rfl, -⟩ := List.lookup_eq_some_iff.1 hr
    have hmem : (String.ofList p, r) ∈ l ++ (String.ofList p, r) :: l' := by simp
    exact ensures_within (h _ r hmem gs hg) (fun _ _ hg => sane_malformedXml hg) fun _ _ hg => ensures_done hg

/-! ## What findings do -/

theorem isSome_front_insert {c : Capabilities} (kind : SourceKind) (s : Source)
    (h : kind = .adfSimplex ∨ c.adfSimplex.isSome = true) : (c.insert kind s).adfSimplex.isSome = true := by
  unfold Capabilities.insert
  cases kind <;> split <;> simp_all [Capabilities.source?, Capabilities.replace]

theorem requireSources_error {c : Capabilities} {e : DecodeError} (h : (requireSources c).toExcept = .error e) :
    e = .noSources := by
  unfold requireSources Update.toExcept at h
  dsimp only at h
  split at h <;> cases h
  rename_i hr
  split at hr <;> cases hr
  rfl

/-- **The end of a configuration**, if there is a front where it has a feeder. -/
theorem settle_front {o : Overview} {caps : Capabilities} (h : o.feeder = true → caps.adfSimplex.isSome = true) :
    match (settle o caps).toExcept with
    | .ok c => caps.adfSimplex.isSome = true → c.adfSimplex.isSome = true
    | .error e => e = .noSources := by
  have hdressed : (dressed o caps).adfSimplex.isSome = caps.adfSimplex.isSome := Option.isSome_map
  have hd : ∃ d, duplexSlot o (dressed o caps) = .ok d := by
    unfold duplexSlot
    by_cases hboth : (o.feeder && o.duplex) = true
    · rw [if_pos hboth]
      have hfeeder : o.feeder = true := (Bool.and_eq_true_iff.1 hboth).1
      obtain ⟨front, hfront⟩ := Option.isSome_iff_exists.1 (hdressed.trans (h hfeeder))
      rw [hfront]
      exact ⟨_, rfl⟩
    · rw [if_neg hboth]
      exact ⟨none, rfl⟩
  obtain ⟨d, hd⟩ := hd
  have hs : (settle o caps).toExcept = (requireSources ((dressed o caps).replace .adfDuplex d)).toExcept := by
    rw [settle_eq, hd]
    rfl
  rw [hs]
  cases hr : (requireSources ((dressed o caps).replace .adfDuplex d)).toExcept with
  | error e => exact requireSources_error hr
  | ok c =>
    obtain ⟨-, rfl⟩ := requireSources_ok_iff.1 hr
    exact fun hfront => hdressed.trans hfront

/-- **A finding fills the slot of the front or leaves it as it is**, and is refused for want of sources only. -/
theorem apply_front {f : Finding} {caps : Capabilities}
    (hf : ∀ o, f = .configured o → o.feeder = true → caps.adfSimplex.isSome = true) :
    match (f.apply caps).toExcept with
    | .ok c => (∃ s, f = .source .adfSimplex s) ∨ caps.adfSimplex.isSome = true → c.adfSimplex.isSome = true
    | .error e => e = .noSources := by
  cases f with
  | named name => exact fun h => h.resolve_left fun ⟨_, hs⟩ => by cases hs
  | unknownFormat tag => exact fun h => h.resolve_left fun ⟨_, hs⟩ => by cases hs
  | unknownColor kind tag => exact fun h => h.resolve_left fun ⟨_, hs⟩ => by cases hs
  | source kind s =>
    rw [Finding.apply, commitSource_toExcept]
    refine fun h => isSome_front_insert kind s (h.imp_left fun ⟨t, ht⟩ => ?_)
    cases ht
    rfl
  | configured o =>
    have h := settle_front (hf o rfl)
    rw [Finding.apply]
    cases hs : (settle o caps).toExcept with
    | error e =>
      rw [hs] at h
      exact h
    | ok c =>
      rw [hs] at h
      exact fun hor => h (hor.resolve_left fun ⟨_, ht⟩ => by cases ht)

/-- **Findings in order are refused for want of sources only.** -/
theorem absorb_error : ∀ (fs gs : List Finding) (caps : Capabilities) (e : DecodeError),
    ((∃ s, .source .adfSimplex s ∈ gs) → caps.adfSimplex.isSome = true) → Fronted (gs ++ fs) →
      absorb caps fs = .error e → e = .noSources
  | [], gs, caps, e, _, _, h => by cases h
  | f :: fs, gs, caps, e, hgs, hf, h => by
    have hfeeder : ∀ o, f = .configured o → o.feeder = true → caps.adfSimplex.isSome = true := by
      rintro o rfl ho
      exact hgs (hf gs o fs rfl ho)
    have happly := apply_front hfeeder
    rw [absorb] at h
    cases hc : (f.apply caps).toExcept with
    | error e' =>
      rw [hc] at h happly
      cases h
      exact happly
    | ok c =>
      rw [hc] at h happly
      refine absorb_error fs (gs ++ [f]) c e ?_ (by simpa using hf) h
      rintro ⟨s, hs⟩
      rcases List.mem_append.1 hs with hs | hs
      · exact happly (.inr (hgs ⟨s, hs⟩))
      · exact happly (.inl ⟨s, (List.mem_singleton.1 hs).symm⟩)

/-! ## What is refused, and what is said of it -/

theorem refusal_of_toExcept {u : Update} {e : DecodeError} (h : u.refusal = some e) : u.toExcept = .error e := by
  unfold Update.toExcept
  rw [h]

theorem fronted_of_leaves {o : Xml.Walk.Outcome Finding DecodeError Unit}
    (h : o.Leaves [] (fun gs _ => Fronted gs) Sane) :
    Fronted (Xml.Mark.findings o.trace) ∧ o.result ≠ .error .duplexWithoutFront := by
  unfold Xml.Walk.Outcome.Leaves at h
  cases hr : o.result with
  | ok u =>
    rw [hr] at h
    exact ⟨h, fun he => by cases he⟩
  | error e =>
    rw [hr] at h
    refine ⟨h.1, fun he => ?_⟩
    cases he
    exact h.2 rfl

theorem absorb_fronted {fs : List Finding} (h : Fronted fs) {caps : Capabilities} {e : DecodeError}
    (he : absorb caps fs = .error e) : e = .noSources :=
  absorb_error fs [] caps e (fun ⟨_, hs⟩ => absurd hs List.not_mem_nil) h he

/-- An outcome that finds its fronts is not refused for the bug, and does not fail with it. -/
theorem refusal_ne {o : Xml.Walk.Outcome Finding DecodeError Unit} (h : o.Leaves [] (fun gs _ => Fronted gs) Sane)
    (caps : Capabilities) :
    (applyAll caps o.trace).refusal ≠ some .duplexWithoutFront ∧ o.result ≠ .error .duplexWithoutFront := by
  obtain ⟨hf, hr⟩ := fronted_of_leaves h
  refine ⟨fun he => ?_, hr⟩
  have ha := refusal_of_toExcept he
  rw [applyAll_toExcept] at ha
  cases absorb_fronted hf ha

theorem update_refusal_ne {reader : Reader Unit} (h : Ensures .malformedXml [] reader (fun gs _ => Fronted gs) Sane)
    (document : Bytes) (caps : Capabilities) : (update reader document caps).refusal ≠ some .duplexWithoutFront := by
  obtain ⟨ha, hr⟩ := refusal_ne (h .document (.ofBytes document)) caps
  unfold update Xml.Walk.runDocument
  dsimp only
  split
  · rename_i e _ he
    intro hs
    cases hs
    exact hr he
  · exact ha

theorem ensures_response : Ensures .malformedXml [] readResponse (fun gs _ => Fronted gs) Sane := by
  refine ensures_readAt (fun p r hr fs hf => ?_) fronted_nil
  rcases List.mem_cons.1 hr with hr | hr
  · cases hr
    exact ensures_description hf
  · cases List.mem_singleton.1 hr
    exact ensures_configuration hf

theorem walked_fronted (document : Bytes) :
    Fronted (Xml.Mark.findings (walked document).trace) ∧ (walked document).result ≠ .error .duplexWithoutFront :=
  fronted_of_leaves (ensures_response .document (.ofBytes document))

/-- **Why an answer cannot be used**: its walk failed, after findings that were all accepted, or there are no sources. -/
theorem decode_error {caps : Capabilities} {document : Bytes} {e : DecodeError}
    (h : (decode caps document).result = .error e) :
    e = .noSources ∨
      (walked document).result = .error e ∧ ∃ c, absorb caps (Xml.Mark.findings (walked document).trace) = .ok c := by
  rw [(decode_eq caps document).1, learn] at h
  cases ha : absorb caps (Xml.Mark.findings (walked document).trace) with
  | error e' =>
    rw [ha] at h
    cases h
    exact .inl (absorb_fronted (walked_fronted document).1 ha)
  | ok c =>
    rw [ha] at h
    cases hw : (walked document).result with
    | error e' =>
      rw [hw] at h
      cases h
      exact .inr ⟨rfl, c, rfl⟩
    | ok u =>
      rw [hw] at h
      cases hs : (requireSources c).toExcept with
      | ok d =>
        simp only [Except.bind, Except.map, hs] at h
        cases h
      | error e' =>
        simp only [Except.bind, Except.map, hs] at h
        cases h
        exact .inl (requireSources_error hs)

/-- Nothing is said at the level of errors. -/
def Calm (log : List Log.Entry) : Prop := ∀ entry ∈ log, entry.level ≠ .error

theorem Calm.append {log log' : List Log.Entry} (h : Calm log) (h' : Calm log') : Calm (log ++ log') := by
  intro entry hm
  rcases List.mem_append.1 hm with hm | hm
  · exact h entry hm
  · exact h' entry hm

theorem calm_nil : Calm [] := fun _ hm => absurd hm List.not_mem_nil

theorem calm_debug (message : String) (values : List (String × String)) : Calm [.debug message values] := by
  intro entry hm
  rw [List.mem_singleton.1 hm]
  exact fun he => by cases he

theorem calm_trace (message : String) (values : List (String × String)) : Calm [.trace message values] := by
  intro entry hm
  rw [List.mem_singleton.1 hm]
  exact fun he => by cases he

theorem calm_andThen {u : Update} {f : Capabilities → Update} (h : Calm u.log) (hf : ∀ caps, Calm (f caps).log) :
    Calm (u.andThen f).log := by
  unfold Update.andThen
  split
  · exact h
  · exact h.append (hf u.caps)

theorem calm_resolveDuplex (o : Overview) (caps : Capabilities) : Calm (resolveDuplex o caps).log := by
  unfold resolveDuplex
  split
  · split
    · exact calm_nil
    · dsimp only [Update.accepted]
      split
      · exact calm_debug _ _
      · exact calm_nil
  · dsimp only [Update.accepted]
    split
    · exact calm_nil
    · exact calm_debug _ _

theorem calm_apply (f : Finding) (caps : Capabilities) : Calm (f.apply caps).log := by
  cases f with
  | named name => exact calm_nil
  | unknownFormat tag => exact calm_trace _ _
  | unknownColor kind tag => exact calm_trace _ _
  | source kind s =>
    rw [Finding.apply, commitSource]
    split
    · exact calm_debug _ _
    · exact calm_debug _ _
  | configured o => exact calm_andThen (calm_resolveDuplex o _) fun _ => calm_nil

theorem calm_applyAll : ∀ (marks : List (Xml.Mark Finding)) (caps : Capabilities), Calm (applyAll caps marks).log
  | [], _ => calm_nil
  | .visited _ :: marks, caps => (calm_trace _ _).append (calm_applyAll marks caps)
  | .noted f :: marks, caps => calm_andThen (calm_apply f caps) (calm_applyAll marks)

/-- That there is no front is the one failure that is told at the level of errors. -/
theorem level_failureEntry (e : DecodeError) : (failureEntry e).level = .error ↔ e = .duplexWithoutFront := by
  cases e <;> simp [failureEntry, Log.Entry.error, Log.Entry.debug]

theorem calm_decode {caps : Capabilities} {document : Bytes}
    (h : (decode caps document).result ≠ .error .duplexWithoutFront) : Calm (decode caps document).log := by
  have hread : Calm ((update readResponse document caps).andThen requireSources).log := by
    refine calm_andThen ?_ fun _ => calm_nil
    unfold update
    dsimp only
    split <;> exact calm_applyAll _ caps
  unfold decode at h ⊢
  dsimp only at h ⊢
  split at h
  · refine hread.append fun entry hentry => ?_
    rw [List.mem_singleton.1 hentry, ne_eq, level_failureEntry]
    exact fun he => h (congrArg Except.error he)
  · exact hread.append (calm_debug _ _)

/-- **Double-sided scanning is never settled without a front**: no answer is refused for that, nor is anything said at
the level of errors, where it would be told, whatever was known; and neither is a configuration, by whatever path it is
found in a document, or from whatever place it is read. -/
theorem front_never_missing :
    (∀ e, (failureEntry e).level = .error ↔ e = .duplexWithoutFront) ∧
    (∀ caps document, (decode caps document).result ≠ .error .duplexWithoutFront ∧
      ∀ entry ∈ (decode caps document).log, entry.level ≠ .error) ∧
    (∀ (path : String) (document : Bytes) (caps : Capabilities),
      (update (readAt [(path, readConfiguration)]) document caps).refusal ≠ some .duplexWithoutFront) ∧
    ∀ (scope : Xml.Scope) (cursor : Xml.Cursor) (caps : Capabilities),
      let read := Xml.Walk.run .malformedXml readConfiguration scope cursor
      (applyAll caps read.trace).refusal ≠ some .duplexWithoutFront ∧ read.result ≠ .error .duplexWithoutFront := by
  refine ⟨level_failureEntry, fun caps document => ?_, fun _ document caps => ?_, fun scope cursor caps => ?_⟩
  · have hne : (decode caps document).result ≠ .error .duplexWithoutFront := by
      intro he
      rcases decode_error he with hno | ⟨hw, -⟩
      · cases hno
      · exact (walked_fronted document).2 hw
    exact ⟨hne, calm_decode hne⟩
  · refine update_refusal_ne (ensures_readAt (fun p r hr fs hf => ?_) fronted_nil) document caps
    cases List.mem_singleton.1 hr
    exact ensures_configuration hf
  · exact refusal_ne (ensures_configuration fronted_nil scope cursor) caps

end ScanDiscovery.Response
