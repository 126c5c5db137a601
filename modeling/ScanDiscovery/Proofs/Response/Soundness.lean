import ScanDiscovery.Proofs.Device.Sources
import ScanDiscovery.Proofs.Response.Accepted
import ScanDiscovery.Protocol
/-!
# Proofs.Response.Soundness — what is known of a scanner is sound after every answer that can be used

Between two answers nothing is known, or what is known is `Sound`; while a configuration is read, its slots hold fit
sources at least (`Slots`), and settling restores the rest.  Whatever answers a scanner has given, in whatever order
they were set, decoded or forgotten, an answer that cannot be used leaves nothing and one that can leaves a sound
account (`sound_of_history`).  Specification only.
-/
namespace ScanDiscovery.Response

open Device
open Xml (Content)

/-! ## Sources as they are stated -/

theorem require_eq_ok {kind : SourceKind} {bound : Bound} {known : Option UInt32} {n : UInt32}
    (h : Stated.require kind bound known = .ok n) : known = some n := by
  cases known with
  | none => cases h
  | some m =>
    cases h
    rfl

/-- **A source that is accepted, unpacked.** -/
theorem toSource_eq_ok {stated : Stated} {kind : SourceKind} {s : Source} (h : stated.toSource kind = .ok s) :
    (Resolutions.ofList stated.widths ∩ Resolutions.ofList stated.heights) ≠ ∅ ∧
      stated.colorModes ∩ ColorModes.supported ≠ ∅ ∧
      ∃ width height : Extent, width.isInverted = false ∧ height.isInverted = false ∧
        (stated.minWidth = some width.min ∧ stated.minHeight = some height.min ∧
          stated.maxWidth = some width.max ∧ stated.maxHeight = some height.max) ∧
        s = Source.updateWindows
          { resolutions := Resolutions.ofList stated.widths ∩ Resolutions.ofList stated.heights, discrete := true,
            colorModes := stated.colorModes ∩ ColorModes.supported, formats := ∅, width, height, xWindow := .zero,
            yWindow := .zero } Stated.units := by
  unfold Stated.toSource at h
  simp only [bind, pure, Except.pure, throw, throwThe, MonadExceptOf.throw] at h
  split at h
  · cases h
  · rename_i hr
    split at h
    · cases h
    · rename_i hc
      obtain ⟨minWidth, hminw, h⟩ := Xml.bind_eq_ok.1 h
      obtain ⟨minHeight, hminh, h⟩ := Xml.bind_eq_ok.1 h
      obtain ⟨maxWidth, hmaxw, h⟩ := Xml.bind_eq_ok.1 h
      obtain ⟨maxHeight, hmaxh, h⟩ := Xml.bind_eq_ok.1 h
      split at h
      · cases h
      · rename_i hw
        split at h
        · cases h
        · rename_i hh
          cases h
          exact ⟨fun he => hr (Resolutions.isEmpty_iff.2 he), hc, ⟨minWidth, maxWidth⟩, ⟨minHeight, maxHeight⟩,
            Bool.eq_false_iff.2 hw, Bool.eq_false_iff.2 hh,
            ⟨require_eq_ok hminw, require_eq_ok hminh, require_eq_ok hmaxw, require_eq_ok hmaxh⟩, rfl⟩

/-- **A source that is accepted is fit.** -/
theorem fit_of_toSource {stated : Stated} {kind : SourceKind} {s : Source} (h : stated.toSource kind = .ok s) :
    s.Fit 1000 := by
  obtain ⟨hr, hc, width, height, hw, hh, -, rfl⟩ := toSource_eq_ok h
  exact {
    resolutions := hr
    discrete := rfl
    colorModes := hc
    supported := fun c hm => ColorModes.mem_supported.1 (ColorModes.mem_inter.1 hm).2
    width := Source.le_of_not_inverted hw
    height := Source.le_of_not_inverted hh
    xWindow := rfl
    yWindow := rfl }

/-! ## While an answer is read -/

/-- What holds at any time: the sources in the slots are fit, and names that are known are not empty. -/
structure Slots (c : Capabilities) : Prop where
  fit : ∀ kind s, c.source? kind = some s → s.Fit 1000
  vendor : ∀ name, c.vendor = some name → name ≠ ""
  model : ∀ name, c.model = some name → name ≠ ""

/-- What holds between the parts of an answer. -/
structure Ready (c : Capabilities) : Prop extends Slots c where
  front : c.adfDuplex.isSome = true → c.adfSimplex.isSome = true

theorem ready_empty : Ready ∅ where
  fit kind s h := by cases kind <;> cases h
  vendor name h := by cases h
  model name h := by cases h
  front h := by cases h

theorem orElseText_ne {known : Option String} {text : List Char} (hk : ∀ name, known = some name → name ≠ "")
    {name : String} (h : orElseText known text = some name) : name ≠ "" := by
  unfold orElseText at h
  split at h
  · rename_i hc
    cases h
    intro he
    rw [String.ofList_eq_empty_iff] at he
    rw [he] at hc
    simp at hc
  · exact hk name h

theorem Ready.rename {c : Capabilities} (h : Ready c) (name : List Char) : Ready (rename c name) where
  fit kind s hs := h.fit kind s (by cases kind <;> exact hs)
  vendor := h.vendor
  model _ := orElseText_ne h.model
  front := h.front

theorem Slots.insert {c : Capabilities} (h : Slots c) (kind : SourceKind) {s : Source} (hs : s.Fit 1000) :
    Slots (c.insert kind s) := by
  unfold Capabilities.insert
  split
  · exact h
  · refine ⟨fun other t ht => ?_, fun name hn => h.vendor name ?_, fun name hn => h.model name ?_⟩
    · by_cases he : other = kind
      · rw [he, Capabilities.source?_replace_self] at ht
        cases ht
        exact hs
      · rw [Capabilities.source?_replace_of_ne _ _ he] at ht
        exact h.fit other t ht
    · cases kind <;> exact hn
    · cases kind <;> exact hn

theorem Slots.apply {f : Finding} {b c : Capabilities} (hf : f.OfPart) (hb : Slots b)
    (h : (f.apply b).toExcept = .ok c) : Slots c := by
  cases f with
  | unknownFormat tag =>
    cases h
    exact hb
  | unknownColor kind tag =>
    cases h
    exact hb
  | source kind s =>
    rw [Finding.apply, commitSource_toExcept] at h
    cases h
    obtain ⟨stated, hst⟩ := hf
    exact hb.insert kind (fit_of_toSource hst)
  | named name => exact hf.elim
  | configured o => exact hf.elim

theorem Slots.dressed {b : Capabilities} (hb : Slots b) (o : Overview) : Slots (dressed o b) where
  fit kind s h := by
    rw [Response.dressed, Capabilities.source?_mapSources, Option.map_eq_some_iff] at h
    obtain ⟨t, ht, rfl⟩ := h
    exact (hb.fit kind t ht).dress o.formats
  vendor := hb.vendor
  model := hb.model

/-- A slot for double-sided scanning that is filled has a front, and does what the front and the back both do. -/
theorem duplexSlot_some {o : Overview} {b : Capabilities} {s : Source} (h : duplexSlot o b = .ok (some s)) :
    ∃ front, b.adfSimplex = some front ∧
      (s = front ∨ ∃ back, b.adfDuplex = some back ∧ front.merge back Stated.units = some s) := by
  unfold duplexSlot at h
  split at h
  · cases hf : b.adfSimplex with
    | none =>
      rw [hf] at h
      cases h
    | some front =>
      rw [hf] at h
      refine ⟨front, rfl, ?_⟩
      cases hd : b.adfDuplex with
      | none =>
        rw [hd] at h
        cases h
        exact .inl rfl
      | some back =>
        rw [hd] at h
        exact .inr ⟨back, rfl, Except.ok.inj h⟩
  · cases h

/-- **The end of a configuration** leaves double-sided scanning only where there is a front. -/
theorem Slots.settle {o : Overview} {b c : Capabilities} (hb : Slots b) (h : (settle o b).toExcept = .ok c) :
    Ready c := by
  obtain ⟨d, hd, -, rfl⟩ := settle_ok_iff.1 h
  have hdr := hb.dressed o
  refine ⟨⟨fun kind s hs => ?_, hdr.vendor, hdr.model⟩, fun hsome => ?_⟩
  · rw [Capabilities.source?_rebuildNames] at hs
    by_cases hk : kind = .adfDuplex
    · rw [hk, Capabilities.source?_replace_self] at hs
      rw [hs] at hd
      obtain ⟨front, hfront, rfl | ⟨back, hback, hm⟩⟩ := duplexSlot_some hd
      · exact hdr.fit .adfSimplex s hfront
      · exact (hdr.fit .adfSimplex front hfront).merge (hdr.fit .adfDuplex back hback) hm
    · rw [Capabilities.source?_replace_of_ne _ _ hk] at hs
      exact hdr.fit kind s hs
  · obtain ⟨s, hs⟩ := Option.isSome_iff_exists.1 hsome
    obtain rfl : d = some s := hs
    obtain ⟨front, hfront, -⟩ := duplexSlot_some hd
    exact Option.isSome_iff_exists.2 ⟨front, hfront⟩

theorem Slots.configuration {k : Content} {fs : List Finding} {b c : Capabilities}
    (hk : configurationReport k = ⟨fs, .ok ()⟩) (hb : Slots b) (h : absorb b fs = .ok c) : Ready c := by
  obtain ⟨gs, o, rfl, hgs, -⟩ := configuration_findings hk
  obtain ⟨d, hd, hc⟩ := absorb_append_ok.1 h
  obtain ⟨e, he, hec⟩ := absorb_cons_ok.1 hc
  cases hec
  exact (absorb_keeps Finding.OfPart (fun f b c hf hb hfc => Slots.apply hf hb hfc) gs b d hgs hb hd).settle he

/-- **An answer that is read to its end** leaves what holds between its parts. -/
theorem Ready.response {k : Content} {fs : List Finding} {b c : Capabilities}
    (hk : responseReport k = ⟨fs, .ok ()⟩) (hb : Ready b) (h : absorb b fs = .ok c) : Ready c := by
  obtain ⟨-, hparts, rfl⟩ := responseReport_eq_ok.1 hk
  refine absorb_parts_keeps (I := Ready) (fun c name hc => hc.rename name) _ b c (fun x hx he b c hb h => ?_) hb h
  obtain ⟨part, k⟩ := x
  cases he
  have hok : (configurationReport k).result = .ok () := hparts _ hx
  exact Slots.configuration (show configurationReport k = ⟨_, .ok ()⟩ by rw [← hok]) hb.toSlots h

/-! ## After an answer -/

/-- What scanning software relies on. -/
structure Sound (c : Capabilities) : Prop where
  source : ∃ kind s, c.source? kind = some s
  fit : ∀ kind s, c.source? kind = some s → s.Fit 1000
  front : c.adfDuplex.isSome = true → c.adfSimplex.isSome = true
  names : c.names = (if c.flatbed.isSome then ["Flatbed"] else []) ++ (if c.adfSimplex.isSome then ["ADF"] else []) ++
    if c.adfDuplex.isSome then ["ADF Duplex"] else []
  vendor : ∃ name, c.vendor = some name ∧ name ≠ ""
  model : ∃ name, c.model = some name ∧ name ≠ ""
  protocol : c.protocol = some "WSD"
  units : c.units = 1000

theorem Sound.ready {c : Capabilities} (h : Sound c) : Ready c where
  fit := h.fit
  vendor name hn := by
    obtain ⟨v, hv, hne⟩ := h.vendor
    rw [hv] at hn
    cases hn
    exact hne
  model name hn := by
    obtain ⟨v, hv, hne⟩ := h.model
    rw [hv] at hn
    cases hn
    exact hne
  front := h.front

theorem sourceNames_eq (c : Capabilities) :
    c.sourceNames = (if c.flatbed.isSome then ["Flatbed"] else []) ++ (if c.adfSimplex.isSome then ["ADF"] else []) ++
      if c.adfDuplex.isSome then ["ADF Duplex"] else [] := by
  obtain ⟨_, _, _, _, f, s, d, _⟩ := c
  cases f <;> cases s <;> cases d <;> rfl

theorem getD_unknown_ne {known : Option String} (hk : ∀ name, known = some name → name ≠ "") :
    known.getD unknownName ≠ "" := by
  cases known with
  | none => decide
  | some name => exact hk name rfl

theorem Ready.complete {c : Capabilities} (h : Ready c) (hne : c.sourceNames ≠ []) :
    Sound (complete c.rebuildNames) where
  source := by
    by_cases hf : c.flatbed = none
    · by_cases hs : c.adfSimplex = none
      · by_cases hd : c.adfDuplex = none
        · exact absurd (sourceNames_eq_nil_iff.2 ⟨hf, hs, hd⟩) hne
        · obtain ⟨s, hs⟩ := Option.ne_none_iff_exists'.1 hd
          exact ⟨.adfDuplex, s, hs⟩
      · obtain ⟨s, hs⟩ := Option.ne_none_iff_exists'.1 hs
        exact ⟨.adfSimplex, s, hs⟩
    · obtain ⟨s, hs⟩ := Option.ne_none_iff_exists'.1 hf
      exact ⟨.flatbed, s, hs⟩
  fit kind s hs := h.fit kind s (by cases kind <;> exact hs)
  front := h.front
  names := sourceNames_eq c
  vendor := ⟨_, rfl, getD_unknown_ne h.vendor⟩
  model := ⟨_, rfl, getD_unknown_ne h.model⟩
  protocol := rfl
  units := rfl

/-- **An answer that can be used leaves a sound account**, where there was none or a sound one. -/
theorem sound_of_decode {caps : Capabilities} {document : Bytes} (hc : Ready caps)
    (h : (decode caps document).result = .ok ()) : Sound (decode caps document).caps := by
  obtain ⟨k, fs, c, -, -, hk, habs, hcaps, hne⟩ := tree_of_decode h
  rw [hcaps]
  exact (Ready.response hk hc habs).complete hne

/-! ## Histories -/

/-- What is held of a scanner: what is known of it, and the conversation with it. -/
structure Held where
  caps : Capabilities
  context : Context

/-- What happens to it. -/
inductive Happening where
  /-- a document is read as an answer -/
  | decode (document : Bytes)
  /-- an answer is noted -/
  | respond (answer : Bytes)
  /-- the answer noted last is read -/
  | handle
  /-- what is known is forgotten -/
  | reset

namespace Held

/-- Nothing is known, and nothing was answered. -/
def fresh (url : Url) : Held := ⟨∅, ⟨url, none⟩⟩

/-- What is held then, and whether an answer could be used, if one was read. -/
def step (h : Held) : Happening → Held × Option (Except DecodeError Unit)
  | .decode document =>
    let d := Response.decode h.caps document
    ({ h with caps := d.caps }, some d.result)
  | .respond answer => ({ h with context := { h.context with response := some answer } }, none)
  | .handle =>
    let d := Protocol.wsd.decode h.context h.caps
    ({ h with caps := d.caps }, some d.result)
  | .reset => ({ h with caps := ∅ }, none)

def run (h : Held) (happenings : List Happening) : Held := happenings.foldl (fun h a => (h.step a).1) h

end Held

theorem ready_of_decode {caps : Capabilities} (document : Bytes) (hc : Ready caps) :
    Ready (decode caps document).caps := by
  cases h : (decode caps document).result with
  | error e =>
    rw [caps_of_error h]
    exact ready_empty
  | ok u => exact (sound_of_decode hc h).ready

theorem Held.ready_step {h : Held} (hc : Ready h.caps) (a : Happening) : Ready (h.step a).1.caps := by
  cases a with
  | decode document => exact ready_of_decode document hc
  | respond answer => exact hc
  | handle => exact ready_of_decode _ hc
  | reset => exact ready_empty

theorem Held.ready_run (happenings : List Happening) : ∀ (h : Held), Ready h.caps → Ready (h.run happenings).caps := by
  induction happenings with
  | nil => exact fun h hc => hc
  | cons a happenings ih => exact fun h hc => ih _ (h.ready_step hc a)

/-- **Whatever has happened, an answer that cannot be used leaves nothing, and one that can leaves a sound account.** -/
theorem sound_of_history (url : Url) (happenings : List Happening) (a : Happening) :
    let held := ((Held.fresh url).run happenings).step a
    match held.2 with
    | none => True
    | some (.error _) => held.1.caps = ∅
    | some (.ok ()) => Sound held.1.caps := by
  have hc := Held.ready_run happenings (Held.fresh url) ready_empty
  generalize (Held.fresh url).run happenings = h at hc
  have hd : ∀ document, match some (decode h.caps document).result with
      | none => True
      | some (.error _) => (decode h.caps document).caps = ∅
      | some (.ok ()) => Sound (decode h.caps document).caps := fun document => by
    cases hr : (decode h.caps document).result with
    | error e => exact caps_of_error hr
    | ok u => exact sound_of_decode hc hr
  cases a with
  | decode document => exact hd document
  | respond answer => trivial
  | handle => exact hd h.context.answer
  | reset => trivial

end ScanDiscovery.Response
