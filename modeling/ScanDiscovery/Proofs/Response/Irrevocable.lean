import ScanDiscovery.Proofs.Response.Inert
import ScanDiscovery.Proofs.Response.Front
import ScanDiscovery.Proofs.Xml.Beginning
/-!
# Proofs.Response.Irrevocable — what was found wrong with what an answer says stays wrong

The machine of the answer script makes its own complaints at the ends of elements, and none at the end of a document or
at the scrap of a text that a cut leaves: what it makes there are the faults of documents (`stop_error`, `scrap_error`).
So if it fails on a beginning with a complaint of its own, it has failed before the cut, and does the same with every
document that goes on from there (`play_irrevocable`).  Specification only.
-/
namespace ScanDiscovery.Xml.Script

variable {κ τ δ φ ε : Type} (m : Script κ τ δ φ ε) {e : ε}

theorem stop_error {fault : Option Error} {st : State κ τ δ} (h : (m.stop fault st).result = .error e) :
    ∃ f, e = m.lift f := by
  unfold stop at h
  split at h
  · cases h
    exact ⟨_, rfl⟩
  · cases h
    exact ⟨_, rfl⟩
  · split at h
    · cases h
    · cases h
      exact ⟨_, rfl⟩

/-- A text is read, or it is at fault. -/
theorem step_text_error {t : Bytes} {st : State κ τ δ} (h : (m.step st (.text t)).result = .error e) :
    ∃ f, e = m.lift f := by
  rw [step] at h
  split at h
  · split at h
    · cases h
      exact ⟨_, rfl⟩
    · cases h
  · cases h

theorem scrap_error {last : List Event} (hl : Scrap Event.text last) {fault : Option Error} {st : State κ τ δ}
    (h : (m.play fault last st).result = .error e) : ∃ f, e = m.lift f := by
  rcases hl with rfl | ⟨t, rfl⟩
  · exact m.stop_error h
  · rw [play_cons] at h
    cases hs : m.step st (.text t) with
    | mk fs result =>
      rw [hs] at h
      cases result with
      | error e' =>
        have he : (m.step st (.text t)).result = .error e' := by rw [hs]
        cases h
        exact m.step_text_error he
      | ok st' => exact m.stop_error h

/-- **A complaint of the machine's own about a beginning** is what every document comes to that begins so. -/
theorem play_irrevocable {p : Bytes} {st : State κ τ δ} (hown : ∀ f, e ≠ m.lift f)
    (h : (m.play (Event.ofBytes p).fault (Event.ofBytes p).items st).result = .error e) (s : Bytes) :
    m.play (Event.ofBytes (p ++ s)).fault (Event.ofBytes (p ++ s)).items st =
      m.play (Event.ofBytes p).fault (Event.ofBytes p).items st := by
  have hs : Token.Behind True s := .inl trivial
  rcases Event.ofBytes_cut hs p with he | ⟨head, last, tail, hshort, hlong, hlast, -⟩
  · rw [he]
  · rw [hshort, play_append] at h ⊢
    rw [hlong, play_append]
    cases hd : m.drive head st with
    | mk fs result =>
      cases result with
      | error e' => rfl
      | ok st' =>
        -- it was well up to the cut, so what is wrong is wrong with the document
        rw [hd] at h
        obtain ⟨f, hf⟩ := m.scrap_error hlast h
        exact absurd hf (hown f)

end ScanDiscovery.Xml.Script

namespace ScanDiscovery.Response

open Device

/-- The error is about what a source or a value says. -/
def DecodeError.ofContent : DecodeError → Bool
  | .malformedValue _ _ => true
  | .noResolutions _ => true
  | .noColorModes _ => true
  | .missingBound _ _ => true
  | .invertedRange _ _ => true
  | .malformedXml _ => false
  | .noSources => false
  | .duplexWithoutFront => false

theorem played_irrevocable {p : Bytes} {e : DecodeError} (he : e.ofContent = true) (h : (played p).result = .error e)
    (s : Bytes) : played (p ++ s) = played p := by
  have hown : ∀ f, e ≠ answerScript.lift f := by
    rintro f rfl
    cases he
  exact answerScript.play_irrevocable hown h s

/-- **What was found wrong with what an answer says stays wrong**, whatever comes behind, and leaves nothing of what was
known. -/
theorem content_error_irrevocable (caps : Capabilities) (p s : Bytes) (e : DecodeError) (he : e.ofContent = true)
    (h : (decode caps p).result = .error e) :
    (decode caps (p ++ s)).result = .error e ∧ (decode caps (p ++ s)).caps = ∅ := by
  have hwalked : (walked p).result = .error e := by
    rcases decode_error h with rfl | ⟨hw, -⟩
    · cases he
    · exact hw
  have hplayed : (played p).result = .error e := (walked_comesTo p).2.symm.trans hwalked
  have hresult : (decode caps (p ++ s)).result = .error e :=
    (decode_of_played (played_irrevocable he hplayed s) caps).1.trans h
  exact ⟨hresult, caps_of_error hresult⟩

/-- The beginning of an answer, up to the end of a feeder's front that takes no paper at all. -/
def narrowFront : Bytes :=
  (writtenAnswer [.element "s:ScannerConfiguration" []
    [.element "s:ADF" [] [sourceElement "s:ADFFront" "ADF" "0"]]]).take 592

theorem narrowFront_irrevocable :
    (decode ∅ narrowFront).result = .error (.invertedRange .adfSimplex .height) ∧
      ∀ s, (decode ∅ (narrowFront ++ s)).result = .error (.invertedRange .adfSimplex .height) ∧
        (decode ∅ (narrowFront ++ s)).caps = ∅ := by
  have h : (decode ∅ narrowFront).result = .error (.invertedRange .adfSimplex .height) := by decide +kernel
  exact ⟨h, fun s => content_error_irrevocable ∅ narrowFront s _ rfl h⟩

end ScanDiscovery.Response
