import ScanDiscovery.Proofs.Response.Accepted
import ScanDiscovery.Proofs.Response.Streaming
import ScanDiscovery.Proofs.Xml.Passing
/-!
# Proofs.Response.Inert — what an answer may say besides

An answer comes to what the machine of the answer script does with it, and the machine passes whatever its sections do
not look at.  So elements that no reader looks for, with all that stands in them, texts outside the values that are read,
and remarks change nothing of what an answer comes to (`unrecognised_is_inert`).  Specification only.
-/
namespace ScanDiscovery.Response

open Device
open Xml (Bindings Event Token)

/-- **Answers that the machine does the same with** come to the same. -/
theorem decode_of_played {document document' : Bytes} (h : played document = played document') (caps : Capabilities) :
    (decode caps document).result = (decode caps document').result ∧
      (decode caps document).caps = (decode caps document').caps := by
  obtain ⟨hfindings, hresult⟩ := walked_comesTo document
  obtain ⟨hfindings', hresult'⟩ := walked_comesTo document'
  refine decode_congr ?_
  rw [learn, learn, hfindings, hfindings', hresult, hresult', h]

/-- **What is not recognised is inert.**  Between two tokens inside an element, and in no value that is read, bytes that
close what they open can be put in, as long as no reader looks for one of their elements there; behind a fault any bytes
can. -/
theorem unrecognised_is_inert {beginning inserted : Bytes} {tokens : List Token}
    (hbeginning : Token.before beginning = some tokens)
    (hinserted : ∀ before bs names, Event.follow Bindings.initial [] tokens = some (before, bs, names) → names ≠ [] ∧
      ∃ es, Event.fragment bs inserted = some es ∧ answerScript.passes (Event.openPaths [] before) es = true)
    (rest : Bytes) (caps : Capabilities) :
    (decode caps (beginning ++ (inserted ++ rest))).result = (decode caps (beginning ++ rest)).result ∧
      (decode caps (beginning ++ (inserted ++ rest))).caps = (decode caps (beginning ++ rest)).caps := by
  have hplayed : played (beginning ++ (inserted ++ rest)) = played (beginning ++ rest) :=
    answerScript.play_insert hbeginning hinserted rest
  exact decode_of_played hplayed caps

/-- An element of another vocabulary, with a width and an unknown reference in it, and a remark. -/
def foreignElement : Bytes :=
  Utf8.encode "<x:a xmlns:x='urn:x'>&no;<s:Width>7</s:Width></x:a><!-- -->".toList

theorem feeder_with_foreign :
    (decode ∅ (feederAnswer.take 279 ++ (foreignElement ++ feederAnswer.drop 279))).result = .ok () ∧
      (decode ∅ (feederAnswer.take 279 ++ (foreignElement ++ feederAnswer.drop 279))).caps =
        (decode ∅ feederAnswer).caps := by
  have hsome : (Token.before (feederAnswer.take 279)).isSome = true := by decide +kernel
  -- the cut is inside the front of the feeder
  have hpasses : ((Token.before (feederAnswer.take 279)).bind (Event.follow Bindings.initial [])).all (fun x =>
      !x.2.2.isEmpty &&
        (Event.fragment x.2.1 foreignElement).any (answerScript.passes (Event.openPaths [] x.1))) = true := by
    decide +kernel
  obtain ⟨tokens, htokens⟩ := Option.isSome_iff_exists.1 hsome
  have hinserted : ∀ before bs names, Event.follow Bindings.initial [] tokens = some (before, bs, names) →
      names ≠ [] ∧ ∃ es, Event.fragment bs foreignElement = some es ∧
        answerScript.passes (Event.openPaths [] before) es = true := by
    intro before bs names hfollow
    rw [htokens, Option.bind_some, hfollow, Option.all_some, Bool.and_eq_true] at hpasses
    obtain ⟨hnames, hany⟩ := hpasses
    exact ⟨by simpa using hnames, (Option.any_eq_true _ _).1 hany⟩
  have hinert := unrecognised_is_inert htokens hinserted (feederAnswer.drop 279) ∅
  rw [List.take_append_drop] at hinert
  exact ⟨hinert.1.trans feederAnswer_read.2.1, hinert.2⟩

end ScanDiscovery.Response
