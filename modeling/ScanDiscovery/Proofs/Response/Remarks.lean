import ScanDiscovery.Proofs.Response.Accepted
import ScanDiscovery.Proofs.Xml.Remarks
/-!
# Proofs.Response.Remarks — remarks in the values of an answer

What an answer comes to is told by the walk over it, so answers that every walk goes over alike come to the same
(`decode_of_same`).  A remark in a value therefore costs the value the blanks beside it and nothing else
(`remark_in_text`).  Specification only.
-/
namespace ScanDiscovery.Response

open Device
open Xml (Adjoining Cursor Remark Same Token joined)
open Xml.Reference (Settled)

theorem decode_of_same {document document' : Bytes} (h : Same document document') (caps : Capabilities) :
    decode caps document = decode caps document' := by
  obtain ⟨hresult, htrace⟩ := h _ _ _ DecodeError.malformedXml readResponse
  have hupdate : update readResponse document caps = update readResponse document' caps := by
    simp only [update, hresult, htrace]
  rw [decode, decode, hupdate]

/-- **A remark in a text is as if it were not there, and neither were the blanks beside it**, wherever it cuts the text
between two characters and outside of references.  So it carries nothing, if there are no blanks beside it, or nothing but
blanks on one side: texts are read the same, and answers come to the same. -/
theorem remark_in_text {front u w v back : Bytes} {tokens : List Token} {xs chars : List Char}
    (hfront : Token.reach (.content []) (Token.dropMark front) = some (tokens, .content [])) (htokens : tokens ≠ [])
    (hback : ∀ b ∈ back.head?, b = 0x3C) (hu : 0x3C ∉ u) (hv : 0x3C ∉ v) (hw : Remark w)
    (htext : Cursor.textOf (u ++ v) = .ok chars) (hcut : Utf8.decode u = .ok xs) (hsettled : Settled xs)
    (caps : Capabilities) :
    (Same (front ++ (u ++ (w ++ (v ++ back)))) (front ++ (joined u v ++ back)) ∧
      decode caps (front ++ (u ++ (w ++ (v ++ back)))) = decode caps (front ++ (joined u v ++ back))) ∧
    (Adjoining u v → Same (front ++ (u ++ (w ++ (v ++ back)))) (front ++ ((u ++ v) ++ back)) ∧
      decode caps (front ++ (u ++ (w ++ (v ++ back)))) = decode caps (front ++ ((u ++ v) ++ back))) := by
  obtain ⟨x, y, hx, hy⟩ := Xml.textOf_cut htext hcut hsettled
  have hjoined : 0x3C ∉ joined u v := fun hmem => (List.mem_append.1 hmem).elim
    (fun h => hu ((List.rdropWhile_prefix _ _).subset h)) fun h => hv ((List.dropWhile_suffix _).subset h)
  have hboth : 0x3C ∉ u ++ v := fun hmem => (List.mem_append.1 hmem).elim hu hv
  have hwithout := Xml.same_of_remark hfront htokens hback hu hw hv hjoined hx hy (Xml.strip_joined u v)
  refine ⟨⟨hwithout, decode_of_same hwithout caps⟩, fun hadjoining => ?_⟩
  have hplain := Xml.same_of_remark hfront htokens hback hu hw hv hboth hx hy (Xml.strip_of_adjoining hadjoining)
  exact ⟨hplain, decode_of_same hplain caps⟩

/-- The answer of a scanner with a name. -/
def namedAnswer : Bytes :=
  writtenAnswer [.element "s:ScannerDescription" [] [.leaf "s:ScannerName" "HP LaserJet"],
    .element "s:ScannerConfiguration" [] [sourceElement "s:Platen" "Platen" "9"]]

/-- What stands before the name. -/
def nameFront : Bytes := namedAnswer.take 229

/-- What stands behind the name. -/
def nameBack : Bytes := namedAnswer.drop 240

/-- A comment with a blank in it. -/
def blankComment : Bytes := Utf8.encode "<!-- -->".toList

theorem remark_blankComment : Remark blankComment := by
  have h : ¬ Xml.commentEnd <:+: [0x20] := by decide
  exact Remark.comment h

theorem name_with_remark :
    decode ∅ (nameFront ++ (Utf8.encode "HP Laser".toList ++ (blankComment ++ (Utf8.encode "Jet".toList ++ nameBack)))) =
      decode ∅ (nameFront ++ ((Utf8.encode "HP Laser".toList ++ Utf8.encode "Jet".toList) ++ nameBack)) := by
  have hplace : (Token.reach (.content []) (Token.dropMark nameFront)).any (fun x =>
      !x.1.isEmpty && decide (x.2 = .content [])) = true ∧ nameBack.head? = some 0x3C := by
    decide +kernel
  obtain ⟨⟨tokens, mode⟩, hfront, htokens⟩ := (Option.any_eq_true _ _).1 hplace.1
  rw [Bool.and_eq_true, decide_eq_true_eq] at htokens
  obtain ⟨htokens, rfl⟩ := htokens
  have hback : ∀ b ∈ nameBack.head?, b = 0x3C := by
    rw [hplace.2]
    exact fun b hb => (Option.some.inj hb).symm
  have htext : Cursor.textOf (Utf8.encode "HP Laser".toList ++ Utf8.encode "Jet".toList) = .ok "HP LaserJet".toList := rfl
  have hcut : Utf8.decode (Utf8.encode "HP Laser".toList) = .ok "HP Laser".toList := rfl
  have hadjoining : Adjoining (Utf8.encode "HP Laser".toList) (Utf8.encode "Jet".toList) :=
    .inr (.inr ⟨fun b hb => Option.some.inj hb ▸ rfl, fun b hb => Option.some.inj hb ▸ rfl⟩)
  exact ((remark_in_text hfront (by simpa using htokens) hback (by decide) (by decide) remark_blankComment htext hcut
    (Settled.of_plain (by decide)) ∅).2 hadjoining).2

/-- Beside the blank of a name a remark costs the name that blank. -/
theorem name_without_blank :
    nameFront ++ ((Utf8.encode "HP ".toList ++ Utf8.encode "LaserJet".toList) ++ nameBack) = namedAnswer ∧
      Remark blankComment ∧ Utf8.decode (Utf8.encode "HP ".toList) = .ok "HP ".toList ∧ Settled "HP ".toList ∧
      (decode ∅ namedAnswer).caps.model = some "HP LaserJet" ∧
      (decode ∅ (nameFront ++ (Utf8.encode "HP ".toList ++ (blankComment ++
        (Utf8.encode "LaserJet".toList ++ nameBack))))).caps.model = some "HPLaserJet" := by
  have hread : nameFront ++ ((Utf8.encode "HP ".toList ++ Utf8.encode "LaserJet".toList) ++ nameBack) = namedAnswer ∧
      (decode ∅ namedAnswer).caps.model = some "HP LaserJet" ∧
      (decode ∅ (nameFront ++ (Utf8.encode "HP ".toList ++ (blankComment ++
        (Utf8.encode "LaserJet".toList ++ nameBack))))).caps.model = some "HPLaserJet" := by
    decide +kernel
  exact ⟨hread.1, remark_blankComment, rfl, Settled.of_plain (by decide), hread.2⟩

end ScanDiscovery.Response
