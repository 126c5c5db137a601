import ScanDiscovery.Proofs.Xml.Stripped
/-!
# Proofs.Xml.Enclosed — runs of bytes, and sections, comments and instructions, whatever is in them

Bytes without a `<` are one token at most (`scan_run`).  Markup of the other kinds begins with a mark and ends with the
first mark of another sort, and nothing in between is looked at.  So a section is read as what stands between its marks
(`reach_section`), and a comment or an instruction as nothing at all (`reach_remark`).  Specification only.
-/
namespace ScanDiscovery.Xml

/-- `]]>` -/
def sectionEnd : Bytes := [0x5D, 0x5D, 0x3E]

/-- `-->` -/
def commentEnd : Bytes := [0x2D, 0x2D, 0x3E]

/-- `?>` -/
def instructionEnd : Bytes := [0x3F, 0x3E]

/-- `<![CDATA[`, some bytes, and `]]>` -/
def sectionOf (content : Bytes) : Bytes := 0x3C :: (Token.cdataStart ++ (content ++ sectionEnd))

/-- Comments and instructions. -/
inductive Remark : Bytes → Prop
  | comment {body : Bytes} (h : ¬ commentEnd <:+: body) : Remark (0x3C :: (Token.commentStart ++ (body ++ commentEnd)))
  /-- the question mark that begins an instruction is not part of its end -/
  | instruction {body : Bytes} (h : ¬ instructionEnd <:+: 0x3F :: body) :
      Remark (0x3C :: 0x3F :: (body ++ instructionEnd))

namespace Token

/-- A `<` ends the text that was begun. -/
theorem reach_lt (read rest : Bytes) : reach (.content read) (0x3C :: rest) =
    (reach .markup rest).map fun x => ((text? read).toList ++ x.1, x.2) := by
  rw [reach, step, if_pos rfl]
  cases text? read with
  | some t => rfl
  | none => exact (congrFun Option.map_id (reach .markup rest)).symm

theorem scan_lt (read rest : Bytes) : scan (.content read) (0x3C :: rest) =
    ⟨(text? read).toList ++ (scan .markup rest).items, (scan .markup rest).fault⟩ := by
  rw [scan, step, if_pos rfl]
  cases text? read <;> rfl

/-- The token of some bytes without a `<`, if they are not all blank. -/
def ofRun (run : Bytes) : List Token := if strip run = [] then [] else [.text (strip run)]

theorem toList_text? (run : Bytes) : (text? (run.dropWhile isBlankByte).reverse).toList = ofRun run := by
  rw [text?_eq begun_content, List.reverse_reverse, strip_dropWhile, ofRun]
  split <;> rfl

/-- Before a `<`, or the end, the text that was begun ends. -/
theorem scan_of_ends (read : Bytes) {back : Bytes} (hback : ∀ b ∈ back.head?, b = 0x3C) :
    scan (.content read) back =
      ⟨(text? read).toList ++ (scan (.content []) back).items, (scan (.content []) back).fault⟩ := by
  cases back with
  | nil =>
    rw [scan, scan, finish]
    cases text? read <;> rfl
  | cons b back =>
    obtain rfl := hback b rfl
    rw [scan_lt, scan_lt]
    rfl

/-- **Bytes without a `<`** are one text, or none. -/
theorem scan_run {run back : Bytes} (h : 0x3C ∉ run) (hback : ∀ b ∈ back.head?, b = 0x3C) :
    scan (.content []) (run ++ back) =
      ⟨ofRun run ++ (scan (.content []) back).items, (scan (.content []) back).fault⟩ := by
  rw [scan_append run (reach_plain run h begun_nil), scan_of_ends _ hback, List.reverse_nil, List.nil_append,
    toList_text?, List.nil_append]

/-- A mode that goes on until a `>` where it can be closed reads all bytes before that. -/
theorem reach_until (mode : Bytes → Mode) (closes : Bytes → Prop)
    (hstep : ∀ read b, ¬ (b = 0x3E ∧ closes read) → step (mode read) b = .more (mode (b :: read))) :
    ∀ (v read : Bytes), (∀ p s, v = p ++ 0x3E :: s → ¬ closes (p.reverse ++ read)) → ∀ w,
      reach (mode read) (v ++ w) = reach (mode (v.reverse ++ read)) w
  | [], _, _, _ => rfl
  | b :: v, read, h, w => by
    have hopen : ¬ (b = 0x3E ∧ closes read) := by
      rintro ⟨rfl, hc⟩
      exact h [] v rfl hc
    have ih := reach_until mode closes hstep v (b :: read) (fun p s hv => by
      have hp := h (b :: p) s (by rw [hv]; rfl)
      rwa [List.reverse_cons, List.append_assoc] at hp) w
    rw [List.cons_append, reach, hstep read b hopen]
    refine ih.trans ?_
    rw [List.reverse_cons, List.append_assoc]
    rfl

theorem exists_of_append {b y p s : Bytes} (hy : 0x3E ∉ y) (h : b ++ y = p ++ 0x3E :: s) : ∃ s', b = p ++ 0x3E :: s' := by
  rcases List.append_eq_append_iff.1 h with ⟨more, rfl, hmore⟩ | ⟨more, rfl, hmore⟩
  · exact absurd (hmore ▸ List.mem_append_right _ List.mem_cons_self) hy
  · cases more with
    | nil => exact absurd (show (0x3E : UInt8) ∈ y from (List.nil_append y ▸ hmore) ▸ List.mem_cons_self) hy
    | cons c more => exact ⟨more, by rw [(List.cons.inj hmore).1]⟩

theorem exists_of_take_two {x y : UInt8} {p read : Bytes} (hp : 2 ≤ p.length)
    (h : (p.reverse ++ read).take 2 = [x, y]) : ∃ q, p = q ++ [y, x] := by
  obtain ⟨a, b, r, hr⟩ : ∃ a b r, p.reverse = a :: b :: r := by
    rcases hrev : p.reverse with _ | ⟨a, _ | ⟨b, r⟩⟩
    · simp [List.reverse_eq_nil_iff.1 hrev] at hp
    · have hlen := congrArg List.length hrev
      rw [List.length_reverse, List.length_singleton] at hlen
      omega
    · exact ⟨a, b, r, rfl⟩
  rw [hr] at h
  obtain ⟨rfl, hb⟩ := List.cons.inj h
  obtain ⟨rfl, -⟩ := List.cons.inj hb
  exact ⟨r.reverse, by rw [← List.reverse_reverse p, hr, List.reverse_cons, List.reverse_cons, List.append_assoc]; rfl⟩

/-! ## Sections -/

/-- What is read of a section before its content, newest first -/
def sectionRead : Bytes := [0x5B, 0x41, 0x54, 0x41, 0x44, 0x43, 0x5B, 0x21]

theorem step_cdata {read : Bytes} {b : UInt8} (h : ¬ (b = 0x3E ∧ read.take 2 = [0x5D, 0x5D])) :
    step (.cdata read) b = .more (.cdata (b :: read)) := by
  rw [step, if_neg (by simpa using h)]

theorem endCdata_of_content (content : Bytes) :
    endCdata ((content ++ [0x5D, 0x5D]).reverse ++ sectionRead) = .done (.cdata content) := by
  have hread : (((content ++ [0x5D, 0x5D]).reverse ++ sectionRead).drop 2).reverse = cdataStart ++ content := by
    rw [List.reverse_append]
    simp [sectionRead, cdataStart]
  have hprefix : cdataStart.isPrefixOf? (cdataStart ++ content) = some content := rfl
  rw [endCdata, hread, hprefix]

/-- **A section is read as what stands between its marks**, if its end mark is not part of that. -/
theorem reach_section {content : Bytes} (h : ¬ sectionEnd <:+: content) (read : Bytes) :
    reach (.content read) (sectionOf content) = some ((text? read).toList ++ [.cdata content], .content []) := by
  have hopen : ∀ p s, content ++ [0x5D, 0x5D] = p ++ 0x3E :: s →
      ¬ (p.reverse ++ sectionRead).take 2 = [0x5D, 0x5D] := by
    intro p s hp hclose
    obtain ⟨s', hcontent⟩ := exists_of_append (by decide) hp
    have hlen : 2 ≤ p.length := by
      rcases p with _ | ⟨b, _ | ⟨c, p⟩⟩
      · exact absurd hclose (by decide)
      · exact absurd (List.cons.inj (List.cons.inj hclose).2).1 (by decide)
      · simp
    obtain ⟨q, rfl⟩ := exists_of_take_two hlen hclose
    exact h ⟨q, s', by rw [hcontent]; simp [sectionEnd]⟩
  have hbody := reach_until .cdata (fun read => read.take 2 = [0x5D, 0x5D]) (fun _ _ => step_cdata)
    (content ++ [0x5D, 0x5D]) sectionRead hopen [0x3E]
  have hmark : reach .markup (cdataStart ++ (content ++ sectionEnd)) =
      reach (.cdata sectionRead) ((content ++ [0x5D, 0x5D]) ++ [0x3E]) := by
    rw [List.append_assoc]
    rfl
  have hend : step (.cdata ((content ++ [0x5D, 0x5D]).reverse ++ sectionRead)) 0x3E = .done (.cdata content) := by
    rw [step, if_pos (by rw [List.reverse_append]; rfl), endCdata_of_content]
  rw [sectionOf, reach_lt, hmark, hbody, reach, hend]
  rfl

/-! ## Comments and instructions -/

theorem step_comment {read : Bytes} {b : UInt8} (h : ¬ (b = 0x3E ∧ read.take 2 = [0x2D, 0x2D] ∧ 4 < read.length)) :
    step (.comment read) b = .more (.comment (b :: read)) := by
  rw [step, if_neg (by simpa [and_assoc] using h)]

theorem step_instruction {read : Bytes} {b : UInt8} (h : ¬ (b = 0x3E ∧ read.head? = some 0x3F)) :
    step (.instruction read) b = .more (.instruction (b :: read)) := by
  rw [step, if_neg (by simpa using h)]

theorem reach_comment {body : Bytes} (h : ¬ commentEnd <:+: body) (read : Bytes) :
    reach (.content read) (0x3C :: (commentStart ++ (body ++ commentEnd))) =
      some ((text? read).toList ++ [.remark], .content []) := by
  have hopen : ∀ p s, body ++ [0x2D, 0x2D] = p ++ 0x3E :: s →
      ¬ ((p.reverse ++ commentStart.reverse).take 2 = [0x2D, 0x2D] ∧ 4 < (p.reverse ++ commentStart.reverse).length) := by
    rintro p s hp ⟨hclose, hlong⟩
    obtain ⟨s', hbody⟩ := exists_of_append (by decide) hp
    have hlen : 2 ≤ p.length := by
      rw [List.length_append, List.length_reverse] at hlong
      exact Nat.lt_of_add_lt_add_right (show 1 + 3 < p.length + 3 from hlong)
    obtain ⟨q, rfl⟩ := exists_of_take_two hlen hclose
    exact h ⟨q, s', by rw [hbody]; simp [commentEnd]⟩
  have hbody := reach_until .comment (fun read => read.take 2 = [0x2D, 0x2D] ∧ 4 < read.length)
    (fun _ _ => step_comment) (body ++ [0x2D, 0x2D]) commentStart.reverse hopen [0x3E]
  have hmark : reach .markup (commentStart ++ (body ++ commentEnd)) =
      reach (.comment commentStart.reverse) ((body ++ [0x2D, 0x2D]) ++ [0x3E]) := by
    rw [List.append_assoc]
    rfl
  have hend : step (.comment ((body ++ [0x2D, 0x2D]).reverse ++ commentStart.reverse)) 0x3E = .done .remark := by
    rw [step, if_pos (by simp [commentStart]), endComment, if_pos]
    simp [commentStart]
  rw [reach_lt, hmark, hbody, reach, hend]
  rfl

theorem reach_instruction {body : Bytes} (h : ¬ instructionEnd <:+: 0x3F :: body) (read : Bytes) :
    reach (.content read) (0x3C :: 0x3F :: (body ++ instructionEnd)) =
      some ((text? read).toList ++ [.remark], .content []) := by
  have hopen : ∀ p s, body ++ [0x3F] = p ++ 0x3E :: s → ¬ (p.reverse ++ [0x3F]).head? = some 0x3F := by
    intro p s hp hclose
    obtain ⟨s', hbody⟩ := exists_of_append (by decide) hp
    rw [← List.reverse_cons, List.head?_reverse] at hclose
    obtain ⟨q, hq⟩ := List.getLast?_eq_some_iff.1 hclose
    exact h ⟨q, s', by rw [hbody, ← List.cons_append, hq]; simp [instructionEnd]⟩
  have hbody := reach_until .instruction (fun read => read.head? = some 0x3F) (fun _ _ => step_instruction)
    (body ++ [0x3F]) [0x3F] hopen [0x3E]
  have hmark : reach .markup (0x3F :: (body ++ instructionEnd)) =
      reach (.instruction [0x3F]) ((body ++ [0x3F]) ++ [0x3E]) := by
    rw [List.append_assoc]
    rfl
  have hend : step (.instruction ((body ++ [0x3F]).reverse ++ [0x3F])) 0x3E = .done .remark := by
    rw [step, if_pos (by simp), endInstruction, if_pos (by simp)]
  rw [reach_lt, hmark, hbody, reach, hend]
  rfl

/-- **A remark leaves nothing but the text that it ends.** -/
theorem reach_remark {w : Bytes} (h : Remark w) (read : Bytes) :
    reach (.content read) w = some ((text? read).toList ++ [.remark], .content []) := by
  cases h with
  | comment h => exact reach_comment h read
  | instruction h => exact reach_instruction h read

end Token

end ScanDiscovery.Xml
