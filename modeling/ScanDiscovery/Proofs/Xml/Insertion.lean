import ScanDiscovery.Proofs.Xml.Beginning
/-!
# Proofs.Xml.Insertion — a document with something put in between

The tokens before a place between two of them (`Token.before`) open and close elements (`Event.follow`), and a fragment
is what closes all it opens (`Event.fragment`).  Put in at such a place, inside an element, a fragment adds its events,
and everything else stays as it was, but for the texts that touch it (`ofBytes_insert`): elements and bindings are those
from before, since the elements of the fragment restore them as they end.  Where the tokens are at fault, nothing behind
them is read at all (`ofBytes_of_fault`).  Specification only.
-/
namespace ScanDiscovery.Xml

def Token.isText : Token → Bool
  | .text _ => true
  | _ => false

def Event.isText : Event → Bool
  | .text _ => true
  | _ => false

def Token.withoutTexts (ts : List Token) : List Token := ts.filter (!·.isText)

def Event.withoutTexts (es : List Event) : List Event := es.filter (!·.isText)

namespace Token

/-- The tokens that some bytes complete, and the mode behind them; none where they are at fault. -/
def reach : Mode → Bytes → Option (List Token × Mode)
  | m, [] => some ([], m)
  | m, b :: bs =>
    match step m b with
    | .more m => reach m bs
    | .emit t m => (reach m bs).map fun (ts, m) => (t :: ts, m)
    | .fault _ => none

theorem scan_append {v : Bytes} : ∀ (u : Bytes) {m m' : Mode} {ts : List Token}, reach m u = some (ts, m') →
    scan m (u ++ v) = ⟨ts ++ (scan m' v).items, (scan m' v).fault⟩
  | [], m, m', ts, h => by
    cases h
    rfl
  | b :: u, m, m', ts, h => by
    rw [reach] at h
    rw [List.cons_append, scan]
    cases hs : step m b with
    | more m₁ =>
      rw [hs] at h
      exact scan_append u h
    | emit t m₁ =>
      rw [hs] at h
      obtain ⟨⟨ts', m''⟩, hr, he⟩ := Option.map_eq_some_iff.1 h
      cases he
      simp only [scan_append u hr]
      rfl
    | fault e =>
      rw [hs] at h
      cases h

/-- Where the bytes end without a fault, they end between tags, with a text at most. -/
theorem reach_of_scan : ∀ (u : Bytes) {m : Mode}, (scan m u).fault = none →
    ∃ ts read, reach m u = some (ts, .content read) ∧ (scan m u).items = ts ++ (text? read).toList
  | [], m, h => by
    cases m with
    | content read =>
      refine ⟨[], read, rfl, ?_⟩
      rw [scan, finish]
      cases text? read <;> rfl
    | markup => cases h
    | opening quote read => cases h
    | closing quote read => cases h
    | instruction read => cases h
    | declaration => cases h
    | comment read => cases h
    | cdata read => cases h
    | doctype nested read => cases h
  | b :: u, m, h => by
    rw [scan] at h
    rw [reach, scan]
    cases hs : step m b with
    | more m' =>
      rw [hs] at h
      exact reach_of_scan u h
    | emit t m' =>
      rw [hs] at h
      obtain ⟨ts, read, hr, hi⟩ := reach_of_scan u h
      refine ⟨t :: ts, read, ?_, ?_⟩
      · simp only [hr]
        rfl
      · simp only [Stream.items_cons, hi, List.cons_append]
    | fault e =>
      rw [hs] at h
      cases h

/-- **What was read of a text makes no difference behind it.** -/
theorem scan_content : ∀ (bs : Bytes) (read read' : Bytes), ∃ (short short' : List Token) (rest : Stream Token),
    Scrap Token.text short ∧ Scrap Token.text short' ∧
      scan (.content read) bs = ⟨short ++ rest.items, rest.fault⟩ ∧
      scan (.content read') bs = ⟨short' ++ rest.items, rest.fault⟩
  | [], read, read' => by
    refine ⟨_, _, .ended, scrap_finish (.content read), scrap_finish (.content read'), ?_, ?_⟩
    all_goals
      rw [scan, finish, Stream.ended, List.append_nil]
      split <;> rfl
  | b :: bs, read, read' => by
    by_cases hlt : b = 0x3C
    · have hone : ∀ read, scan (.content read) (b :: bs) =
          ⟨(text? read).toList ++ (scan .markup bs).items, (scan .markup bs).fault⟩ := by
        intro read
        rw [scan, step, if_pos hlt]
        cases text? read <;> rfl
      exact ⟨_, _, scan .markup bs, scrap_text? read, scrap_text? read', hone read, hone read'⟩
    · have hone : ∀ read, ∃ read', scan (.content read) (b :: bs) = scan (.content read') bs := by
        intro read
        rw [scan, step, if_neg hlt]
        by_cases hblank : (read.isEmpty && isBlankByte b) = true
        · exact ⟨[], by rw [if_pos hblank]⟩
        · exact ⟨b :: read, by rw [if_neg hblank]⟩
      obtain ⟨next, hnext⟩ := hone read
      obtain ⟨next', hnext'⟩ := hone read'
      rw [hnext, hnext']
      exact scan_content bs next next'

theorem withoutTexts_append (ts ts' : List Token) : withoutTexts (ts ++ ts') = withoutTexts ts ++ withoutTexts ts' :=
  List.filter_append _ _

theorem withoutTexts_scrap {ts : List Token} (h : Scrap Token.text ts) : withoutTexts ts = [] := by
  rcases h with rfl | ⟨t, rfl⟩ <;> rfl

/-- **Tokens read in the middle of a text** are those read from the start, but for texts. -/
theorem reach_content {w : Bytes} (h : (scan (.content []) w).fault = none) (read : Bytes) :
    ∃ ts read', reach (.content read) w = some (ts, .content read') ∧
      withoutTexts ts = withoutTexts (scan (.content []) w).items := by
  obtain ⟨short, short', rest, hs, hs', h1, h2⟩ := scan_content w read []
  have hfault : (scan (.content read) w).fault = none := by
    rw [h2] at h
    rw [h1]
    exact h
  obtain ⟨ts, read', hr, hi⟩ := reach_of_scan w hfault
  refine ⟨ts, read', hr, ?_⟩
  have hitems : withoutTexts (scan (.content read) w).items = withoutTexts (scan (.content []) w).items := by
    rw [h1, h2, withoutTexts_append, withoutTexts_append, withoutTexts_scrap hs, withoutTexts_scrap hs']
  rw [hi, withoutTexts_append, withoutTexts_scrap (scrap_text? read'), List.append_nil] at hitems
  exact hitems

/-- The tokens of the beginning of a document, where it breaks off between two tokens or in a text. -/
def before (beginning : Bytes) : Option (List Token) :=
  match reach (.content []) (dropMark beginning) with
  | some (ts, .content _) => some ts
  | _ => none

theorem before_eq_some {beginning : Bytes} {ts : List Token} (h : before beginning = some ts) :
    ∃ read, reach (.content []) (dropMark beginning) = some (ts, .content read) := by
  unfold before at h
  split at h
  · rename_i read hr
    cases h
    exact ⟨read, hr⟩
  · cases h

/-- A beginning that has tokens has the byte order mark before them, if there is one. -/
theorem dropMark_append {beginning : Bytes} {ts : List Token} (h : before beginning = some ts) (hts : ts ≠ [])
    (rest : Bytes) : dropMark (beginning ++ rest) = dropMark beginning ++ rest := by
  have hpart : ∀ part : Bytes, before part = some [] → beginning ≠ part := by
    rintro part hpart rfl
    rw [hpart] at h
    exact hts (Option.some.inj h).symm
  by_cases hmark : ∃ tail, beginning ++ rest = 0xEF :: 0xBB :: 0xBF :: tail
  · obtain ⟨tail, htail⟩ := hmark
    rcases cut_at_mark htail with hcut | hcut | hcut | ⟨p, rfl⟩
    · exact absurd hcut (hpart [] rfl)
    · exact absurd hcut (hpart [0xEF] rfl)
    · exact absurd hcut (hpart [0xEF, 0xBB] rfl)
    · rfl
  · rw [dropMark_of_not fun tail h => hmark ⟨tail, h⟩,
      dropMark_of_not fun tail h => hmark ⟨tail ++ rest, by rw [h]; rfl⟩]

end Token

namespace Event

/-- The events of one token, and the bindings and the open elements behind it; none where it is at fault. -/
def advance (bs : Bindings) (opened : List Open) : Token → Option (List Event × Bindings × List Open)
  | .text content => some ([.text content], bs, opened)
  | .cdata content => some ([.cdata content], bs, opened)
  | .remark => some ([], bs, opened)
  | .opening content empty =>
    match bs.extend (attributesOf content) with
    | .error _ => none
    | .ok inside =>
      let name := nameOf content
      if empty then some ([begin name inside, .finish], bs, opened)
      else some ([begin name inside], inside, ⟨name.bytes, bs⟩ :: opened)
  | .closing name =>
    match opened with
    | [] => none
    | o :: opened => if o.name = name then some ([.finish], o.outside, opened) else none

/-- The same of some tokens, one after the other. -/
def follow (bs : Bindings) (opened : List Open) : List Token → Option (List Event × Bindings × List Open)
  | [] => some ([], bs, opened)
  | t :: ts =>
    match advance bs opened t with
    | none => none
    | some (es, bs, opened) => (follow bs opened ts).map fun (es', x) => (es ++ es', x)

/-- All that a token does where it is not at fault. -/
inductive Advanced : Bindings → List Open → Token → List Event → Bindings → List Open → Prop
  | text {bs : Bindings} {opened : List Open} (content : Bytes) :
      Advanced bs opened (.text content) [.text content] bs opened
  | cdata {bs : Bindings} {opened : List Open} (content : Bytes) :
      Advanced bs opened (.cdata content) [.cdata content] bs opened
  | remark {bs : Bindings} {opened : List Open} : Advanced bs opened .remark [] bs opened
  | empty {bs inside : Bindings} {opened : List Open} {content : Bytes}
      (h : bs.extend (attributesOf content) = .ok inside) :
      Advanced bs opened (.opening content true) [begin (nameOf content) inside, .finish] bs opened
  | opening {bs inside : Bindings} {opened : List Open} {content : Bytes}
      (h : bs.extend (attributesOf content) = .ok inside) :
      Advanced bs opened (.opening content false) [begin (nameOf content) inside] inside
        (⟨(nameOf content).bytes, bs⟩ :: opened)
  | closing {bs : Bindings} {opened : List Open} (o : Open) :
      Advanced bs (o :: opened) (.closing o.name) [.finish] o.outside opened

section

variable {bs bs' : Bindings} {opened opened' : List Open} {es : List Event} {t : Token} {ts : List Token}

theorem advance_eq_some : advance bs opened t = some (es, bs', opened') ↔ Advanced bs opened t es bs' opened' := by
  constructor
  · intro h
    cases t with
    | text content => cases h; exact .text content
    | cdata content => cases h; exact .cdata content
    | remark => cases h; exact .remark
    | opening content empty =>
      simp only [advance] at h
      cases hb : bs.extend (attributesOf content) with
      | error e => rw [hb] at h; cases h
      | ok inside =>
        rw [hb] at h
        cases empty with
        | true => cases h; exact .empty hb
        | false => cases h; exact .opening hb
    | closing name =>
      cases opened with
      | nil => cases h
      | cons o opened =>
        simp only [advance] at h
        by_cases hn : o.name = name
        · rw [if_pos hn] at h
          cases h
          rw [← hn]
          exact .closing o
        · rw [if_neg hn] at h
          cases h
  · intro h
    cases h with
    | text => rfl
    | cdata => rfl
    | remark => rfl
    | empty hb => simp only [advance, hb, if_true]
    | opening hb => simp only [advance, hb, Bool.false_eq_true, if_false]
    | closing => simp only [advance, if_true]

/-- **Tokens that are not at fault, taken one by one.** -/
theorem follow_cons : follow bs opened (t :: ts) = some (es, bs', opened') ↔
    ∃ first rest b o, Advanced bs opened t first b o ∧ follow b o ts = some (rest, bs', opened') ∧
      es = first ++ rest := by
  simp only [← advance_eq_some]
  rw [follow]
  constructor
  · intro h
    cases ha : advance bs opened t with
    | none => rw [ha] at h; cases h
    | some x =>
      obtain ⟨first, b, o⟩ := x
      rw [ha] at h
      obtain ⟨⟨rest, x⟩, hf, he⟩ := Option.map_eq_some_iff.1 h
      cases he
      exact ⟨first, rest, b, o, rfl, hf, rfl⟩
  · rintro ⟨first, rest, b, o, ha, hf, rfl⟩
    simp only [ha, hf]
    rfl

theorem Advanced.ofTokens {fault : Option Error} (h : Advanced bs opened t es bs' opened') :
    Event.ofTokens fault bs opened (t :: ts) =
      ⟨es ++ (Event.ofTokens fault bs' opened' ts).items, (Event.ofTokens fault bs' opened' ts).fault⟩ := by
  cases h with
  | text => rfl
  | cdata => rfl
  | remark => rfl
  | empty hb => simp only [Event.ofTokens, hb, if_true]; rfl
  | opening hb => simp only [Event.ofTokens, hb, Bool.false_eq_true, if_false]; rfl
  | closing => simp only [Event.ofTokens, if_true]; rfl

theorem ofTokens_append {ts' : List Token} {fault : Option Error} : ∀ (ts : List Token) {bs bs' : Bindings}
    {opened opened' : List Open} {es : List Event}, follow bs opened ts = some (es, bs', opened') →
      ofTokens fault bs opened (ts ++ ts') =
        ⟨es ++ (ofTokens fault bs' opened' ts').items, (ofTokens fault bs' opened' ts').fault⟩
  | [], _, _, _, _, _, h => by
    cases h
    rfl
  | t :: ts, _, _, _, _, _, h => by
    obtain ⟨first, rest, b, o, ha, hf, rfl⟩ := follow_cons.1 h
    rw [List.cons_append, ha.ofTokens, ofTokens_append ts hf, List.append_assoc]

theorem ofTokens_of_fault {ts' ts'' : List Token} {fault fault' : Option Error} : ∀ (ts : List Token) {bs : Bindings}
    {opened : List Open}, follow bs opened ts = none →
      ofTokens fault bs opened (ts ++ ts') = ofTokens fault' bs opened (ts ++ ts'')
  | [], _, _, h => by cases h
  | t :: ts, bs, opened, h => by
    rw [follow] at h
    cases ha : advance bs opened t with
    | some x =>
      obtain ⟨es, b, o⟩ := x
      have hone := advance_eq_some.1 ha
      rw [ha] at h
      rw [List.cons_append, List.cons_append, hone.ofTokens, hone.ofTokens,
        ofTokens_of_fault ts (Option.map_eq_none_iff.1 h)]
    | none =>
      cases t with
      | text => cases ha
      | cdata => cases ha
      | remark => cases ha
      | opening content empty =>
        simp only [advance] at ha
        simp only [List.cons_append, Event.ofTokens]
        cases hb : bs.extend (attributesOf content) with
        | error e => rfl
        | ok inside =>
          rw [hb] at ha
          cases empty <;> cases ha
      | closing name =>
        cases opened with
        | nil => rfl
        | cons o opened =>
          simp only [advance] at ha
          simp only [List.cons_append, Event.ofTokens]
          by_cases hn : o.name = name
          · rw [if_pos hn] at ha
            cases ha
          · rw [if_neg hn, if_neg hn]

theorem Advanced.deeper (h : Advanced bs opened t es bs' opened') (outer : List Open) :
    Advanced bs (opened ++ outer) t es bs' (opened' ++ outer) := by
  cases h with
  | text content => exact .text content
  | cdata content => exact .cdata content
  | remark => exact .remark
  | empty hb => exact .empty hb
  | opening hb => exact .opening hb
  | closing o => exact .closing o

theorem follow_deeper (outer : List Open) : ∀ (ts : List Token) {bs bs' : Bindings} {opened opened' : List Open}
    {es : List Event}, follow bs opened ts = some (es, bs', opened') →
      follow bs (opened ++ outer) ts = some (es, bs', opened' ++ outer)
  | [], _, _, _, _, _, h => by
    cases h
    rfl
  | t :: ts, _, _, _, _, _, h => by
    obtain ⟨first, rest, b, o, ha, hf, rfl⟩ := follow_cons.1 h
    exact follow_cons.2 ⟨first, rest, b, o ++ outer, ha.deeper outer, follow_deeper outer ts hf, rfl⟩

/-- The bindings that will be in force once the open elements are closed. -/
def outermost (bs : Bindings) : List Open → Bindings
  | [] => bs
  | o :: opened => outermost o.outside opened

/-- **Elements that end restore the bindings from before.** -/
theorem follow_outermost : ∀ (ts : List Token) {bs bs' : Bindings} {opened opened' : List Open} {es : List Event},
    follow bs opened ts = some (es, bs', opened') → outermost bs' opened' = outermost bs opened
  | [], _, _, _, _, _, h => by
    cases h
    rfl
  | t :: ts, bs, _, opened, _, _, h => by
    obtain ⟨first, rest, b, o, ha, hf, -⟩ := follow_cons.1 h
    have hone : outermost b o = outermost bs opened := by cases ha <;> rfl
    exact (follow_outermost ts hf).trans hone

/-- The events of tokens close what the tokens close, and leave open what they leave open. -/
theorem follow_tally : ∀ (ts : List Token) {bs bs' : Bindings} {opened opened' : List Open} {es : List Event},
    follow bs opened ts = some (es, bs', opened') →
      Nested opened.length es ∧ ∀ rooted, (es.foldl tally (opened.length, rooted)).1 = opened'.length
  | [], _, _, _, _, _, h => by
    cases h
    exact ⟨trivial, fun _ => rfl⟩
  | t :: ts, bs, _, opened, _, _, h => by
    obtain ⟨first, rest, b, o, ha, hf, rfl⟩ := follow_cons.1 h
    obtain ⟨hnest, htally⟩ := follow_tally ts hf
    cases ha with
    | text => exact ⟨hnest, htally⟩
    | cdata => exact ⟨hnest, htally⟩
    | remark => exact ⟨hnest, htally⟩
    | empty hb => exact ⟨hnest, fun _ => htally true⟩
    | opening hb => exact ⟨hnest, fun _ => htally true⟩
    | closing => exact ⟨hnest, htally⟩

theorem withoutTexts_append (es es' : List Event) : withoutTexts (es ++ es') = withoutTexts es ++ withoutTexts es' :=
  List.filter_append _ _

theorem Advanced.withoutTexts (h : Advanced bs opened t es bs' opened') (ht : t.isText = false) :
    Event.withoutTexts es = es := by
  cases h with
  | text => cases ht
  | cdata => rfl
  | remark => rfl
  | empty => rfl
  | opening => rfl
  | closing => rfl

/-- **Texts make no difference to anything else.** -/
theorem follow_withoutTexts : ∀ (ts : List Token) (bs : Bindings) (opened : List Open),
    follow bs opened (Token.withoutTexts ts) = (follow bs opened ts).map fun x => (withoutTexts x.1, x.2)
  | [], _, _ => rfl
  | t :: ts, bs, opened => by
    cases ht : t.isText with
    | true =>
      cases t with
      | text content =>
        have hskip : Token.withoutTexts (.text content :: ts) = Token.withoutTexts ts := rfl
        rw [hskip, follow_withoutTexts ts, follow, advance, Option.map_map]
        rfl
      | _ => cases ht
    | false =>
      have hkeep : Token.withoutTexts (t :: ts) = t :: Token.withoutTexts ts := List.filter_cons_of_pos (by simp [ht])
      rw [hkeep, follow, follow]
      cases ha : advance bs opened t with
      | none => rfl
      | some x =>
        obtain ⟨es, b, o⟩ := x
        have hes : withoutTexts es = es := (advance_eq_some.1 ha).withoutTexts ht
        simp only [follow_withoutTexts ts, Option.map_map]
        congr 1
        funext x
        simp only [Function.comp, withoutTexts_append, hes]

end

/-- The events of bytes that are not at fault and close just what they open. -/
def fragment (bs : Bindings) (bytes : Bytes) : Option (List Event) :=
  match (Token.scan (.content []) bytes).fault, follow bs [] (Token.scan (.content []) bytes).items with
  | none, some (es, _, []) => some es
  | _, _ => none

variable {beginning bytes : Bytes} {tokens : List Token} {before inserted : List Event} {bs : Bindings}
  {opened : List Open}

theorem fragment_eq_some (h : fragment bs bytes = some inserted) :
    (Token.scan (.content []) bytes).fault = none ∧
      ∃ b, follow bs [] (Token.scan (.content []) bytes).items = some (inserted, b, []) := by
  unfold fragment at h
  split at h
  · rename_i es b hfault hf
    cases h
    exact ⟨hfault, b, hf⟩
  · cases h

theorem ofTokens_scrap (fault : Option Error) (bs : Bindings) (opened : List Open) {short : List Token}
    (h : Scrap Token.text short) (ts : List Token) : ∃ short', Scrap Event.text short' ∧
      ofTokens fault bs opened (short ++ ts) =
        ⟨short' ++ (ofTokens fault bs opened ts).items, (ofTokens fault bs opened ts).fault⟩ := by
  rcases h with rfl | ⟨t, rfl⟩
  · exact ⟨[], .inl rfl, rfl⟩
  · exact ⟨[.text t], .inr ⟨t, rfl⟩, rfl⟩

/-- **Bytes that close what they open, put in inside an element.**  Texts that stand there, or are put there, may be
one text or several, and all else is the same with them and without. -/
theorem ofBytes_insert (hu : Token.before beginning = some tokens)
    (hbefore : follow Bindings.initial [] tokens = some (before, bs, opened)) (ho : opened ≠ [])
    (hw : fragment bs bytes = some inserted) (rest : Bytes) :
    ∃ (between short short' : List Event) (tail : Stream Event),
      (withoutTexts between = withoutTexts inserted ∧ Nested 0 between ∧ (between.foldl tally (0, true)).1 = 0) ∧
      (Scrap Event.text short ∧ ofBytes (beginning ++ rest) = ⟨before ++ (short ++ tail.items), tail.fault⟩) ∧
      (Scrap Event.text short' ∧
        ofBytes (beginning ++ (bytes ++ rest)) = ⟨before ++ (between ++ (short' ++ tail.items)), tail.fault⟩) := by
  have htokens : tokens ≠ [] := by
    rintro rfl
    cases hbefore
    exact ho rfl
  obtain ⟨read, hreach⟩ := Token.before_eq_some hu
  obtain ⟨hfault, b, hinserted⟩ := fragment_eq_some hw
  obtain ⟨ts, read', hreach', htexts⟩ := Token.reach_content hfault read
  -- the bytes have the same events behind the text that stands there, but for texts
  obtain ⟨between, hbetween, hkept⟩ : ∃ between, follow bs [] ts = some (between, b, []) ∧
      withoutTexts between = withoutTexts inserted := by
    have h := follow_withoutTexts (Token.scan (.content []) bytes).items bs []
    rw [← htexts, follow_withoutTexts, hinserted] at h
    obtain ⟨⟨between, b', o⟩, hf, he⟩ := Option.map_eq_some_iff.1 h
    obtain ⟨htext, rfl, rfl⟩ : withoutTexts between = withoutTexts inserted ∧ b' = b ∧ o = [] := by simpa using he
    exact ⟨between, hf, htext⟩
  obtain rfl : b = bs := follow_outermost ts hbetween
  have hinside : follow b opened ts = some (between, b, opened) := follow_deeper opened ts hbetween
  obtain ⟨short, short', tail, hshort, hshort', hscan, hscan'⟩ := Token.scan_content rest read read'
  obtain ⟨scrap, hscrap, hof⟩ := ofTokens_scrap tail.fault b opened hshort tail.items
  obtain ⟨scrap', hscrap', hof'⟩ := ofTokens_scrap tail.fault b opened hshort' tail.items
  obtain ⟨hnest, htally⟩ := follow_tally ts hbetween
  refine ⟨between, scrap, scrap', ofTokens tail.fault b opened tail.items, ⟨hkept, hnest, htally true⟩,
    ⟨hscrap, ?_⟩, hscrap', ?_⟩
  · rw [ofBytes, Token.ofBytes, Token.dropMark_append hu htokens, Token.scan_append _ hreach, hscan]
    simp only [ofTokens_append tokens hbefore, hof]
  · rw [ofBytes, Token.ofBytes, Token.dropMark_append hu htokens, Token.scan_append _ hreach,
      Token.scan_append _ hreach', hscan']
    simp only [ofTokens_append tokens hbefore, ofTokens_append ts hinside, hof']

/-- **Where the tokens of a beginning are at fault**, nothing behind it is read. -/
theorem ofBytes_of_fault (hu : Token.before beginning = some tokens) (hfault : follow Bindings.initial [] tokens = none)
    (rest rest' : Bytes) : ofBytes (beginning ++ rest) = ofBytes (beginning ++ rest') := by
  have htokens : tokens ≠ [] := by
    rintro rfl
    cases hfault
  obtain ⟨read, hreach⟩ := Token.before_eq_some hu
  rw [ofBytes, ofBytes, Token.ofBytes, Token.ofBytes, Token.dropMark_append hu htokens,
    Token.dropMark_append hu htokens, Token.scan_append _ hreach, Token.scan_append _ hreach]
  exact ofTokens_of_fault tokens hfault

end Event

end ScanDiscovery.Xml
