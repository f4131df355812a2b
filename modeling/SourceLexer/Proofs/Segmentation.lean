/-
A scan follows the reading of its source.

One turn of the scan consumes exactly one segment and finds the token that the
segment is (`lexeme_segment`, `scanFrom_segment`).  By induction a scan goes
through the segments of its source one after the other (`scanFrom_segments`)
and stops where the reading stops, so the whole of a scan is known from the
reading of its source (`scan_of_reads`).
-/
import SourceLexer.Proofs.Reading
import SourceLexer.Proofs.Remaining

namespace SourceLexer

/-! ### What a reading stands for -/

/-- The token that a segment at `p` is, unless it is blank. -/
def Segment.token? (p : Position) (s : Segment) : Option Token :=
  s.lexeme?.map fun l => .startingAt l.1 l.2 p

/-- The tokens of segments, the first of which is at `p`. -/
def tokensFrom (p : Position) : List Segment → List Token
  | [] => []
  | s :: ss => (s.token? p).toList ++ tokensFrom (p.pastAll s.chars) ss

theorem tokensFrom_append (p : Position) (ss ts : List Segment) :
    tokensFrom p (ss ++ ts) = tokensFrom p ss ++ tokensFrom (p.pastAll (spelled ss)) ts := by
  induction ss generalizing p with
  | nil => rfl
  | cons s ss ih =>
    rw [List.cons_append, tokensFrom, tokensFrom, ih, List.append_assoc, spelled_cons,
      Position.pastAll_append]

/-- A token is a segment, behind those in front of it. -/
theorem exists_of_mem_tokensFrom {p : Position} {ss : List Segment} {t : Token}
    (ht : t ∈ tokensFrom p ss) :
    ∃ front s behind, ss = front ++ s :: behind ∧
      s.token? (p.pastAll (spelled front)) = some t := by
  induction ss generalizing p with
  | nil => cases ht
  | cons s ss ih =>
    rw [tokensFrom] at ht
    rcases List.mem_append.mp ht with ht | ht
    · exact ⟨[], s, ss, rfl, Option.mem_toList.mp ht⟩
    · obtain ⟨front, s', behind, rfl, htoken⟩ := ih ht
      rw [← Position.pastAll_append, ← spelled_cons] at htoken
      exact ⟨s :: front, s', behind, rfl, htoken⟩

theorem Segment.startingAt_of_token? {p : Position} {s : Segment} {t : Token}
    (h : s.token? p = some t) :
    s.lexeme? = some (t.kind, t.text) ∧ .startingAt t.kind t.text p = t := by
  rw [token?, Option.map_eq_some_iff] at h
  obtain ⟨l, hl, rfl⟩ := h
  exact ⟨hl, rfl⟩

namespace Ending

/-- The error that an ending at `p` is, unless the source is complete. -/
def error? (p : Position) : Ending → Option LexError
  | complete => none
  | stray c _ => some (.unrecognizedCharacter c p)
  | unclosed _ => some (.unterminatedString p)

theorem position_of_error? {ending : Ending} {p : Position} {e : LexError}
    (h : ending.error? p = some e) : e.position = p := by
  cases ending with
  | complete => cases h
  | stray c behind =>
    obtain rfl := Option.some.inj h
    rfl
  | unclosed body =>
    obtain rfl := Option.some.inj h
    rfl

/-- How often a scan consumes at an ending: a string that does not end is read to the end of the
source and one more time. -/
def consumed : Ending → Nat
  | complete => 0
  | stray _ _ => 1
  | unclosed body => body.length + 2

end Ending

namespace Reading

/-- Where the segments of a reading that begins at `p` end. -/
def stop (p : Position) (r : Reading) : Position := p.pastAll (spelled r.segments)

/-- The tokens of a reading that begins at `p`, or the error it ends with. -/
def result (p : Position) (r : Reading) : Except LexError (List Token) :=
  match r.ending.error? (r.stop p) with
  | none => .ok (tokensFrom p r.segments)
  | some e => .error e

/-- What there is to write down about a reading that begins at `p`. -/
def events (p : Position) (r : Reading) : List Event :=
  (tokensFrom p r.segments).map .token ++
    [match r.ending.error? (r.stop p) with
      | none => .complete (tokensFrom p r.segments).length
      | some e => .failed e]

/-- How often a scan consumes. -/
def consumed (r : Reading) : Nat := (spelled r.segments).length + r.ending.consumed

end Reading

/-! ### One token -/

section

variable {σ : Type}

theorem stringBody_closed {body rest : List Char} (hb : '"' ∉ body) {c : Cursor Char σ}
    (hc : c.rest = body ++ '"' :: rest) (p : Position) :
    stringBody p c = (.ok (some (.startingAt .string (String.ofList body) p)),
      c.consumeMany (body.length + 1)) := by
  have hd : ((c.consumeMany body.length).consume).1 = some '"' := by
    rw [Cursor.consume_fst_eq_head?, Cursor.rest_consumeMany, hc, List.drop_left, List.head?_cons]
  rw [stringBody, eatWhile_eq, hc, takeWhile_ne_quote rest hb, Cursor.consumeMany_add]
  generalize c.consumeMany body.length = d at hd
  simp only
  split
  · next d' h =>
    rw [Cursor.consumeMany, Cursor.consumeMany, h, String.empty_append]
  · next d' h =>
    rw [h] at hd
    cases hd

theorem stringBody_unclosed {body : List Char} (hb : '"' ∉ body) {c : Cursor Char σ}
    (hc : c.rest = body) (p : Position) :
    stringBody p c = (.error (.unterminatedString p), c.consumeMany (body.length + 1)) := by
  have ht : body.takeWhile (· ≠ '"') = body := by
    refine List.takeWhile_eq_self_iff.mpr fun a ha => ?_
    simpa using ne_of_mem_of_not_mem ha hb
  have hd : ((c.consumeMany body.length).consume).1 = none := by
    rw [Cursor.consume_fst_eq_head?, Cursor.rest_consumeMany, hc, List.drop_length,
      List.head?_nil]
  rw [stringBody, eatWhile_eq, hc, ht, Cursor.consumeMany_add]
  generalize c.consumeMany body.length = d at hd
  simp only
  split
  · next d' h =>
    rw [h] at hd
    cases hd
  · next d' h =>
    rw [Cursor.consumeMany, Cursor.consumeMany, h]

/-- A run of one class whose first character has been consumed. -/
theorem eatWhile_run {q : Char → Bool} {first : Char} {more rest : List Char}
    (hr : ∀ a ∈ first :: more, q a = true) (he : ∀ a, rest.head? = some a → q a = false)
    {c : Cursor Char σ} (hc : c.rest = first :: more ++ rest) :
    eatWhile q (String.singleton first) c.consume.2 =
      (String.ofList (first :: more), c.consumeMany (first :: more).length) := by
  have ht : c.consume.2.rest.takeWhile q = more := by
    rw [Cursor.rest_consume, hc, List.cons_append, List.tail_cons]
    exact eq_takeWhile_of_append (fun a ha => hr a (List.mem_cons_of_mem _ ha)) he
  rw [eatWhile_eq, ht]
  refine Prod.ext ?_ rfl
  rw [← String.toList_inj]
  simp

/-- A turn at a segment finds its token and consumes it and nothing more. -/
theorem lexeme_segment {s : Segment} (hs : s.Wellformed) {rest : List Char}
    (hs' : s.EndsBefore rest) {c : Cursor Char σ} (hc : c.rest = s.chars ++ rest)
    {first : Char} {more : List Char} (hf : s.chars = first :: more) (p : Position) :
    lexeme first p c.consume.2 = (.ok (s.token? p), c.consumeMany s.chars.length) := by
  have hn : c.consume.2.rest = more ++ rest := by
    rw [Cursor.rest_consume, hc, hf, List.cons_append, List.tail_cons]
  rw [lexeme, s.of_head hs hf]
  cases s with
  | blank a => rfl
  | operator a kind =>
    obtain rfl : a = first := (List.cons.inj hf).1
    rfl
  | doubleEquals =>
    obtain rfl : ['='] = more := (List.cons.inj hf).2
    have hp : c.consume.2.peek 1 = some '=' := by
      rw [Cursor.peek_one_eq_head?, hn, List.cons_append, List.head?_cons]
    exact if_pos hp
  | equals =>
    obtain rfl : [] = more := (List.cons.inj hf).2
    have hp : c.consume.2.peek 1 ≠ some '=' := by
      rw [Cursor.peek_one_eq_head?, hn, List.nil_append]
      exact hs'
    exact if_neg hp
  | quoted body =>
    obtain rfl : body ++ ['"'] = more := (List.cons.inj hf).2
    have hq : c.consume.2.rest = body ++ '"' :: rest := by
      rw [hn, List.append_assoc, List.cons_append, List.nil_append]
    show stringBody p c.consume.2 = _
    rw [stringBody_closed hs hq]
    refine Prod.ext rfl ?_
    show _ = c.consumeMany ('"' :: body ++ ['"']).length
    rw [List.cons_append, List.length_cons, List.length_append]
    rfl
  | letters run =>
    obtain rfl : run = first :: more := hf
    simp only [Segment.charClass, eatWhile_run hs.2 hs' hc]
    rfl
  | digits run =>
    obtain rfl : run = first :: more := hf
    simp only [Segment.charClass, eatWhile_run hs.2 hs' hc]
    rfl

end

/-! ### One turn of the scan -/

section

variable {σ : Type} [Tracked σ]

theorem scanFrom_nil {c : Cursor Char σ} (hc : c.rest = []) (tokens : Array Token)
    (events : Array Event) :
    scanFrom c tokens events =
      ⟨.ok tokens.toList, (events.push (.complete tokens.size)).toList, c⟩ := by
  have hp : c.peek 1 = none := by rw [Cursor.peek_one_eq_head?, hc, List.head?_nil]
  rw [scanFrom]
  split
  · rfl
  · next first h =>
    rw [hp] at h
    cases h

/-- What a turn does, from what its first character gives. -/
theorem scanFrom_cons {c : Cursor Char σ} {first : Char} {more : List Char}
    (hc : c.rest = first :: more) (tokens : Array Token) (events : Array Event) :
    scanFrom c tokens events =
      match lexeme first c.position c.consume.2 with
      | (.ok none, d) => scanFrom d tokens events
      | (.ok (some t), d) => scanFrom d (tokens.push t) (events.push (.token t))
      | (.error e, d) => ⟨.error e, (events.push (.failed e)).toList, d⟩ := by
  have hp : c.peek 1 = some first := by rw [Cursor.peek_one_eq_head?, hc, List.head?_cons]
  rw [scanFrom]
  split
  · next h =>
    rw [hp] at h
    cases h
  · next first' h =>
    obtain rfl : first = first' := Option.some.inj (hp.symm.trans h)
    rw [Cursor.position]
    split <;> next h => rw [h]

/-- A turn at a segment writes down its token and goes on behind it. -/
theorem scanFrom_segment {s : Segment} (hs : s.Wellformed) {rest : List Char}
    (hs' : s.EndsBefore rest) {c : Cursor Char σ} (hc : c.rest = s.chars ++ rest)
    (tokens : Array Token) (events : Array Event) :
    scanFrom c tokens events =
      scanFrom (c.consumeMany s.chars.length) (tokens ++ (s.token? c.position).toList)
        (events ++ (s.token? c.position).toList.map Event.token) := by
  obtain ⟨first, more, hf⟩ := s.exists_head hs
  have hc' : c.rest = first :: (more ++ rest) := by rw [hc, hf, List.cons_append]
  rw [scanFrom_cons hc', lexeme_segment hs hs' hc hf]
  cases s.token? c.position with
  | none => simp
  | some t => simp

theorem append_appendList {α : Type} (xs : Array α) (as bs : List α) :
    xs ++ (as ++ bs) = xs ++ as ++ bs := by
  apply Array.ext'
  simp

/-- A scan goes through the segments of its source one after the other. -/
theorem scanFrom_segments {rest : List Char} {ss : List Segment} (hss : Segmented rest ss)
    {c : Cursor Char σ} (ht : c.IsTracked) (hc : c.rest = spelled ss ++ rest)
    (tokens : Array Token) (events : Array Event) :
    scanFrom c tokens events =
      scanFrom (c.consumeMany (spelled ss).length) (tokens ++ tokensFrom c.position ss)
        (events ++ (tokensFrom c.position ss).map Event.token) := by
  induction ss generalizing c tokens events with
  | nil => simp [tokensFrom, Cursor.consumeMany]
  | cons s ss ih =>
    obtain ⟨hs, hs', hss⟩ := hss
    rw [spelled_cons, List.append_assoc] at hc
    -- the turn at `s` leaves a tracked cursor in front of the other segments
    have hp : (c.consumeMany s.chars.length).position = c.position.pastAll s.chars := by
      rw [ht.position_consumeMany, hc, List.take_left]
    have hr : (c.consumeMany s.chars.length).rest = spelled ss ++ rest := by
      rw [Cursor.rest_consumeMany, hc, List.drop_left]
    rw [scanFrom_segment hs hs' hc, ih hss (ht.consumeMany _) hr, hp, tokensFrom, spelled_cons,
      List.length_append, Cursor.consumeMany_add, List.map_append, append_appendList,
      append_appendList]

theorem scanFrom_stray {a : Char} {behind : List Char} (ha : ¬ BeginsSegment a)
    {c : Cursor Char σ} (hc : c.rest = a :: behind) (tokens : Array Token)
    (events : Array Event) :
    scanFrom c tokens events = ⟨.error (.unrecognizedCharacter a c.position),
      (events.push (.failed (.unrecognizedCharacter a c.position))).toList, c.consumeMany 1⟩ := by
  rw [scanFrom_cons hc, lexeme, CharClass.of_eq_other ha]
  rfl

theorem scanFrom_unclosed {body : List Char} (hb : '"' ∉ body) {c : Cursor Char σ}
    (hc : c.rest = '"' :: body) (tokens : Array Token) (events : Array Event) :
    scanFrom c tokens events = ⟨.error (.unterminatedString c.position),
      (events.push (.failed (.unterminatedString c.position))).toList,
      c.consumeMany (body.length + 2)⟩ := by
  have hr : c.consume.2.rest = body := by rw [Cursor.rest_consume, hc, List.tail_cons]
  have hl : lexeme '"' c.position c.consume.2 =
      (.error (.unterminatedString c.position), c.consumeMany (body.length + 2)) :=
    stringBody_unclosed hb hr c.position
  rw [scanFrom_cons hc, hl]

/-! ### Whole scans -/

/-- A scan from any tracked cursor, in terms of the reading of what remains. -/
theorem scanFrom_reads {c : Cursor Char σ} (ht : c.IsTracked) {r : Reading}
    (hr : r.Reads c.rest) :
    scanFrom c #[] #[] =
      ⟨r.result c.position, r.events c.position, c.consumeMany r.consumed⟩ := by
  obtain ⟨ss, e⟩ := r
  obtain ⟨hc, hss, he⟩ := hr
  have hd : (c.consumeMany (spelled ss).length).rest = e.chars := by
    rw [Cursor.rest_consumeMany, ← hc, List.drop_left]
  have hp : (c.consumeMany (spelled ss).length).position = c.position.pastAll (spelled ss) := by
    rw [ht.position_consumeMany, ← hc, List.take_left]
  -- once the segments are consumed only the ending is left
  rw [scanFrom_segments hss ht hc.symm, Reading.consumed, Cursor.consumeMany_add]
  unfold Reading.result Reading.events Reading.stop
  rw [← hp]
  cases e with
  | complete =>
    rw [scanFrom_nil hd]
    simp [Ending.error?, Ending.consumed, Cursor.consumeMany]
  | stray a behind =>
    rw [scanFrom_stray he hd]
    simp [Ending.error?, Ending.consumed]
  | unclosed body =>
    rw [scanFrom_unclosed he hd]
    simp [Ending.error?, Ending.consumed]

end

/-- A scan of a source, in terms of its reading. -/
theorem scan_of_reads {source : String} {r : Reading} (hr : r.Reads source.toList) :
    scan source = ⟨r.result Position.start, r.events Position.start,
      (Cursor.ofArray source.toList.toArray Position.start).track.consumeMany r.consumed⟩ :=
  scanFrom_reads (Cursor.isTracked_track _ _) hr

theorem lex_of_reads {source : String} {r : Reading} (hr : r.Reads source.toList) :
    lex source = r.result Position.start := by
  rw [lex, scan_of_reads hr]

theorem lex_eq_ok_iff {source : String} {r : Reading} (hr : r.Reads source.toList)
    {ts : List Token} :
    lex source = .ok ts ↔ r.ending = .complete ∧ tokensFrom Position.start r.segments = ts := by
  rw [lex_of_reads hr, Reading.result]
  constructor
  · intro h
    cases he : r.ending with
    | complete =>
      rw [he] at h
      exact ⟨rfl, Except.ok.inj h⟩
    | stray c behind =>
      rw [he] at h
      cases h
    | unclosed body =>
      rw [he] at h
      cases h
  · rintro ⟨he, rfl⟩
    rw [he]
    rfl

theorem lex_eq_error_iff {source : String} {r : Reading} (hr : r.Reads source.toList)
    {e : LexError} :
    lex source = .error e ↔ r.ending.error? (r.stop Position.start) = some e := by
  rw [lex_of_reads hr, Reading.result]
  cases r.ending.error? (r.stop Position.start) with
  | none =>
    constructor
    · intro h
      cases h
    · intro h
      cases h
  | some e' => rw [Except.error.injEq, Option.some_inj]

/-- A source that has tokens is segmented to its end. -/
theorem reads_of_lex_ok {source : String} {ts : List Token} (h : lex source = .ok ts) :
    ∃ ss, Reading.Reads ⟨ss, .complete⟩ source.toList ∧ spelled ss = source.toList ∧
      tokensFrom Position.start ss = ts := by
  obtain ⟨⟨ss, e⟩, hr⟩ := exists_reads source.toList
  obtain ⟨rfl, hts⟩ := (lex_eq_ok_iff hr).mp h
  refine ⟨ss, hr, ?_, hts⟩
  rw [← hr.spelled_eq]
  exact (List.append_nil _).symm

/-! ### Maximal munch -/

theorem Kind.ofWord_eq_iff (word : String) :
    (Kind.ofWord word = .kwLet ↔ word = "let") ∧ (Kind.ofWord word = .kwConst ↔ word = "const") ∧
      (Kind.ofWord word = .kwVar ↔ word = "var") ∧
      (Kind.ofWord word = .identifier ↔ word ∉ ["let", "const", "var"]) := by
  unfold Kind.ofWord Kind.keyword?
  by_cases h₁ : word = "let"
  · subst h₁
    decide
  by_cases h₂ : word = "const"
  · subst h₂
    decide
  by_cases h₃ : word = "var"
  · subst h₃
    decide
  simp [h₁, h₂, h₃]

/-- Positions aside, the tokens of segments are those segments that are not blank. -/
theorem map_tokensFrom (p : Position) (ss : List Segment) :
    (tokensFrom p ss).map (fun t => (t.kind, t.text)) = ss.filterMap Segment.lexeme? := by
  induction ss generalizing p with
  | nil => rfl
  | cons s ss ih =>
    rw [tokensFrom, List.map_append, ih, Segment.token?]
    cases h : s.lexeme? with
    | none => rw [List.filterMap_cons_none h]; rfl
    | some l => rw [List.filterMap_cons_some h]; rfl

/-- **Lexing accepts exactly the lexical grammar.**  A source has one reading and no other; if
the segments go on to its end, they are the tokens, and else the ending is the error. -/
theorem lex_maximal_munch (source : String) :
    (∃ r : Reading, r.Reads source.toList ∧ (∀ r' : Reading, r'.Reads source.toList → r' = r) ∧
      match r.ending with
      | .complete => ∃ tokens, lex source = .ok tokens ∧
          tokens.map (fun t => (t.kind, t.text)) = r.segments.filterMap Segment.lexeme?
      | .stray c _ => ∃ p, lex source = .error (.unrecognizedCharacter c p)
      | .unclosed _ => ∃ p, lex source = .error (.unterminatedString p)) ∧
    ∀ word : String,
      (Kind.ofWord word = .kwLet ↔ word = "let") ∧
      (Kind.ofWord word = .kwConst ↔ word = "const") ∧
      (Kind.ofWord word = .kwVar ↔ word = "var") ∧
      (Kind.ofWord word = .identifier ↔ word ∉ ["let", "const", "var"]) := by
  obtain ⟨r, hr, hunique⟩ := existsUnique_reads source.toList
  refine ⟨⟨r, hr, hunique, ?_⟩, Kind.ofWord_eq_iff⟩
  cases he : r.ending with
  | complete => exact ⟨_, (lex_eq_ok_iff hr).mpr ⟨he, rfl⟩, map_tokensFrom _ _⟩
  | stray c behind => exact ⟨_, (lex_eq_error_iff hr).mpr (by rw [he]; rfl)⟩
  | unclosed body => exact ⟨_, (lex_eq_error_iff hr).mpr (by rw [he]; rfl)⟩

end SourceLexer
