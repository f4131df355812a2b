/-
A scan is a single pass.

The main loop of a scan asks whether a character is left, consumes it and goes on
with what it begins (`Cursor.turn`).  Whatever the cursor, a turn comes to one of
three things (`turn_cases`): nothing was left, at least one character was read, or
the scan failed.  So a scan is over after no more turns than its source has
characters, and since it does nothing with its cursor but consume, the number of
consumptions says all about it:

* `scanFrom_eq_proceed` — a scan takes one turn after the other;
* `exists_consumeMany_of_headAfter` — where a turn begins;
* `scan_single_pass` — how often a scan consumes, who is told, and that no word
  overflows.
-/
import SourceLexer.Proofs.Navigation
import SourceLexer.Proofs.Observation
import SourceLexer.Proofs.Offset
import SourceLexer.Proofs.Runs
import SourceLexer.Proofs.Spelling
import SourceLexer.Proofs.Tally

namespace SourceLexer

/-! ### Turns -/

/-- What a turn of a scan comes to. -/
inductive Turn (σ : Type) where
  /-- Nothing was left to consume. -/
  | finished
  /-- Something was left, but consuming gave nothing. -/
  | lost (c : Cursor Char σ)
  /-- A token was read, or a blank; the next turn begins at `c`. -/
  | read (t? : Option Token) (c : Cursor Char σ)
  | failed (e : LexError) (c : Cursor Char σ)

section

variable {σ : Type} [Tracked σ]

/-- A turn of a scan: if a character is left, it is consumed and decides how to go on. -/
def Cursor.turn (c : Cursor Char σ) : Turn σ :=
  if c.hasNext then
    match c.consume with
    | (none, d) => .lost d
    | (some first, d) =>
      match lexeme first c.position d with
      | (.ok t?, d) => .read t? d
      | (.error e, d) => .failed e d
  else .finished

/-- What becomes of a scan whose next turn is known, behind the tokens and events found so far. -/
def Turn.proceed (c : Cursor Char σ) (tokens : Array Token) (events : Array Event) :
    Turn σ → Scan σ
  | finished => ⟨.ok tokens.toList, (events.push (.complete tokens.size)).toList, c⟩
  | lost d => ⟨.ok tokens.toList, (events.push (.complete tokens.size)).toList, d⟩
  | read none d => scanFrom d tokens events
  | read (some t) d => scanFrom d (tokens.push t) (events.push (.token t))
  | failed e d => ⟨.error e, (events.push (.failed e)).toList, d⟩

/-- Where the turn begins that has `k` turns before it, if the scan from `c` gets so far. -/
def headAfter : Nat → Cursor Char σ → Option (Cursor Char σ)
  | 0, c => some c
  | k + 1, c =>
    match c.turn with
    | .read _ d => headAfter k d
    | _ => none

theorem turn_of_rest_nil {c : Cursor Char σ} (hc : c.rest = []) : c.turn = .finished := by
  have hn : c.hasNext = false := by
    rw [Cursor.hasNext, Cursor.peek_one_eq_head?, hc]
    rfl
  rw [Cursor.turn, hn]
  rfl

theorem turn_of_rest_cons {c : Cursor Char σ} {first : Char} {more : List Char}
    (hc : c.rest = first :: more) :
    c.turn = match lexeme first c.position c.consume.2 with
      | (.ok t?, d) => .read t? d
      | (.error e, d) => .failed e d := by
  have hn : c.hasNext = true := by
    rw [Cursor.hasNext, Cursor.peek_one_eq_head?, hc]
    rfl
  have hconsume : c.consume = (some first, c.consume.2) :=
    Prod.ext (by rw [Cursor.consume_fst_eq_head?, hc, List.head?_cons]) rfl
  rw [Cursor.turn, if_pos hn, hconsume]

/-- A scan takes its next turn and proceeds from there. -/
theorem scanFrom_eq_proceed (c : Cursor Char σ) (tokens : Array Token) (events : Array Event) :
    scanFrom c tokens events = c.turn.proceed c tokens events := by
  cases hc : c.rest with
  | nil =>
    rw [scanFrom_nil hc, turn_of_rest_nil hc]
    rfl
  | cons first more =>
    rw [scanFrom_cons hc, turn_of_rest_cons hc]
    cases lexeme first c.position c.consume.2 with
    | mk outcome d =>
      cases outcome with
      | error e => rfl
      | ok t? =>
        cases t? with
        | none => rfl
        | some t => rfl

/-- What a turn can come to, from any cursor. -/
theorem turn_cases (c : Cursor Char σ) :
    c.rest = [] ∧ c.turn = .finished ∨
      (∃ t? m, 0 < m ∧ m ≤ c.rest.length ∧ c.turn = .read t? (c.consumeMany m)) ∨
      ∃ e m, 0 < m ∧ c.rest ≠ [] ∧ c.turn = .failed e (c.consumeMany m) := by
  obtain ⟨⟨ss, ending⟩, hr⟩ := exists_reads c.rest
  cases ss with
  | cons s ss =>
    obtain ⟨rest, hc, hs, hs', -⟩ := Reading.reads_cons_iff.mp hr
    obtain ⟨first, more, hf⟩ := s.exists_head hs
    have hc' : c.rest = first :: (more ++ rest) := by rw [← hc, hf, List.cons_append]
    refine Or.inr (Or.inl ⟨s.token? c.position, s.chars.length, ?_, ?_, ?_⟩)
    · rw [hf]
      exact Nat.succ_pos _
    · rw [← hc, List.length_append]
      exact Nat.le_add_right _ _
    · rw [turn_of_rest_cons hc', lexeme_segment hs hs' hc.symm hf]
  | nil =>
    obtain ⟨hc, he⟩ := Reading.reads_nil_iff.mp hr
    cases ending with
    | complete => exact Or.inl ⟨hc.symm, turn_of_rest_nil hc.symm⟩
    | stray a behind =>
      refine Or.inr (Or.inr ⟨.unrecognizedCharacter a c.position, 1, Nat.one_pos, ?_, ?_⟩)
      · rw [← hc]
        exact List.cons_ne_nil _ _
      · rw [turn_of_rest_cons hc.symm, lexeme, CharClass.of_eq_other he]
        rfl
    | unclosed body =>
      have hbody : c.consume.2.rest = body := by
        rw [Cursor.rest_consume, ← hc]
        rfl
      refine Or.inr (Or.inr ⟨.unterminatedString c.position, body.length + 2, Nat.succ_pos _, ?_, ?_⟩)
      · rw [← hc]
        exact List.cons_ne_nil _ _
      · rw [turn_of_rest_cons hc.symm]
        show (match stringBody c.position c.consume.2 with
          | (.ok t?, d) => Turn.read t? d
          | (.error e, d) => Turn.failed e d) = _
        rw [stringBody_unclosed he hbody]
        rfl

/-- A turn that finds a character left is given one. -/
theorem turn_ne_lost (c d : Cursor Char σ) : c.turn ≠ .lost d := by
  obtain ⟨-, h⟩ | ⟨t?, m, -, -, h⟩ | ⟨e, m, -, -, h⟩ := turn_cases c
  · rw [h]
    exact nofun
  · rw [h]
    exact nofun
  · rw [h]
    exact nofun

/-- A turn that reads something consumes a character, and none but those that are left. -/
theorem of_turn_eq_read {c d : Cursor Char σ} {t? : Option Token} (h : c.turn = .read t? d) :
    ∃ m, 0 < m ∧ m ≤ c.rest.length ∧ d = c.consumeMany m := by
  obtain ⟨-, hturn⟩ | ⟨t?', m, hpos, hm, hturn⟩ | ⟨e, m, -, -, hturn⟩ := turn_cases c
  · rw [h] at hturn
    cases hturn
  · rw [h] at hturn
    exact ⟨m, hpos, hm, (Turn.read.inj hturn).2⟩
  · rw [h] at hturn
    cases hturn

/-- A turn that fails consumes a character that is left. -/
theorem of_turn_eq_failed {c d : Cursor Char σ} {e : LexError} (h : c.turn = .failed e d) :
    ∃ m, 0 < m ∧ c.rest ≠ [] ∧ d = c.consumeMany m := by
  obtain ⟨-, hturn⟩ | ⟨t?, m, -, -, hturn⟩ | ⟨e', m, hpos, hne, hturn⟩ := turn_cases c
  · rw [h] at hturn
    cases hturn
  · rw [h] at hturn
    cases hturn
  · rw [h] at hturn
    exact ⟨m, hpos, hne, (Turn.failed.inj hturn).2⟩

/-- Where a turn begins, at least one character has been consumed for each turn before it. -/
theorem exists_consumeMany_of_headAfter {k : Nat} {c d : Cursor Char σ}
    (h : headAfter k c = some d) :
    ∃ m, k ≤ m ∧ m ≤ c.rest.length ∧ d = c.consumeMany m := by
  induction k generalizing c with
  | zero => exact ⟨0, le_rfl, Nat.zero_le _, (Option.some.inj h).symm⟩
  | succ k ih =>
    rw [headAfter] at h
    cases hturn : c.turn with
    | read t? e =>
      rw [hturn] at h
      -- the first turn consumes `m` characters, at least one, and the others what is left
      obtain ⟨m, hpos, hle, rfl⟩ := of_turn_eq_read hturn
      obtain ⟨m', hk, hle', rfl⟩ := ih h
      rw [Cursor.rest_consumeMany, List.length_drop] at hle'
      exact ⟨m + m', by omega, by omega, (Cursor.consumeMany_add m m' c).symm⟩
    | finished => rw [hturn] at h; cases h
    | lost e => rw [hturn] at h; cases h
    | failed err e => rw [hturn] at h; cases h

/-- A scan is what it is from wherever one of its turns begins. -/
theorem exists_scanFrom_eq_of_headAfter {k : Nat} {c d : Cursor Char σ}
    (h : headAfter k c = some d) (tokens : Array Token) (events : Array Event) :
    ∃ tokens' events', scanFrom c tokens events = scanFrom d tokens' events' := by
  induction k generalizing c tokens events with
  | zero => exact ⟨tokens, events, by rw [Option.some.inj h]⟩
  | succ k ih =>
    rw [headAfter] at h
    rw [scanFrom_eq_proceed]
    cases hturn : c.turn with
    | finished => rw [hturn] at h; cases h
    | lost e => rw [hturn] at h; cases h
    | failed e d => rw [hturn] at h; cases h
    | read t? e =>
      rw [hturn] at h
      cases t? with
      | none => exact ih h tokens events
      | some t => exact ih h (tokens.push t) (events.push (.token t))

end

/-! ### Consumptions -/

namespace Cursor

/-- The cursor with which the scan of a source begins. -/
def beginning (source : String) : Cursor Char Position :=
  (ofArray source.toList.toArray Position.start).track

/-- What the cursor of a scan has been through that has consumed `n` times. -/
def passHistory (n : Nat) : List (Operation Char Position) :=
  [.register hearColumn, .register hearNewline] ++ List.replicate n .consume

theorem rest_beginning (source : String) : (beginning source).rest = source.toList := rfl

theorem taken_beginning (source : String) (n : Nat) :
    ((beginning source).consumeMany n).taken = n := by
  rw [taken_consumeMany]
  exact Nat.zero_add n

theorem run_replicate_consume {α σ : Type} (n : Nat) (c : Cursor α σ) :
    c.run (List.replicate n .consume) = consumeMany n c := by
  induction n generalizing c with
  | zero => rfl
  | succ n ih => exact ih c.consume.2

theorem run_passHistory (source : String) (n : Nat) :
    (ofArray source.toList.toArray Position.start).run (passHistory n) =
      (beginning source).consumeMany n := by
  rw [passHistory, run_append, run_replicate_consume]
  rfl

theorem consumptions_replicate {α σ : Type} (n : Nat) :
    consumptions (List.replicate n (Operation.consume (α := α) (σ := σ))) = n := by
  rw [consumptions, List.countP_replicate]
  exact if_pos rfl

/-- Both observers of a scan hear what it consumes. -/
theorem heardBy_passHistory (elements : Array Char) (n : Nat) :
    ∀ h ∈ [0, 1], heardBy h (notices elements (passHistory n)) = elements.toList.take n := by
  have hconsume : ∀ h, ∀ op ∈ List.replicate n (Operation.consume : Operation Char Position),
      op.removes h = false := by
    intro h op hop
    rw [List.eq_of_mem_replicate hop]
    rfl
  have hlater : ∀ op ∈ (.register hearNewline :: List.replicate n .consume :
      List (Operation Char Position)), op.removes 0 = false :=
    List.forall_mem_cons.mpr ⟨rfl, hconsume 0⟩
  intro h hh
  simp only [List.mem_cons, List.not_mem_nil, or_false] at hh
  rcases hh with rfl | rfl
  · have hheard := (heardBy_notices_of_live elements [] hearColumn hlater).2.2
    rw [consumptions_cons, consumptions_replicate, if_neg (by decide), Nat.zero_add] at hheard
    exact hheard
  · have hheard := (heardBy_notices_of_live elements [.register hearColumn] hearNewline
      (hconsume 1)).2.2
    rw [consumptions_replicate] at hheard
    exact hheard

end Cursor

/-! ### Tokens -/

/-- Only behind a string that is not closed more is consumed than there is. -/
theorem Ending.consumed_le (e : Ending) : e.consumed ≤ e.chars.length + 1 := by
  cases e with
  | complete => exact Nat.zero_le _
  | stray c behind => exact Nat.succ_le_succ (Nat.zero_le _)
  | unclosed body => exact le_rfl

theorem length_text_le_of_mem_tokensFrom {p : Position} {rest : List Char} {ss : List Segment}
    (hss : Segmented rest ss) {t : Token} (ht : t ∈ tokensFrom p ss) :
    t.text.length ≤ (spelled ss).length := by
  obtain ⟨front, s, behind, rfl, htoken⟩ := exists_of_mem_tokensFrom ht
  obtain ⟨-, hs, -⟩ := segmented_append_iff.mp hss
  obtain ⟨hallows, rfl⟩ := Kind.allows_of_lexeme? hs (Segment.startingAt_of_token? htoken).1
  have hle := Kind.length_le_length_spelling t.text t.kind
  rw [spelled_append, spelled_cons, Kind.chars_segment hallows, List.length_append,
    List.length_append, ← String.length_toList]
  omega

theorem length_tokensFrom_le {p : Position} {rest : List Char} {ss : List Segment}
    (hss : Segmented rest ss) : (tokensFrom p ss).length ≤ (spelled ss).length := by
  induction ss generalizing p with
  | nil => exact le_rfl
  | cons s ss ih =>
    obtain ⟨hs, -, hss⟩ := hss
    -- a segment has at least one character and is at most one token
    obtain ⟨c, cs, hc⟩ := s.exists_head hs
    have hone : (s.token? p).toList.length ≤ 1 := Option.length_toList_le
    have hrest := ih hss (p := p.pastAll s.chars)
    rw [tokensFrom, spelled_cons, List.length_append, List.length_append, hc, List.length_cons]
    rw [hc] at hrest
    omega

/-! ### Whole scans -/

/-- What it is for a scan to go through its source once. -/
structure Scan.IsSinglePass (source : String) (s : Scan Position) : Prop where
  /-- The scan is what its turns lead to, seen from wherever one of them begins. -/
  turns : ∀ k d, headAfter k (.beginning source) = some d →
    ∃ tokens events, s = d.turn.proceed d tokens events
  /-- A turn that finds a character left is given one. -/
  not_lost : ∀ k d, headAfter k (.beginning source) = some d → ∀ e, d.turn ≠ .lost e
  /-- A turn that reads something consumes characters only, and at least one. -/
  read : ∀ k d, headAfter k (.beginning source) = some d → ∀ t? e, d.turn = .read t? e →
    ∃ m, 0 < m ∧ e = d.consumeMany m ∧ e.taken ≤ source.length
  /-- A turn that fails has consumed the character that it failed at. -/
  failed : ∀ k d, headAfter k (.beginning source) = some d → ∀ err e, d.turn = .failed err e →
    ∃ m, 0 < m ∧ e = d.consumeMany m ∧ d.taken < source.length
  /-- The loop ends: there are not more turns than characters. -/
  ends : ∀ k, source.length < k → headAfter k (.beginning source) = none
  /-- The scan of a source that has tokens consumes each character and nothing else. -/
  taken_ok : ∀ ts, s.result = .ok ts → s.cursor.taken = source.length
  /-- At the end of an unterminated string there is one consumption more, which gives nothing. -/
  taken_unterminated : ∀ p, s.result = .error (.unterminatedString p) →
    s.cursor.taken = source.length + 1 ∧
      ((Cursor.beginning source).consumeMany source.length).consume.1 = none
  /-- An unrecognized character is the last that is consumed. -/
  taken_unrecognized : ∀ c p, s.result = .error (.unrecognizedCharacter c p) →
    ∃ o, s.cursor.taken = o + 1 ∧ source.toList[o]? = some c ∧
      p = Position.atOffset source.toList o ∧
      ∃ ts, lex (String.ofList (source.toList.take o)) = .ok ts
  /-- The cursor has been through two registrations and so many consumptions, and nothing else. -/
  cursor : s.cursor = (Cursor.ofArray source.toList.toArray Position.start).run
    (Cursor.passHistory s.cursor.taken)
  /-- The position comes from what the observers have been told, and nothing else. -/
  state : s.cursor.state =
    told Position.start (notices source.toList.toArray (Cursor.passHistory s.cursor.taken))
  /-- Both observers have heard each character that was consumed once, in order. -/
  heard : s.cursor.observers.map Observer.handle = [0, 1] ∧
    ∀ h ∈ [0, 1], heardBy h (notices source.toList.toArray (Cursor.passHistory s.cursor.taken)) =
      source.toList.take s.cursor.taken
  /-- The index never leaves the source by more than one place. -/
  index : ∀ j ≤ s.cursor.taken, -1 ≤ ((Cursor.beginning source).consumeMany j).index ∧
    ((Cursor.beginning source).consumeMany j).index ≤ source.length
  /-- Each time that the index is incremented the sum is a word. -/
  indexWord : ∀ j < s.cursor.taken,
    Cursor.word? (((Cursor.beginning source).consumeMany j).indexWord.toInt + 1) =
      some ((Cursor.beginning source).consumeMany (j + 1)).indexWord
  /-- So it is when a handle is issued. -/
  handles : ∀ h < s.cursor.issued, h + 1 < 2 ^ 32
  /-- The end of each token can be found with checked sums and differences of words. -/
  tally : ∀ t, .token t ∈ s.events → t.text.length ≤ source.length ∧
    Tally.ends? t.text = some (t.endLine, t.endOffset)
  /-- There are not more tokens than characters, and one event for each token and the last. -/
  tokens : (∀ ts, s.result = .ok ts → ts.length ≤ source.length) ∧
    s.events.length ≤ source.length + 1

section

variable {source : String}

/-- A scan is what its turns lead to, seen from wherever one of them begins. -/
theorem scan_eq_proceed {k : Nat} {d : Cursor Char Position}
    (hd : headAfter k (.beginning source) = some d) :
    ∃ tokens events, scan source = d.turn.proceed d tokens events := by
  obtain ⟨tokens, events, hscan⟩ := exists_scanFrom_eq_of_headAfter hd #[] #[]
  exact ⟨tokens, events, hscan.trans (scanFrom_eq_proceed d tokens events)⟩

/-- Where a turn of a scan begins, at least as many characters have been consumed as there were
turns, and no others are left. -/
theorem headAfter_beginning {k : Nat} {d : Cursor Char Position}
    (hd : headAfter k (.beginning source) = some d) :
    ∃ m, k ≤ m ∧ m ≤ source.length ∧ d.taken = m ∧ d.rest.length = source.length - m := by
  obtain ⟨m, hk, hm, rfl⟩ := exists_consumeMany_of_headAfter hd
  rw [Cursor.rest_beginning, String.length_toList] at hm
  refine ⟨m, hk, hm, Cursor.taken_beginning source m, ?_⟩
  rw [Cursor.rest_consumeMany, Cursor.rest_beginning, List.length_drop, String.length_toList]

variable {r : Reading}

theorem length_spelled_add (hr : r.Reads source.toList) :
    (spelled r.segments).length + r.ending.chars.length = source.length := by
  rw [← List.length_append, hr.spelled_eq, String.length_toList]

theorem cursor_scan (hr : r.Reads source.toList) :
    (scan source).cursor = (Cursor.beginning source).consumeMany r.consumed := by
  rw [scan_of_reads hr]
  rfl

theorem taken_scan (hr : r.Reads source.toList) : (scan source).cursor.taken = r.consumed := by
  rw [cursor_scan hr, Cursor.taken_beginning]

theorem consumed_le (hr : r.Reads source.toList) : r.consumed ≤ source.length + 1 := by
  have hlength := length_spelled_add hr
  have hending := r.ending.consumed_le
  rw [Reading.consumed]
  omega

theorem taken_scan_of_ok {ts : List Token} (hts : (scan source).result = .ok ts) :
    (scan source).cursor.taken = source.length := by
  obtain ⟨ss, hr, hspelled, -⟩ := reads_of_lex_ok hts
  rw [taken_scan hr, Reading.consumed, hspelled, String.length_toList]
  rfl

theorem taken_scan_of_unterminated {p : Position}
    (hp : (scan source).result = .error (.unterminatedString p)) :
    (scan source).cursor.taken = source.length + 1 := by
  obtain ⟨r, hr⟩ := exists_reads source.toList
  have herror := (lex_eq_error_iff hr).mp hp
  have hlength := length_spelled_add hr
  rw [taken_scan hr, Reading.consumed]
  cases he : r.ending with
  | unclosed body =>
    rw [he] at hlength
    change _ + (body.length + 1) = _ at hlength
    show _ + (body.length + 2) = _
    omega
  | complete =>
    rw [he] at herror
    cases herror
  | stray c behind =>
    rw [he] at herror
    cases herror

/-- The unrecognized character is the one that was consumed last, at its position, and what is in
front of it has tokens. -/
theorem taken_scan_of_unrecognized {c : Char} {p : Position}
    (hc : (scan source).result = .error (.unrecognizedCharacter c p)) :
    ∃ o, (scan source).cursor.taken = o + 1 ∧ source.toList[o]? = some c ∧
      p = Position.atOffset source.toList o ∧
      ∃ ts, lex (String.ofList (source.toList.take o)) = .ok ts := by
  obtain ⟨⟨ss, ending⟩, hr⟩ := exists_reads source.toList
  have herror := (lex_eq_error_iff hr).mp hc
  obtain ⟨hfront, hspelled, -⟩ := Reading.reads_iff_complete.mp hr
  cases ending with
  | complete => cases herror
  | unclosed body => cases herror
  | stray c' behind =>
    obtain ⟨rfl, rfl⟩ : c' = c ∧ Reading.stop Position.start ⟨ss, .stray c' behind⟩ = p :=
      LexError.unrecognizedCharacter.inj (Option.some.inj herror)
    refine ⟨(spelled ss).length, taken_scan hr, ?_, stop_eq_atOffset hr, tokensFrom .start ss, ?_⟩
    · rw [← hspelled, List.getElem?_append_right le_rfl, Nat.sub_self]
      rfl
    · rw [← hspelled, List.take_left]
      have hread : Reading.Reads ⟨ss, .complete⟩ (String.ofList (spelled ss)).toList := by
        rw [String.toList_ofList]
        exact hfront
      exact (lex_eq_ok_iff hread).mpr ⟨rfl, rfl⟩

theorem index_beginning (n : Nat) :
    ((Cursor.beginning source).consumeMany n).index = (n : Int) - 1 := by
  rw [Cursor.index_consumeMany]
  show ((0 : Nat) : Int) - 1 + n = n - 1
  omega

/-- As long as the index stays in front of the largest word, adding one to it gives the next. -/
theorem indexWord_beginning {n : Nat} (hn : n < 2 ^ 63) :
    Cursor.word? (((Cursor.beginning source).consumeMany n).indexWord.toInt + 1) =
      some ((Cursor.beginning source).consumeMany (n + 1)).indexWord := by
  have htaken : ((Cursor.beginning source).consumeMany n).taken ≤ 2 ^ 63 := by
    rw [Cursor.taken_beginning]
    omega
  rw [Cursor.toInt_indexWord htaken, index_beginning, Cursor.indexWord, index_beginning,
    Cursor.word?, Int64.toInt_minValue, Int64.toInt_maxValue, if_pos (by omega)]
  congr 2
  omega

/-- The tokens that a scan finds are segments of its source, whether or not it fails later. -/
theorem mem_events_iff (hr : r.Reads source.toList) {t : Token} :
    .token t ∈ (scan source).events ↔ t ∈ tokensFrom Position.start r.segments := by
  rw [scan_of_reads hr]
  show Event.token t ∈ r.events Position.start ↔ _
  rw [Reading.events, List.mem_append, List.mem_map]
  constructor
  · rintro (⟨t', ht', heq⟩ | hlast)
    · rw [← Event.token.inj heq]
      exact ht'
    · rw [List.mem_singleton] at hlast
      split at hlast
      · cases hlast
      · cases hlast
  · exact fun ht => Or.inl ⟨t, ht, rfl⟩

/-- A token that a scan finds is no longer than the source, so that its end can be computed with
checked sums and differences of words. -/
theorem ends?_of_mem_events (hlength : source.length < 2 ^ 64) {t : Token}
    (ht : .token t ∈ (scan source).events) :
    t.text.length ≤ source.length ∧ Tally.ends? t.text = some (t.endLine, t.endOffset) := by
  obtain ⟨r, hr⟩ := exists_reads source.toList
  rw [mem_events_iff hr] at ht
  have hle : t.text.length ≤ source.length := by
    have htext := length_text_le_of_mem_tokensFrom hr.segmented ht
    have hspelled := length_spelled_add hr
    omega
  obtain ⟨front, s, behind, -, htoken⟩ := exists_of_mem_tokensFrom ht
  have hends := Tally.ends?_eq (hle.trans_lt hlength) t.kind
    (Position.start.pastAll (spelled front))
  rw [(Segment.startingAt_of_token? htoken).2] at hends
  exact ⟨hle, hends⟩

theorem length_events_le (source : String) : (scan source).events.length ≤ source.length + 1 := by
  obtain ⟨r, hr⟩ := exists_reads source.toList
  have htokens := length_tokensFrom_le (p := Position.start) hr.segmented
  have hspelled := length_spelled_add hr
  rw [scan_of_reads hr]
  show (r.events Position.start).length ≤ _
  rw [Reading.events, List.length_append, List.length_map, List.length_singleton]
  omega

theorem length_tokens_le {ts : List Token} (hts : (scan source).result = .ok ts) :
    ts.length ≤ source.length := by
  obtain ⟨ss, hr, hspelled, rfl⟩ := reads_of_lex_ok hts
  have htokens := length_tokensFrom_le (p := Position.start) hr.segmented
  rw [hspelled, String.length_toList] at htokens
  exact htokens

end

/-- **A scan goes through its source once**: every turn consumes at least one character, so the
loop ends; how often is consumed in all depends on the outcome alone; the observers hear each
character once; and neither an index nor a handle nor a counter ever exceeds its word. -/
theorem scan_single_pass (source : String) (h : source.length < 2 ^ 63) :
    (scan source).IsSinglePass source := by
  obtain ⟨r, hr⟩ := exists_reads source.toList
  have htaken : (scan source).cursor.taken ≤ source.length + 1 := by
    rw [taken_scan hr]
    exact consumed_le hr
  have hcursor : (scan source).cursor = (Cursor.ofArray source.toList.toArray Position.start).run
      (Cursor.passHistory (scan source).cursor.taken) := by
    rw [taken_scan hr, cursor_scan hr, Cursor.run_passHistory]
  have hheld : (scan source).cursor.observers = (Cursor.beginning source).observers ∧
      (scan source).cursor.issued = 2 := by
    rw [cursor_scan hr, Cursor.consumeMany_eq]
    exact ⟨rfl, rfl⟩
  exact
    { turns := fun k d hd => scan_eq_proceed hd
      not_lost := fun k d _ => turn_ne_lost d
      read := by
        intro k d hd t? e hturn
        obtain ⟨n, -, hn, hdtaken, hdrest⟩ := headAfter_beginning hd
        obtain ⟨m, hpos, hm, rfl⟩ := of_turn_eq_read hturn
        refine ⟨m, hpos, rfl, ?_⟩
        rw [Cursor.taken_consumeMany]
        omega
      failed := by
        intro k d hd err e hturn
        obtain ⟨n, -, hn, hdtaken, hdrest⟩ := headAfter_beginning hd
        obtain ⟨m, hpos, hne, rfl⟩ := of_turn_eq_failed hturn
        have hleft : 0 < d.rest.length := List.length_pos_iff.mpr hne
        exact ⟨m, hpos, rfl, by omega⟩
      ends := by
        intro k hk
        rw [Option.eq_none_iff_forall_ne_some]
        intro d hd
        obtain ⟨n, hkn, hn, -⟩ := headAfter_beginning hd
        omega
      taken_ok := fun ts hts => taken_scan_of_ok hts
      taken_unterminated := by
        intro p hp
        refine ⟨taken_scan_of_unterminated hp, ?_⟩
        rw [Cursor.consume_fst_eq_head?, Cursor.rest_consumeMany, Cursor.rest_beginning,
          ← String.length_toList, List.drop_length, List.head?_nil]
      taken_unrecognized := fun c p hc => taken_scan_of_unrecognized hc
      cursor := hcursor
      state := (congrArg Cursor.state hcursor).trans (by rw [Cursor.run_eq_after]; rfl)
      heard := by
        refine ⟨by rw [hheld.1]; rfl, fun o ho => ?_⟩
        rw [Cursor.heardBy_passHistory _ _ o ho]
      index := by
        intro j hj
        rw [index_beginning]
        omega
      indexWord := fun j hj => indexWord_beginning (by omega)
      handles := by
        intro o ho
        rw [hheld.2] at ho
        omega
      tally := fun t ht => ends?_of_mem_events (h.trans (by decide)) ht
      tokens := ⟨fun ts hts => length_tokens_le hts, length_events_le source⟩ }

/-- A string that is not closed: its end is looked for behind the seven characters. -/
theorem scan_single_pass_unterminated :
    "let \"ab".length < 2 ^ 63 ∧
      (scan "let \"ab").result = .error (.unterminatedString ⟨0, 3⟩) ∧
      (scan "let \"ab").IsSinglePass "let \"ab" ∧ (scan "let \"ab").cursor.taken = 8 := by
  have hlength : "let \"ab".length < 2 ^ 63 := by decide
  have hresult : (scan "let \"ab").result = .error (.unterminatedString ⟨0, 3⟩) := by
    decide +kernel
  have hpass := scan_single_pass "let \"ab" hlength
  exact ⟨hlength, hresult, hpass, (hpass.taken_unterminated _ hresult).1⟩

end SourceLexer
