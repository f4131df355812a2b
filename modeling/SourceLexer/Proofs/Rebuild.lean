/-
A source with the same layout, from its tokens.

Writing each token down in its place, with gaps in between, gives a source
again (`rebuild`), unless tokens lie on top of each other or touch and would be
read as one (`LaidOut`).

* `lex_rebuild_of_laidOut` — the rebuilt source has exactly those tokens;
* `laidOut_of_lex` — the tokens of a source are laid out so;
* `rebuild_lex` — both together: which lists of tokens lexing gives.
-/
import SourceLexer.Proofs.Layout
import SourceLexer.Proofs.Offset

namespace SourceLexer

/-- Tokens written down in their places, from the place `q` on. -/
def rebuildFrom (q : Place) : List Token → List Char
  | [] => []
  | t :: ts => gap q t.start.place ++ t.spelling ++ rebuildFrom t.behind ts

/-- A source with the given tokens in their places. -/
def rebuild (ts : List Token) : String := String.ofList (rebuildFrom Place.start ts)

/-- Whether tokens can be written down in their places, from the place `q` on, and read again. -/
def LaidOutFrom (q : Place) : List Token → Prop
  | [] => True
  | t :: ts => t.Legal ∧ q.Reaches t.start.place ∧
      (∀ u, ts.head? = some u → u.start.place = t.behind → ¬ t.kind.Merges u.kind) ∧
      LaidOutFrom t.behind ts

/-- Whether tokens can be written down in their places and read again. -/
def LaidOut (ts : List Token) : Prop := LaidOutFrom Place.start ts

/-! ### Blanks -/

/-- Segments for characters that are blank. -/
def blanks (cs : List Char) : List Segment := cs.map .blank

theorem spelled_blanks (cs : List Char) : spelled (blanks cs) = cs := by
  induction cs with
  | nil => rfl
  | cons c cs ih =>
    rw [blanks, List.map_cons, spelled_cons]
    exact congrArg (c :: ·) ih

theorem segmented_blanks (rest : List Char) {cs : List Char} (h : ∀ c ∈ cs, Blank c) :
    Segmented rest (blanks cs) := by
  induction cs with
  | nil => trivial
  | cons c cs ih =>
    exact ⟨h c List.mem_cons_self, trivial, ih fun d hd => h d (List.mem_cons_of_mem _ hd)⟩

theorem tokensFrom_blanks (p : Position) (cs : List Char) : tokensFrom p (blanks cs) = [] := by
  induction cs generalizing p with
  | nil => rfl
  | cons c cs ih => exact ih (p.pastAll [c])

/-- Every segment ends in front of a blank. -/
theorem Segment.endsBefore_of_blank (s : Segment) {c : Char} (h : Blank c) (cs : List Char) :
    s.EndsBefore (c :: cs) := by
  rw [endsBefore_cons_iff, (blank c).of_head h rfl]
  cases s with
  | equals => exact CharClass.noConfusion
  | letters run => exact CharClass.noConfusion
  | digits run => exact CharClass.noConfusion
  | _ => exact id

/-! ### The segments of a rebuilt source -/

/-- The segments of tokens that are written down from the place `q` on. -/
def segmentsFrom (q : Place) : List Token → List Segment
  | [] => []
  | t :: ts => blanks (gap q t.start.place) ++ t.kind.segment t.text :: segmentsFrom t.behind ts

theorem spelled_segmentsFrom {q : Place} {ts : List Token} (h : LaidOutFrom q ts) :
    spelled (segmentsFrom q ts) = rebuildFrom q ts := by
  induction ts generalizing q with
  | nil => rfl
  | cons t ts ih =>
    obtain ⟨ht, -, -, hts⟩ := h
    rw [segmentsFrom, rebuildFrom, spelled_append, spelled_cons, spelled_blanks,
      Kind.chars_segment ht.text, ih hts, List.append_assoc]
    rfl

/-- A token ends in front of the next, be it behind a gap or not. -/
theorem endsBefore_segmentsFrom {t : Token} {ts : List Token} (hts : LaidOutFrom t.behind ts)
    (hm : ∀ u, ts.head? = some u → u.start.place = t.behind → ¬ t.kind.Merges u.kind) :
    (t.kind.segment t.text).EndsBefore (spelled (segmentsFrom t.behind ts)) := by
  cases ts with
  | nil => exact Segment.endsBefore_nil _
  | cons u us =>
    obtain ⟨hu, hr, -, -⟩ := hts
    rw [segmentsFrom, spelled_append, spelled_blanks, spelled_cons]
    cases hg : gap t.behind u.start.place with
    | nil =>
      -- no gap: the tokens touch, so they must not merge
      have hp := Place.after_gap hr
      rw [hg] at hp
      exact (Kind.endsBefore_segment_iff _ hu.text _ _).mpr (hm u rfl hp.symm)
    | cons c cs =>
      have hc : Blank c := blank_of_mem_gap (hg ▸ List.mem_cons_self)
      exact Segment.endsBefore_of_blank _ hc _

theorem segmented_segmentsFrom {q : Place} {ts : List Token} (h : LaidOutFrom q ts) :
    Segmented [] (segmentsFrom q ts) := by
  induction ts generalizing q with
  | nil => trivial
  | cons t ts ih =>
    obtain ⟨ht, -, hm, hts⟩ := h
    rw [segmentsFrom, segmented_append_iff]
    refine ⟨segmented_blanks _ fun c hc => blank_of_mem_gap hc,
      Kind.wellformed_segment ht.text, ?_, ih hts⟩
    rw [List.append_nil]
    exact endsBefore_segmentsFrom hts hm

/-- The segments of a rebuilt source are the tokens from which it is built. -/
theorem tokensFrom_segmentsFrom {q : Place} {ts : List Token} (h : LaidOutFrom q ts)
    (hq : -2 ^ 31 ≤ q.column) : tokensFrom q.position (segmentsFrom q ts) = ts := by
  induction ts generalizing q with
  | nil => rfl
  | cons t ts ih =>
    obtain ⟨ht, hr, -, hts⟩ := h
    have hstart : q.position.pastAll (gap q t.start.place) = t.start := by
      rw [← Place.position_after hq, Place.after_gap hr, Place.position_place]
    have htoken : (t.kind.segment t.text).token? t.start = some t := by
      rw [Segment.token?, Kind.lexeme?_segment ht.text]
      exact congrArg some (t.legal_iff.mp ht).2
    have hbehind : t.start.pastAll (t.kind.segment t.text).chars = t.behind.position := by
      rw [Kind.chars_segment ht.text]
      exact ht.pastAll_spelling
    rw [segmentsFrom, tokensFrom_append, tokensFrom_blanks, spelled_blanks, hstart, tokensFrom,
      htoken, hbehind, ih hts t.neg_le_column_behind]
    rfl

/-- Tokens that are laid out are read from the source that is rebuilt from them. -/
theorem lex_rebuild_of_laidOut {ts : List Token} (h : LaidOut ts) : lex (rebuild ts) = .ok ts := by
  have hr : Reading.Reads ⟨segmentsFrom Place.start ts, .complete⟩ (rebuild ts).toList := by
    refine ⟨?_, segmented_segmentsFrom h, trivial⟩
    rw [rebuild, String.toList_ofList, spelled_segmentsFrom h]
    exact List.append_nil _
  rw [lex_of_reads hr]
  exact congrArg Except.ok (tokensFrom_segmentsFrom h (by decide))

/-! ### The tokens of a source are laid out -/

/-- Each token starts behind some of the text. -/
theorem start_of_mem_tokensFrom {p : Position} {ss : List Segment} {u : Token}
    (hu : u ∈ tokensFrom p ss) : ∃ read, read <+: spelled ss ∧ u.start = p.pastAll read := by
  obtain ⟨front, s, behind, rfl, htoken⟩ := exists_of_mem_tokensFrom hu
  refine ⟨spelled front, ?_, ?_⟩
  · rw [spelled_append]
    exact List.prefix_append _ _
  · rw [← (Segment.startingAt_of_token? htoken).2]
    rfl

/-- A token that touches the text before it is the first segment, as a blank would lie between. -/
theorem lexeme?_of_touches {pre : List Char} {ss : List Segment} {rest : List Char}
    (hss : Segmented rest ss) (hlen : (pre ++ spelled ss).length < 2 ^ 31) {u : Token}
    (hu : (tokensFrom (Position.start.pastAll pre) ss).head? = some u)
    (hp : u.start.place = Place.start.after pre) :
    ∃ s ss', ss = s :: ss' ∧ s.lexeme? = some (u.kind, u.text) := by
  cases ss with
  | nil => cases hu
  | cons s ss =>
    refine ⟨s, ss, rfl, ?_⟩
    rw [tokensFrom, Segment.token?] at hu
    cases hl : s.lexeme? with
    | some l =>
      rw [hl] at hu
      obtain rfl := Option.some.inj hu
      rfl
    | none =>
      rw [hl] at hu
      -- behind a blank the token would start strictly later
      obtain ⟨read, hread, hstart⟩ := start_of_mem_tokensFrom (List.mem_of_mem_head? hu)
      obtain ⟨c, cs, hc⟩ := s.exists_head hss.1
      have hshort : (pre ++ (s.chars ++ read)).length < 2 ^ 31 := by
        have := hread.length_le
        simp only [spelled_cons, List.length_append] at hlen ⊢
        omega
      have hplace : u.start.place = Place.start.after (pre ++ (s.chars ++ read)) := by
        rw [hstart, ← Position.pastAll_append, ← Position.pastAll_append, place_pastAll hshort]
      have hbefore := Place.before_after (Place.start.after pre)
        (show s.chars ++ read ≠ [] by rw [hc]; exact List.cons_ne_nil _ _)
      rw [← Place.after_append] at hbefore
      exact absurd (hp.symm.trans hplace) hbefore.ne

theorem behind_startingAt {kind : Kind} {text : String} (h : kind.Allows text) (pre : List Char)
    (hlen : (pre ++ kind.spelling text).length < 2 ^ 31) :
    (Token.startingAt kind text (Position.start.pastAll pre)).behind =
      Place.start.after (pre ++ kind.spelling text) := by
  rw [List.length_append] at hlen
  rw [← (Token.legal_startingAt h _).after_spelling_eq_behind, Place.after_append,
    Token.start_startingAt, place_pastAll (by omega)]
  · rfl
  · show (kind.spelling text).length < 2 ^ 32
    omega

/-- The tokens of a text are laid out, and rebuilding does not make it longer.  The text consists
of what is behind the last token, of the blanks read since, and of the segments to come. -/
theorem laidOutFrom_tokensFrom {ss : List Segment} (hss : Segmented [] ss)
    (pre cs : List Char) (hlen : (pre ++ cs ++ spelled ss).length < 2 ^ 31) :
    LaidOutFrom (Place.start.after pre) (tokensFrom (Position.start.pastAll (pre ++ cs)) ss) ∧
    (rebuildFrom (Place.start.after pre)
      (tokensFrom (Position.start.pastAll (pre ++ cs)) ss)).length ≤
        (cs ++ spelled ss).length := by
  induction ss generalizing pre cs with
  | nil => exact ⟨trivial, Nat.zero_le _⟩
  | cons s ss ih =>
    obtain ⟨hs, hs', hss⟩ := hss
    rw [spelled_cons, ← List.append_assoc] at hlen
    rw [tokensFrom, ← Position.pastAll_append, Segment.token?]
    cases hl : s.lexeme? with
    | none =>
      -- a blank only makes the gap in front of the next token wider
      have hrest := ih hss pre (cs ++ s.chars) (by rwa [← List.append_assoc])
      rw [← List.append_assoc, List.append_assoc cs] at hrest
      exact hrest
    | some l =>
      obtain ⟨kind, text⟩ := l
      obtain ⟨hallows, rfl⟩ := Kind.allows_of_lexeme? hs hl
      rw [Kind.chars_segment hallows] at hlen ⊢
      have hshort := hlen
      simp only [List.length_append] at hshort
      have hstart : (Position.start.pastAll (pre ++ cs)).place = Place.start.after (pre ++ cs) :=
        place_pastAll (by rw [List.length_append]; omega)
      have hbehind := behind_startingAt hallows (pre ++ cs)
        (by simp only [List.length_append]; omega)
      -- behind the token no blanks have been read yet
      have hrest := ih hss (pre ++ cs ++ kind.spelling text) [] (by rwa [List.append_nil])
      rw [List.append_nil, List.nil_append, ← hbehind] at hrest
      refine ⟨⟨Token.legal_startingAt hallows _, ?_, ?_, hrest.1⟩, ?_⟩
      · rw [Token.start_startingAt, hstart, Place.after_append]
        exact Place.reaches_after _ cs
      · intro u hu hp
        rw [hbehind] at hp
        obtain ⟨s, ss', rfl, hl'⟩ := lexeme?_of_touches hss hlen hu hp
        obtain ⟨hallows', rfl⟩ := Kind.allows_of_lexeme? hss.1 hl'
        rw [List.append_nil, spelled_cons] at hs'
        exact (Kind.endsBefore_segment_iff kind hallows' text _).mp hs'
      · have hgap := length_gap_le (Place.start.after pre) cs
        rw [← Place.after_append, ← hstart] at hgap
        have hle := hrest.2
        rw [spelled_cons, Kind.chars_segment hallows]
        show (gap _ (Position.start.pastAll (pre ++ cs)).place ++ kind.spelling text ++
          rebuildFrom _ (tokensFrom _ ss)).length ≤ _
        simp only [List.length_append] at hle ⊢
        omega

theorem laidOut_of_lex {source : String} (hs : source.length < 2 ^ 31) {ts : List Token}
    (h : lex source = .ok ts) : LaidOut ts ∧ (rebuild ts).length ≤ source.length := by
  obtain ⟨ss, hss, hspelled, rfl⟩ := reads_of_lex_ok h
  have hlaid := laidOutFrom_tokensFrom hss.segmented [] []
    (by rwa [List.nil_append, List.nil_append, hspelled, String.length_toList])
  refine ⟨hlaid.1, ?_⟩
  rw [rebuild, String.length_ofList, ← String.length_toList, ← hspelled]
  exact hlaid.2

/-! ### Both directions -/

/-- **The tokens of a source determine a source with the same layout**, and the lists of tokens
that lexing gives are exactly those that are laid out. -/
theorem rebuild_lex :
    (∀ (source : String) ts, source.length < 2 ^ 31 → lex source = .ok ts →
      LaidOut ts ∧ lex (rebuild ts) = .ok ts) ∧
    (∀ ts, LaidOut ts → lex (rebuild ts) = .ok ts) ∧
    ∀ ts, (∃ source : String, source.length < 2 ^ 31 ∧ lex source = .ok ts) ↔
      LaidOut ts ∧ (rebuild ts).length < 2 ^ 31 := by
  refine ⟨?_, fun ts => lex_rebuild_of_laidOut, fun ts => ⟨?_, ?_⟩⟩
  · intro source ts hs h
    have hlaid := (laidOut_of_lex hs h).1
    exact ⟨hlaid, lex_rebuild_of_laidOut hlaid⟩
  · rintro ⟨source, hs, h⟩
    obtain ⟨hlaid, hle⟩ := laidOut_of_lex hs h
    exact ⟨hlaid, hle.trans_lt hs⟩
  · rintro ⟨hlaid, hs⟩
    exact ⟨rebuild ts, hs, lex_rebuild_of_laidOut hlaid⟩

/-- Other blanks come back as spaces and newlines; a token that a string ends right in front of
stays where it is. -/
theorem rebuild_lex_multi_line :
    lex "\tlet  \r\n\n s=\"a\nb\"5==" = .ok [⟨.kwLet, "let", 0, 0, 0, 3⟩,
      ⟨.identifier, "s", 2, 0, 1, 1⟩, ⟨.equals, "=", 2, 0, 2, 1⟩, ⟨.string, "a\nb", 2, 1, 3, 1⟩,
      ⟨.integer, "5", 3, 0, 2, 1⟩, ⟨.doubleEquals, "==", 3, 0, 3, 2⟩] ∧
    lex " let\n\n s=\"a\nb\"5==" = lex "\tlet  \r\n\n s=\"a\nb\"5==" := by
  have h : lex "\tlet  \r\n\n s=\"a\nb\"5==" = .ok [⟨.kwLet, "let", 0, 0, 0, 3⟩,
      ⟨.identifier, "s", 2, 0, 1, 1⟩, ⟨.equals, "=", 2, 0, 2, 1⟩, ⟨.string, "a\nb", 2, 1, 3, 1⟩,
      ⟨.integer, "5", 3, 0, 2, 1⟩, ⟨.doubleEquals, "==", 3, 0, 3, 2⟩] := by decide +kernel
  refine ⟨h, ?_⟩
  rw [h]
  exact (rebuild_lex.1 _ _ (by decide) h).2

end SourceLexer
