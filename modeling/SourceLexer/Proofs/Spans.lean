/-
Where tokens end.

A token does not keep the place behind it, but its fields tell it
(`Token.behind`), and that is where the tracker of the scan is once the token has
been read, closing quotation mark included.  So the tokens of a source lie one
behind the other with nothing but blanks in between:

* `spansFrom_tokensFrom` — each token begins and ends where the tracker is;
* `SpansFrom.pairwise` — no two tokens overlap;
* `spans_of_lex` — both for every source.
-/
import SourceLexer.Proofs.Rebuild

namespace SourceLexer

/-- The position to which the tracker of a cursor over a source has moved when the first `o`
characters have been consumed. -/
def trackedTo (source : List Char) (o : Nat) : Position :=
  ((Cursor.ofArray source.toArray Position.start).track.consumeMany o).position

theorem trackedTo_eq (source : List Char) (o : Nat) :
    trackedTo source o = Position.start.pastAll (source.take o) :=
  (Cursor.isTracked_track source.toArray Position.start).position_consumeMany o

/-- Whether the tokens of a source, from the offset `o` on, are where the tracker says: a token
starts where the tracker is behind the blanks in front of it, and its fields tell where the
tracker is when the token has been read. -/
def SpansFrom (source : List Char) (o : Nat) : List Token → Prop
  | [] => ∀ c ∈ source.drop o, Blank c
  | t :: ts => ∃ gap rest, source.drop o = gap ++ t.spelling ++ rest ∧ (∀ c ∈ gap, Blank c) ∧
      t.start = trackedTo source (o + gap.length) ∧
      t.start = (trackedTo source o).pastAll gap ∧
      (trackedTo source (o + gap.length + t.spelling.length)).place = t.behind ∧
      SpansFrom source (o + gap.length + t.spelling.length) ts

/-! ### Tokens begin and end where the tracker is -/

theorem trackedTo_of_append {source pre rest : List Char} (h : source = pre ++ rest) :
    trackedTo source pre.length = Position.start.pastAll pre := by
  rw [trackedTo_eq, h, List.take_left]

/-- A segment that is no token is blank. -/
theorem Segment.blank_of_lexeme?_eq_none {s : Segment} (hs : s.Wellformed) (h : s.lexeme? = none) :
    ∀ c ∈ s.chars, Blank c := by
  cases s with
  | blank c => exact List.forall_mem_singleton.mpr hs
  | _ => cases h

/-- The source consists of what is in front of the last token and of this token, `pre`, of the
blanks read since, and of the segments to come. -/
theorem spansFrom_tokensFrom {ss : List Segment} (hss : Segmented [] ss)
    {source : List Char} (pre gap : List Char) (h : source = pre ++ gap ++ spelled ss)
    (hgap : ∀ c ∈ gap, Blank c) (hlen : source.length < 2 ^ 31) :
    SpansFrom source pre.length (tokensFrom (Position.start.pastAll (pre ++ gap)) ss) := by
  induction ss generalizing pre gap with
  | nil =>
    rw [h, spelled_nil, List.append_nil, tokensFrom, SpansFrom, List.drop_left]
    exact hgap
  | cons s ss ih =>
    obtain ⟨hs, -, hss⟩ := hss
    rw [spelled_cons] at h
    rw [tokensFrom, ← Position.pastAll_append, Segment.token?]
    cases hl : s.lexeme? with
    | none =>
      -- a blank is added to the gap
      have hgap' : ∀ c ∈ gap ++ s.chars, Blank c := by
        intro c hc
        rcases List.mem_append.mp hc with hc | hc
        · exact hgap c hc
        · exact Segment.blank_of_lexeme?_eq_none hs hl c hc
      have hrest := ih hss pre (gap ++ s.chars) (by rw [h]; simp) hgap'
      rwa [← List.append_assoc] at hrest
    | some l =>
      obtain ⟨kind, text⟩ := l
      obtain ⟨hallows, rfl⟩ := Kind.allows_of_lexeme? hs hl
      rw [Kind.chars_segment hallows] at h ⊢
      have h' : source = (pre ++ gap ++ kind.spelling text) ++ spelled ss := by rw [h]; simp
      have hshort : (pre ++ gap ++ kind.spelling text).length < 2 ^ 31 := by
        have := congrArg List.length h'
        rw [List.length_append] at this
        omega
      have hstart : trackedTo source (pre.length + gap.length) =
          Position.start.pastAll (pre ++ gap) := by
        rw [← List.length_append, trackedTo_of_append h]
      have hstop : (trackedTo source
          (pre.length + gap.length + (kind.spelling text).length)).place =
          (Token.startingAt kind text (Position.start.pastAll (pre ++ gap))).behind := by
        rw [← List.length_append, ← List.length_append, trackedTo_of_append h',
          place_pastAll hshort, behind_startingAt hallows (pre ++ gap) hshort]
      -- behind the token no blanks have been read yet
      have hrest := ih hss (pre ++ gap ++ kind.spelling text) []
        (by rw [List.append_nil]; exact h') (by simp)
      rw [List.append_nil, List.length_append, List.length_append] at hrest
      refine ⟨gap, spelled ss, ?_, hgap, hstart.symm, ?_, hstop, hrest⟩
      · rw [h, List.append_assoc pre, List.drop_left, ← List.append_assoc]
        rfl
      · have hpre : source = pre ++ (gap ++ (kind.spelling text ++ spelled ss)) := by
          rw [h, List.append_assoc]
        rw [Token.start_startingAt, Position.pastAll_append, trackedTo_of_append hpre]

/-! ### Tokens do not overlap -/

/-- Whether a place is another or comes before it. -/
def Place.NotBehind (p q : Place) : Prop := p = q ∨ p.Before q

/-- Further on in a short source the tracker is not further back. -/
theorem notBehind_trackedTo {source : List Char} (hlen : source.length < 2 ^ 31) {o o' : Nat}
    (h : o ≤ o') : (trackedTo source o).place.NotBehind (trackedTo source o').place := by
  have hshort : ∀ o, (source.take o).length < 2 ^ 31 := by
    intro o
    rw [List.length_take]
    omega
  have htake : source.take o' = source.take o ++ (source.drop o).take (o' - o) := by
    rw [← List.take_add, Nat.add_sub_cancel' h]
  rw [trackedTo_eq, trackedTo_eq, place_pastAll (hshort o), place_pastAll (hshort o'), htake,
    Place.after_append]
  by_cases hnil : (source.drop o).take (o' - o) = []
  · rw [hnil]
    exact Or.inl rfl
  · exact Or.inr (Place.before_after _ hnil)

theorem SpansFrom.exists_start {source : List Char} {o : Nat} {ts : List Token}
    (h : SpansFrom source o ts) : ∀ u ∈ ts, ∃ o', o ≤ o' ∧ u.start = trackedTo source o' := by
  induction ts generalizing o with
  | nil => exact nofun
  | cons t ts ih =>
    obtain ⟨gap, rest, -, -, hstart, -, -, hts⟩ := h
    intro u hu
    rcases List.mem_cons.mp hu with rfl | hu
    · exact ⟨o + gap.length, Nat.le_add_right _ _, hstart⟩
    · obtain ⟨o', ho', hu⟩ := ih hts u hu
      exact ⟨o', by omega, hu⟩

/-- No token starts in front of the end of another that comes earlier. -/
theorem SpansFrom.pairwise {source : List Char} (hlen : source.length < 2 ^ 31) {o : Nat}
    {ts : List Token} (h : SpansFrom source o ts) :
    ts.Pairwise fun t u => t.behind.NotBehind u.start.place := by
  induction ts generalizing o with
  | nil => exact List.Pairwise.nil
  | cons t ts ih =>
    obtain ⟨gap, rest, -, -, -, -, hstop, hts⟩ := h
    refine List.pairwise_cons.mpr ⟨fun u hu => ?_, ih hts⟩
    obtain ⟨o', ho', hu⟩ := hts.exists_start u hu
    rw [← hstop, hu]
    exact notBehind_trackedTo hlen ho'

/-- **The end that a token derives from its text is where the tracker is.**  Behind each token the
tracker is at the place that the fields of the token tell; from there only blanks lead to where the
next token starts, and so no two tokens overlap. -/
theorem spans_of_lex (source : String) (hlen : source.length < 2 ^ 31) (ts : List Token)
    (h : lex source = .ok ts) :
    SpansFrom source.toList 0 ts ∧
      ts.Pairwise fun t u => t.behind.NotBehind u.start.place := by
  rw [← String.length_toList] at hlen
  obtain ⟨ss, hss, hspelled, rfl⟩ := reads_of_lex_ok h
  have hspans : SpansFrom source.toList 0 (tokensFrom Position.start ss) :=
    spansFrom_tokensFrom hss.segmented [] [] hspelled.symm (by simp) hlen
  exact ⟨hspans, hspans.pairwise hlen⟩

/-- A string whose last character is a newline ends in column 1, behind its quotation mark, and
the next token starts right there. -/
theorem spans_of_lex_trailing_newline :
    lex " \"a\n\"\"\" x" = .ok [⟨.string, "a\n", 0, 1, 0, 0⟩, ⟨.string, "", 1, 0, 1, 0⟩,
      ⟨.identifier, "x", 1, 0, 4, 1⟩] ∧
    SpansFrom " \"a\n\"\"\" x".toList 0 [⟨.string, "a\n", 0, 1, 0, 0⟩, ⟨.string, "", 1, 0, 1, 0⟩,
      ⟨.identifier, "x", 1, 0, 4, 1⟩] ∧
    [⟨.string, "a\n", 0, 1, 0, 0⟩, ⟨.string, "", 1, 0, 1, 0⟩,
      ⟨.identifier, "x", 1, 0, 4, 1⟩].Pairwise fun t u : Token =>
        t.behind.NotBehind u.start.place := by
  have h : lex " \"a\n\"\"\" x" = .ok [⟨.string, "a\n", 0, 1, 0, 0⟩, ⟨.string, "", 1, 0, 1, 0⟩,
      ⟨.identifier, "x", 1, 0, 4, 1⟩] := by decide +kernel
  exact ⟨h, spans_of_lex _ (by decide) _ h⟩

end SourceLexer
