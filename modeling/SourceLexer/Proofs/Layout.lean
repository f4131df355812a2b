/-
Where tokens are, from the tokens alone.

A token tells where it starts and how far its text reaches, hence also the
place right behind it (`Token.behind`).  From one place to a later one lead
spaces, or newlines and then spaces (`gap`).

* `after_gap` — a gap leads where it should;
* `length_gap_le` — and no text gets there with fewer characters;
* `Token.Legal.pastAll_spelling` — the position behind a token is the one that
  its fields tell, even if the end values are clamped.
-/
import SourceLexer.Proofs.Spelling

namespace SourceLexer

/-! ### Tokens in their places -/

namespace Token

/-- A token as it is written. -/
def spelling (t : Token) : List Char := t.kind.spelling t.text

/-- How many quotation marks stand on either side of a token. -/
def marks (t : Token) : Nat := if t.kind = .string then 1 else 0

/-- The place right behind a token, from the fields of the token. -/
def behind (t : Token) : Place :=
  if t.endLine = 0 then
    ⟨t.startLine.toNat, t.startOffset.toInt + t.endOffset.toNat + 2 * t.marks⟩
  else ⟨t.startLine.toNat + t.endLine.toNat, t.endOffset.toNat + t.marks⟩

/-- Whether the text of a token suits its kind, and the end values suit the text. -/
structure Legal (t : Token) : Prop where
  text : t.kind.Allows t.text
  endLine : t.endLine.toNat = min (t.text.toList.count '\n') (2 ^ 32 - 1)
  endOffset : t.endOffset.toNat =
    min (t.text.toList.rtakeWhile (· ≠ '\n')).length (2 ^ 32 - 1)

end Token

/-- Whether blanks can lead from one place to another. -/
def Place.Reaches (q p : Place) : Prop :=
  p.line = q.line ∧ q.column ≤ p.column ∨ q.line < p.line ∧ 0 ≤ p.column

/-- Spaces, or newlines and then spaces, that lead from one place to another. -/
def gap (q p : Place) : List Char :=
  if p.line = q.line then List.replicate (p.column - q.column).toNat ' '
  else List.replicate (p.line - q.line) '\n' ++ List.replicate p.column.toNat ' '

/-! ### Gaps -/

namespace Place

theorem after_spaces (q : Place) (n : Nat) :
    q.after (List.replicate n ' ') = ⟨q.line, q.column + n⟩ := by
  rw [after_eq]
  simp [List.count_replicate]

theorem after_newlines (q : Place) (n : Nat) :
    q.after (List.replicate (n + 1) '\n') = ⟨q.line + (n + 1), 0⟩ := by
  rw [List.replicate_succ', after_append, after_eq q]
  simp [next, Nat.add_assoc]

/-- A gap leads where it should. -/
theorem after_gap {q p : Place} (h : q.Reaches p) : q.after (gap q p) = p := by
  rw [gap]
  obtain ⟨hl, hc⟩ | ⟨hl, hc⟩ := h
  · rw [if_pos hl, after_spaces, Int.toNat_of_nonneg (by omega), ← hl]
    congr 1
    omega
  · obtain ⟨n, hn⟩ : ∃ n, p.line - q.line = n + 1 := ⟨p.line - q.line - 1, by omega⟩
    rw [if_neg (by omega), hn, after_append, after_newlines, after_spaces,
      Int.toNat_of_nonneg hc]
    congr 1
    · show q.line + (n + 1) = p.line
      omega
    · exact Int.zero_add _

/-- Reading leads to places that blanks lead to as well. -/
theorem reaches_after (q : Place) (cs : List Char) : q.Reaches (q.after cs) := by
  rw [after_eq]
  by_cases hm : '\n' ∈ cs
  · have hpos : 0 < cs.count '\n' := List.count_pos_iff.mpr hm
    rw [if_pos hm]
    exact Or.inr ⟨by show q.line < q.line + _; omega, Int.natCast_nonneg _⟩
  · have hzero : cs.count '\n' = 0 := List.count_eq_zero.mpr hm
    rw [if_neg hm, hzero]
    exact Or.inl ⟨rfl, by show q.column ≤ q.column + _; omega⟩

end Place

theorem count_add_length_rtakeWhile_le (cs : List Char) :
    cs.count '\n' + (cs.rtakeWhile (· ≠ '\n')).length ≤ cs.length := by
  induction cs using List.reverseRecOn with
  | nil => exact le_rfl
  | append_singleton cs c ih =>
    by_cases hc : c = '\n'
    · have := cs.count_le_length (a := '\n')
      simpa [hc] using this
    · rw [List.rtakeWhile_concat_pos _ _ _ (by simpa using hc), List.length_append,
        List.length_append, List.count_append, List.count_singleton, if_neg (by simpa using hc)]
      omega

/-- Blanks lead to a place in no more characters than any other text does. -/
theorem length_gap_le (q : Place) (cs : List Char) : (gap q (q.after cs)).length ≤ cs.length := by
  have hle := count_add_length_rtakeWhile_le cs
  rw [Place.after_eq_tail]
  split
  · rw [gap, if_pos rfl, List.length_replicate]
    show (q.column + _ - q.column).toNat ≤ _
    omega
  · next hn =>
    rw [gap, if_neg (by show ¬ q.line + _ = q.line; omega), List.length_append,
      List.length_replicate, List.length_replicate, Int.toNat_natCast, Nat.add_sub_cancel_left]
    exact hle

theorem blank_of_mem_gap {q p : Place} {c : Char} (h : c ∈ gap q p) : Blank c := by
  have hspace : Blank ' ' := (isBlank_iff ' ').mp rfl
  have hnewline : Blank '\n' := (isBlank_iff '\n').mp rfl
  rw [gap] at h
  split at h
  · rwa [List.eq_of_mem_replicate h]
  · rcases List.mem_append.mp h with h | h
    · rwa [List.eq_of_mem_replicate h]
    · rwa [List.eq_of_mem_replicate h]

/-! ### Behind a token -/

namespace Token

/-- The legal tokens are those that texts and positions give. -/
theorem legal_iff (t : Token) :
    t.Legal ↔ t.kind.Allows t.text ∧ Token.startingAt t.kind t.text t.start = t := by
  have hl := toNat_ofNatClamp (Extent.of t.text).newlines
  have ho := toNat_ofNatClamp (Extent.of t.text).tail
  rw [Extent.newlines_of] at hl
  rw [Extent.tail_of] at ho
  constructor
  · rintro ⟨htext, hline, hoffset⟩
    refine ⟨htext, ?_⟩
    obtain ⟨kind, text, startLine, endLine, startOffset, endOffset⟩ := t
    rw [startingAt, Token.mk.injEq]
    refine ⟨rfl, rfl, rfl, UInt32.toNat_inj.mp ?_, rfl, UInt32.toNat_inj.mp ?_⟩
    · rw [hline, Extent.newlines_of, hl]
    · rw [hoffset, Extent.tail_of, ho]
  · rintro ⟨htext, ht⟩
    refine ⟨htext, ?_, ?_⟩
    · rw [← hl, ← congrArg Token.endLine ht, startingAt, Extent.newlines_of]
    · rw [← ho, ← congrArg Token.endOffset ht, startingAt, Extent.tail_of]

theorem legal_startingAt {kind : Kind} {text : String} (h : kind.Allows text) (p : Position) :
    (Token.startingAt kind text p).Legal :=
  (legal_iff _).mpr ⟨h, rfl⟩

theorem after_spelling (t : Token) (q : Place) :
    q.after t.spelling =
      if t.text.toList.count '\n' = 0 then
        ⟨q.line, q.column + (t.text.toList.rtakeWhile (· ≠ '\n')).length + 2 * t.marks⟩
      else ⟨q.line + t.text.toList.count '\n',
        (t.text.toList.rtakeWhile (· ≠ '\n')).length + t.marks⟩ := by
  rw [spelling, Kind.spelling, marks]
  by_cases hk : t.kind = .string
  · rw [if_pos hk, if_pos hk, Place.after_append]
    show ((q.next '"').after t.text.toList).next '"' = _
    rw [Place.after_eq_tail]
    split
    · show Place.mk q.line (q.column + 1 + _ + 1) = _
      congr 1
      omega
    · rfl
  · rw [if_neg hk, if_neg hk, Place.after_eq_tail]
    split
    · rw [Nat.cast_zero, mul_zero, add_zero]
    · rw [Nat.cast_zero, add_zero]

theorem Legal.endLine_eq_zero_iff {t : Token} (h : t.Legal) :
    t.endLine = 0 ↔ t.text.toList.count '\n' = 0 := by
  rw [← UInt32.toNat_inj, h.endLine]
  show min _ _ = 0 ↔ _
  omega

theorem neg_le_column_start (t : Token) : -2 ^ 31 ≤ t.start.place.column :=
  t.startOffset.le_toInt

theorem neg_le_column_behind (t : Token) : -2 ^ 31 ≤ t.behind.column := by
  have hc : -2 ^ 31 ≤ t.startOffset.toInt := t.neg_le_column_start
  rw [behind]
  split
  · show -2 ^ 31 ≤ t.startOffset.toInt + t.endOffset.toNat + 2 * t.marks
    omega
  · show (-2 ^ 31 : Int) ≤ t.endOffset.toNat + t.marks
    omega

/-- The fields of a token tell the position behind it. -/
theorem Legal.pastAll_spelling {t : Token} (h : t.Legal) :
    t.start.pastAll t.spelling = t.behind.position := by
  have hc := t.neg_le_column_start
  have hb := t.neg_le_column_behind
  have ha := Place.neg_le_column_after hc t.spelling
  have hl := h.endLine
  have ho := h.endOffset
  have hp : t.start.pastAll t.spelling = (t.start.place.after t.spelling).position := by
    rw [Place.position_after hc, Place.position_place]
  rw [hp]
  -- where an end value is clamped, so is the line or the column it is added to
  refine Position.ext_toInt ?_ ?_
  · rw [Place.line_position, Place.line_position, after_spelling, behind]
    by_cases hz : t.text.toList.count '\n' = 0
    · rw [if_pos hz, if_pos (h.endLine_eq_zero_iff.mpr hz)]
      rfl
    · rw [if_neg hz, if_neg (mt h.endLine_eq_zero_iff.mp hz), hl]
      show min (t.startLine.toNat + _) _ = min (t.startLine.toNat + _) _
      omega
  · rw [Place.column_position ha, Place.column_position hb, after_spelling, behind]
    by_cases hz : t.text.toList.count '\n' = 0
    · rw [if_pos hz, if_pos (h.endLine_eq_zero_iff.mpr hz), ho]
      -- an offset that is clamped fills the column, as even the least column is not that far
      -- to the left
      change -2 ^ 31 ≤ t.startOffset.toInt at hc
      show min (t.startOffset.toInt + _ + _) _ = min (t.startOffset.toInt + _ + _) _
      omega
    · rw [if_neg hz, if_neg (mt h.endLine_eq_zero_iff.mp hz), ho]
      show min (_ + _) _ = min (_ + _) _
      omega

/-- The fields of a token tell the place behind it, if the end values are not clamped. -/
theorem Legal.after_spelling_eq_behind {t : Token} (h : t.Legal)
    (hs : t.spelling.length < 2 ^ 32) : t.start.place.after t.spelling = t.behind := by
  have hle := count_add_length_rtakeWhile_le t.text.toList
  have htext : t.text.toList.length ≤ t.spelling.length :=
    Kind.length_le_length_spelling t.text t.kind
  have hl : t.endLine.toNat = t.text.toList.count '\n' := by
    rw [h.endLine, min_eq_left (by omega)]
  have ho : t.endOffset.toNat = (t.text.toList.rtakeWhile (· ≠ '\n')).length := by
    rw [h.endOffset, min_eq_left (by omega)]
  rw [after_spelling, behind]
  by_cases hz : t.text.toList.count '\n' = 0
  · rw [if_pos hz, if_pos (h.endLine_eq_zero_iff.mpr hz), ho]
    rfl
  · rw [if_neg hz, if_neg (mt h.endLine_eq_zero_iff.mp hz), hl, ho]
    rfl

end Token

end SourceLexer
