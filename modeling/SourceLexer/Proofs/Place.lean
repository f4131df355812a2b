/-
Places without a greatest line or column.

A `Position` stays at its greatest word; a `Place` counts on.  Reading moves
both in the same way, so a position that is reached by reading is the clamped
form of the place that is reached:

* `position_after` — clamping at the end is clamping at every character;
* `after_eq` — the place behind a text in closed form, from its newlines and
  from what stands behind the last of them;
* `before_after` — reading leads strictly forward in the order of lines and
  columns.

The closed form is the one by which a text has its `Extent`
(`Extent.tail_of`), which is how the end of a token and the place behind it
come to agree.
-/
import Mathlib
import SourceLexer.Token

namespace SourceLexer

/-! ### Clamping -/

theorem toNat_ofNatClamp (n : Nat) : (UInt32.ofNatClamp n).toNat = min n (2 ^ 32 - 1) := by
  by_cases h : n < UInt32.size
  · rw [UInt32.toNat_ofNatClamp_of_lt h]
    have : n < 2 ^ 32 := h
    omega
  · rw [UInt32.toNat_ofNatClamp_of_le (by omega)]
    have : ¬ n < 2 ^ 32 := h
    show 2 ^ 32 - 1 = _
    omega

theorem toInt_ofIntClamp {i : Int} (h : -2 ^ 31 ≤ i) :
    (Int32.ofIntClamp i).toInt = min i (2 ^ 31 - 1) := by
  have hmin : Int32.minValue.toInt = -2 ^ 31 := by decide
  have hmax : Int32.maxValue.toInt = 2 ^ 31 - 1 := by decide
  by_cases hi : i ≤ 2 ^ 31 - 1
  · rw [Int32.toInt_ofIntClamp (by omega) (by omega)]
    omega
  · rw [Int32.ofIntClamp, dif_pos (by omega), dif_neg (by omega), hmax]
    omega

namespace Position

theorem ext_toInt {p q : Position} (hl : p.line.toNat = q.line.toNat)
    (hc : p.column.toInt = q.column.toInt) : p = q := by
  obtain ⟨pl, pc⟩ := p
  obtain ⟨ql, qc⟩ := q
  have h₁ : pl = ql := UInt32.toNat_inj.mp hl
  have h₂ : pc = qc := Int32.toInt_inj.mp hc
  rw [h₁, h₂]

/-- Where a position is once the character behind it has been read. -/
def past (p : Position) (ch : Char) : Position :=
  if ch = '\n' then p.newline else p.nextColumn

/-- Where a position is once the text behind it has been read. -/
def pastAll (p : Position) (cs : List Char) : Position := cs.foldl past p

theorem pastAll_append (p : Position) (as bs : List Char) :
    p.pastAll (as ++ bs) = (p.pastAll as).pastAll bs :=
  List.foldl_append

end Position

/-! ### Places -/

/-- A line and a column that know no greatest value. -/
structure Place where
  line : Nat
  column : Int
deriving DecidableEq

/-- The place that a position names. -/
def Position.place (p : Position) : Place := ⟨p.line.toNat, p.column.toInt⟩

namespace Place

/-- The place before the first character of a text has been read. -/
def start : Place := ⟨0, -1⟩

/-- The place behind a character. -/
def next (q : Place) (ch : Char) : Place :=
  if ch = '\n' then ⟨q.line + 1, 0⟩ else ⟨q.line, q.column + 1⟩

/-- The place behind a text. -/
def after (q : Place) (cs : List Char) : Place := cs.foldl next q

/-- The position that a place is clamped to. -/
def position (q : Place) : Position :=
  ⟨UInt32.ofNatClamp q.line, Int32.ofIntClamp q.column⟩

@[simp] theorem after_nil (q : Place) : q.after [] = q := rfl

@[simp] theorem after_cons (q : Place) (ch : Char) (cs : List Char) :
    q.after (ch :: cs) = (q.next ch).after cs := rfl

theorem after_append (q : Place) (as bs : List Char) :
    q.after (as ++ bs) = (q.after as).after bs :=
  List.foldl_append

theorem line_position (q : Place) : q.position.line.toNat = min q.line (2 ^ 32 - 1) :=
  toNat_ofNatClamp q.line

theorem column_position {q : Place} (h : -2 ^ 31 ≤ q.column) :
    q.position.column.toInt = min q.column (2 ^ 31 - 1) :=
  toInt_ofIntClamp h

theorem position_start : start.position = Position.start := by decide

/-- A place that fits into words is the place of the position it is clamped to. -/
theorem place_position {q : Place} (hl : q.line < 2 ^ 32) (hc : -2 ^ 31 ≤ q.column)
    (hc' : q.column < 2 ^ 31) : q.position.place = q := by
  have h₁ := line_position q
  have h₂ := column_position hc
  rw [min_eq_left (by omega)] at h₁
  rw [min_eq_left (by omega)] at h₂
  rw [Position.place, h₁, h₂]

theorem position_place (p : Position) : p.place.position = p := by
  rw [Position.place, position, UInt32.ofNatClamp_toNat, Int32.ofIntClamp_toInt]

/-! ### Reading at a place and at the position it is clamped to -/

theorem neg_le_column_next {q : Place} (h : -2 ^ 31 ≤ q.column) (ch : Char) :
    -2 ^ 31 ≤ (q.next ch).column := by
  rw [next]
  split
  · show (-2 ^ 31 : Int) ≤ 0
    omega
  · show -2 ^ 31 ≤ q.column + 1
    omega

theorem neg_le_column_after {q : Place} (h : -2 ^ 31 ≤ q.column) (cs : List Char) :
    -2 ^ 31 ≤ (q.after cs).column := by
  induction cs generalizing q with
  | nil => exact h
  | cons ch cs ih => exact ih (neg_le_column_next h ch)

theorem position_next {q : Place} (h : -2 ^ 31 ≤ q.column) (ch : Char) :
    (q.next ch).position = q.position.past ch := by
  have hl := line_position q
  have hc := column_position h
  -- a word that is full stays full, so it does not matter when it is clamped
  by_cases hn : ch = '\n'
  · rw [next, if_pos hn, Position.past, if_pos hn]
    refine Position.ext_toInt ?_ rfl
    rw [line_position]
    show _ = (UInt32.ofNatClamp (q.position.line.toNat + 1)).toNat
    rw [toNat_ofNatClamp, hl]
    show min (q.line + 1) _ = _
    omega
  · rw [next, if_neg hn, Position.past, if_neg hn]
    refine Position.ext_toInt rfl ?_
    rw [column_position (show -2 ^ 31 ≤ q.column + 1 by omega)]
    show _ = (Int32.ofIntClamp (q.position.column.toInt + 1)).toInt
    rw [toInt_ofIntClamp (by omega), hc]
    show min (q.column + 1) _ = _
    omega

/-- Clamping at the end of a text is clamping at each of its characters. -/
theorem position_after {q : Place} (h : -2 ^ 31 ≤ q.column) (cs : List Char) :
    (q.after cs).position = q.position.pastAll cs := by
  induction cs generalizing q with
  | nil => rfl
  | cons ch cs ih =>
    -- the column never falls below the least word, so nothing is clamped from below
    rw [after_cons, ih (neg_le_column_next h ch), position_next h]
    rfl

/-! ### The closed form -/

/-- The place behind a text, from the newlines in it and the characters behind the last. -/
theorem after_eq (q : Place) (cs : List Char) :
    q.after cs = ⟨q.line + cs.count '\n',
      if '\n' ∈ cs then (cs.rtakeWhile (· ≠ '\n')).length else q.column + cs.length⟩ := by
  induction cs using List.reverseRecOn with
  | nil => simp
  | append_singleton cs ch ih =>
    -- the last character decides what is behind the last newline
    rw [after_append, ih, after_cons, after_nil, next]
    by_cases hn : ch = '\n'
    · subst hn
      simp [Nat.add_assoc]
    · have h : (cs ++ [ch]).rtakeWhile (· ≠ '\n') = cs.rtakeWhile (· ≠ '\n') ++ [ch] :=
        List.rtakeWhile_concat_pos _ _ _ (by simpa using hn)
      rw [if_neg hn, h]
      by_cases hm : '\n' ∈ cs
      · simp [hn, hm]
      · simp [hn, hm, Ne.symm hn, Int.add_assoc]

/-- The same, with what is behind the last newline in either case. -/
theorem after_eq_tail (q : Place) (cs : List Char) :
    q.after cs =
      if cs.count '\n' = 0 then ⟨q.line, q.column + (cs.rtakeWhile (· ≠ '\n')).length⟩
      else ⟨q.line + cs.count '\n', (cs.rtakeWhile (· ≠ '\n')).length⟩ := by
  rw [after_eq]
  by_cases h : '\n' ∈ cs
  · rw [if_pos h, if_neg (mt List.count_eq_zero.mp (not_not_intro h))]
  · have ht : cs.rtakeWhile (· ≠ '\n') = cs := by
      rw [List.rtakeWhile_eq_self_iff]
      intro ch hch
      simpa using ne_of_mem_of_not_mem hch h
    have hn : cs.count '\n' = 0 := List.count_eq_zero.mpr h
    rw [if_neg h, if_pos hn, hn, ht, Nat.add_zero]

/-! ### The order of places -/

/-- Whether a place comes before another: on an earlier line, or on the same line and further
to the left. -/
def Before (p q : Place) : Prop := p.line < q.line ∨ p.line = q.line ∧ p.column < q.column

theorem Before.trans {p q r : Place} (h₁ : p.Before q) (h₂ : q.Before r) : p.Before r := by
  unfold Before at *
  omega

theorem Before.ne {p q : Place} (h : p.Before q) : p ≠ q := by
  rintro rfl
  unfold Before at h
  omega

theorem before_next (q : Place) (ch : Char) : q.Before (q.next ch) := by
  rw [next]
  split
  · exact Or.inl (Nat.lt_succ_self _)
  · exact Or.inr ⟨rfl, Int.lt_succ _⟩

/-- Reading leads strictly forward. -/
theorem before_after (q : Place) {cs : List Char} (h : cs ≠ []) : q.Before (q.after cs) := by
  induction cs using List.reverseRecOn with
  | nil => exact absurd rfl h
  | append_singleton cs ch ih =>
    rw [after_append]
    -- the last step is strictly forward, and so are those before it if there are any
    by_cases hcs : cs = []
    · rw [hcs]
      exact before_next q ch
    · exact (ih hcs).trans (before_next _ ch)

end Place

/-! ### Extents -/

namespace Extent

theorem of_concat (cs : List Char) (ch : Char) :
    of (String.ofList (cs ++ [ch])) = (of (String.ofList cs)).push ch := by
  simp [of]

/-- The tail of a text is what stands behind its last newline. -/
theorem tail_ofList (cs : List Char) :
    (of (String.ofList cs)).tail = (cs.rtakeWhile (· ≠ '\n')).length := by
  induction cs using List.reverseRecOn with
  | nil => rfl
  | append_singleton cs ch ih =>
    rw [of_concat, push]
    by_cases hn : ch = '\n'
    · simp [hn]
    · rw [if_neg hn, List.rtakeWhile_concat_pos _ _ _ (by simpa using hn)]
      simp [ih]

theorem tail_of (text : String) :
    (of text).tail = (text.toList.rtakeWhile (· ≠ '\n')).length := by
  rw [← tail_ofList, String.ofList_toList]

end Extent

end SourceLexer
