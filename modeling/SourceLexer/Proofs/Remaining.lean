/-
What a cursor has not consumed yet.

A scan sees of its cursor only the elements in front of it (`Cursor.rest`), and
changes it only by consuming (`Cursor.consumeMany`).  A tracked cursor moves
the position of its state by exactly the characters that are consumed:

* `rest_consumeMany` — consuming drops elements from the front;
* `position_consumeMany` — the position of a tracked cursor is moved past them;
* `eatWhile_eq` — a run is the longest prefix whose characters all qualify, and
  nothing more is consumed.
-/
import SourceLexer.Proofs.Place
import SourceLexer.Scan

namespace SourceLexer

namespace Cursor

section

variable {α σ : Type}

/-- The elements that have not been consumed. -/
def rest (c : Cursor α σ) : List α := c.elements.toList.drop c.taken

/-- The cursor after a number of consumptions. -/
def consumeMany : Nat → Cursor α σ → Cursor α σ
  | 0, c => c
  | n + 1, c => consumeMany n c.consume.2

theorem consumeMany_add (m n : Nat) (c : Cursor α σ) :
    consumeMany (m + n) c = consumeMany n (consumeMany m c) := by
  induction m generalizing c with
  | zero => rw [Nat.zero_add]; rfl
  | succ m ih =>
    rw [Nat.succ_add]
    exact ih c.consume.2

theorem peek_one_eq_head? (c : Cursor α σ) : c.peek 1 = c.rest.head? := by
  rw [peek_one, rest, List.head?_drop, Array.getElem?_toList]

theorem consume_fst_eq_head? (c : Cursor α σ) : c.consume.1 = c.rest.head? := by
  rw [consume_fst, peek_one_eq_head?]

theorem rest_consume (c : Cursor α σ) : c.consume.2.rest = c.rest.tail := by
  rw [rest, rest, elements_consume, taken_consume, List.tail_drop]

theorem rest_consumeMany (n : Nat) (c : Cursor α σ) :
    (consumeMany n c).rest = c.rest.drop n := by
  induction n generalizing c with
  | zero => rfl
  | succ n ih => rw [consumeMany, ih, rest_consume, List.drop_tail]

theorem observers_consume (c : Cursor α σ) : c.consume.2.observers = c.observers := by
  unfold consume
  simp only
  split <;> rfl

theorem state_consume (c : Cursor α σ) :
    c.consume.2.state = match c.rest.head? with
      | some a => c.observers.foldl (fun s o => o.hear a s) c.state
      | none => c.state := by
  rw [← consume_fst_eq_head?]
  unfold consume
  simp only
  split <;> rfl

end

/-! ### Tracked cursors -/

variable {σ : Type} [Tracked σ]

/-- Whether the observers of a cursor are the two that track it. -/
def IsTracked (c : Cursor Char σ) : Prop :=
  c.observers.map Observer.hear = [hearColumn, hearNewline]

/-- The position of a cursor. -/
def position (c : Cursor Char σ) : Position := Tracked.position c.state

theorem isTracked_track (as : Array Char) (s : σ) : (ofArray as s).track.IsTracked := rfl

theorem IsTracked.consume {c : Cursor Char σ} (h : c.IsTracked) : c.consume.2.IsTracked := by
  rw [IsTracked, observers_consume]
  exact h

theorem IsTracked.consumeMany {c : Cursor Char σ} (h : c.IsTracked) (n : Nat) :
    (consumeMany n c).IsTracked := by
  induction n generalizing c with
  | zero => exact h
  | succ n ih => exact ih h.consume

theorem position_hear (ch : Char) (s : σ) :
    Tracked.position (hearNewline ch (hearColumn ch s)) = (Tracked.position s).past ch := by
  rw [hearNewline, hearColumn, Position.past]
  by_cases h : ch = '\n'
  · rw [if_pos h, if_pos h, Tracked.position_move, Tracked.position_move]
    rfl
  · rw [if_neg h, if_neg h, id, Tracked.position_move]

theorem IsTracked.position_consume {c : Cursor Char σ} (h : c.IsTracked) :
    c.consume.2.position = c.position.pastAll (c.rest.take 1) := by
  obtain ⟨o₁, o₂, ho, h₁, h₂⟩ : ∃ o₁ o₂, c.observers = [o₁, o₂] ∧
      o₁.hear = hearColumn ∧ o₂.hear = hearNewline := by
    rw [IsTracked, List.map_eq_cons_iff] at h
    obtain ⟨o₁, l, ho, h₁, hl⟩ := h
    rw [List.map_eq_cons_iff] at hl
    obtain ⟨o₂, l', hl, h₂, hl'⟩ := hl
    rw [List.map_eq_nil_iff] at hl'
    exact ⟨o₁, o₂, by rw [ho, hl, hl'], h₁, h₂⟩
  rw [position, state_consume]
  cases hr : c.rest with
  | nil => rfl
  | cons a as =>
    -- the observers hear the character in the order in which they were added
    simp only [List.head?_cons, ho, List.foldl_cons, List.foldl_nil, h₁, h₂]
    exact position_hear a c.state

/-- Consuming moves a tracked position past the characters consumed. -/
theorem IsTracked.position_consumeMany {c : Cursor Char σ} (h : c.IsTracked) (n : Nat) :
    (Cursor.consumeMany n c).position = c.position.pastAll (c.rest.take n) := by
  induction n generalizing c with
  | zero => rfl
  | succ n ih =>
    rw [Cursor.consumeMany, ih h.consume, h.position_consume, rest_consume,
      ← Position.pastAll_append]
    cases c.rest with
    | nil => rw [List.tail_nil, List.take_nil, List.take_nil, List.take_nil, List.append_nil]
    | cons a as => rfl

end Cursor

/-! ### Runs -/

variable {σ : Type}

/-- A run is the longest prefix of what remains whose characters all satisfy `p`. -/
theorem eatWhile_eq (p : Char → Bool) (text : String) (c : Cursor Char σ) :
    eatWhile p text c = (text ++ String.ofList (c.rest.takeWhile p),
      c.consumeMany (c.rest.takeWhile p).length) := by
  fun_induction eatWhile p text c with
  | case1 text c a ha hp ih =>
    rw [Cursor.peek_one_eq_head?, List.head?_eq_some_iff] at ha
    obtain ⟨as, has⟩ := ha
    -- the next character qualifies: it is consumed, and the run goes on behind it
    rw [ih, Cursor.rest_consume, has, List.tail_cons, List.takeWhile_cons_of_pos hp]
    refine Prod.ext ?_ rfl
    rw [← String.toList_inj]
    simp
  | case2 text c a ha hp =>
    rw [Cursor.peek_one_eq_head?, List.head?_eq_some_iff] at ha
    obtain ⟨as, has⟩ := ha
    rw [has, List.takeWhile_cons_of_neg hp]
    refine Prod.ext ?_ rfl
    simp
  | case3 text c ha =>
    rw [Cursor.peek_one_eq_head?, List.head?_eq_none_iff] at ha
    rw [ha]
    refine Prod.ext ?_ rfl
    simp

end SourceLexer
