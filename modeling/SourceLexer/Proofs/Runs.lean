/-
Runs from any state of a cursor.

Words, integers and strings are read by one loop (`eatWhile`).  Whatever the
cursor, its observers and the text so far, the loop takes the longest prefix of
what remains whose characters all qualify, one consumption for each of them, and
stops in front of the next character.

* `consumeMany_eq` — a number of consumptions in closed form: who is told what;
* `eatWhileWithin_eq` — the loop stops after one test more than the run is long;
* `eatWhile_greedy` — all that a run does to the text and to the cursor.
-/
import SourceLexer.Proofs.Attachment
import SourceLexer.Proofs.Segment

namespace SourceLexer

/-! ### Consuming several elements -/

/-- What observers are told if elements are consumed one after the other: every element once by
every observer, in order. -/
def noticesFor {α σ : Type} (observers : List (Observer α σ)) (as : List α) :
    List (Observer α σ × α) :=
  as.flatMap fun a => observers.map (·, a)

namespace Cursor

variable {α σ : Type}

/-- Consuming a number of times moves the cursor so far, and tells its observers the elements that
there are. -/
theorem consumeMany_eq (n : Nat) (c : Cursor α σ) :
    consumeMany n c = { c with
      taken := c.taken + n
      state := told c.state (noticesFor c.observers (c.rest.take n)) } := by
  induction n generalizing c with
  | zero => rfl
  | succ n ih =>
    -- the element that is consumed first is told first
    have hnext : c.elements[c.taken]? = c.rest.head? := by
      rw [← peek_one, peek_one_eq_head?]
    have htake : c.rest.take (n + 1) = c.rest.head?.toList ++ c.rest.tail.take n := by
      cases c.rest with
      | nil => rw [List.head?_nil, List.tail_nil, List.take_nil, List.take_nil]; rfl
      | cons a as => rfl
    have hhead : c.elements[c.taken]?.toList.flatMap (fun a => c.observers.map (·, a)) =
        noticesFor c.observers c.rest.head?.toList := by rw [hnext]; rfl
    rw [consumeMany, ih, rest_consume, htake, consume_eq, hhead]
    simp only [noticesFor, List.flatMap_append, told, List.foldl_append, Nat.add_assoc,
      Nat.add_comm 1]

theorem taken_consumeMany (n : Nat) (c : Cursor α σ) : (consumeMany n c).taken = c.taken + n := by
  rw [consumeMany_eq]

theorem index_consumeMany (n : Nat) (c : Cursor α σ) : (consumeMany n c).index = c.index + n := by
  rw [index, index, taken_consumeMany]
  omega

end Cursor

/-! ### The loop -/

section

variable {σ : Type}

/-- The loop of a run that may look at no more than a given number of characters. -/
def eatWhileWithin (p : Char → Bool) : Nat → String → Cursor Char σ → Option (String × Cursor Char σ)
  | 0, _, _ => none
  | n + 1, text, c =>
    match c.peek 1 with
    | some a => if p a then eatWhileWithin p n (text.push a) c.consume.2 else some (text, c)
    | none => some (text, c)

/-- The loop stops after one look more than there are characters that qualify. -/
theorem eatWhileWithin_eq (p : Char → Bool) (n : Nat) (text : String) (c : Cursor Char σ) :
    eatWhileWithin p n text c =
      if (c.rest.takeWhile p).length < n then some (eatWhile p text c) else none := by
  -- the recursion is that of the unbounded loop, with one look for each of its turns
  fun_induction eatWhile p text c generalizing n with
  | case1 text c a ha hp ih =>
    cases n with
    | zero => rfl
    | succ n =>
      rw [eatWhileWithin, ha]
      rw [Cursor.peek_one_eq_head?, List.head?_eq_some_iff] at ha
      obtain ⟨as, has⟩ := ha
      simp only [if_pos hp, ih, Cursor.rest_consume, has, List.tail_cons,
        List.takeWhile_cons_of_pos hp, List.length_cons, Nat.add_lt_add_iff_right]
  | case2 text c a ha hp =>
    cases n with
    | zero => rfl
    | succ n =>
      rw [eatWhileWithin, ha]
      rw [Cursor.peek_one_eq_head?, List.head?_eq_some_iff] at ha
      obtain ⟨as, has⟩ := ha
      simp only [if_neg hp, has, List.takeWhile_cons_of_neg hp, List.length_nil, Nat.succ_pos,
        if_true]
  | case3 text c ha =>
    cases n with
    | zero => rfl
    | succ n =>
      rw [eatWhileWithin, ha]
      rw [Cursor.peek_one_eq_head?, List.head?_eq_none_iff] at ha
      simp only [ha, List.takeWhile_nil, List.length_nil, Nat.succ_pos, if_true]

theorem le_takeWhile_of_forall {p : Char → Bool} {run cs : List Char} (hrun : run <+: cs)
    (hp : ∀ a ∈ run, p a = true) : run <+: cs.takeWhile p := by
  obtain ⟨more, rfl⟩ := hrun
  rw [List.takeWhile_append_of_pos hp]
  exact List.prefix_append _ _

/-! ### What a run does -/

/-- What becomes of a text and a cursor if `run` is the run of characters that satisfy `p`. -/
structure IsRun (p : Char → Bool) (text : String) (c : Cursor Char σ) (run : List Char)
    (result : String × Cursor Char σ) : Prop where
  /-- The run is a prefix of what has not been consumed. -/
  front : run <+: c.rest
  qualifies : ∀ a ∈ run, p a = true
  /-- No prefix that qualifies is longer. -/
  longest : ∀ run', run' <+: c.rest → (∀ a ∈ run', p a = true) → run' <+: run
  index : result.2.index = c.index + run.length
  /-- Every observer is told every character of the run once, in order; nothing else happens to
  the cursor. -/
  cursor : result.2 = { c with
    taken := c.taken + run.length
    state := told c.state (noticesFor c.observers run) }
  /-- What is behind the run has not been consumed, and its first character does not qualify. -/
  rest : run ++ result.2.rest = c.rest
  next : ∀ a, result.2.peek 1 = some a → p a = false
  /-- The loop stops: it looks at the characters of the run and once more. -/
  stops : ∀ n, eatWhileWithin p n text c = if run.length < n then some result else none
  /-- A position that is tracked, whoever else listens, moves past the run and no further. -/
  position : ∀ [Tracked σ] (roles : List (Role σ)),
    c.observers.map Observer.hear = roles.map Role.hear → roles.filter Role.tracks = Role.pairs 1 →
    result.2.position = c.position.pastAll run
  text : result.1 = text ++ String.ofList run

/-- **Runs are greedy and account for every character**, from any state of the cursor, be it in
front of its elements, among them or behind them. -/
theorem eatWhile_greedy (p : Char → Bool) (text : String) (c : Cursor Char σ) :
    ∃ run, IsRun p text c run (eatWhile p text c) := by
  have hfront : c.rest.takeWhile p <+: c.rest := List.takeWhile_prefix p
  have htake : c.rest.take (c.rest.takeWhile p).length = c.rest.takeWhile p :=
    (List.prefix_iff_eq_take.mp hfront).symm
  have hcursor : (eatWhile p text c).2 = c.consumeMany (c.rest.takeWhile p).length := by
    rw [eatWhile_eq]
  have hrest : (eatWhile p text c).2.rest = c.rest.dropWhile p := by
    have hsplit : c.rest.takeWhile p ++ c.rest.dropWhile p = c.rest :=
      List.takeWhile_append_dropWhile
    rw [hcursor, Cursor.rest_consumeMany]
    calc c.rest.drop (c.rest.takeWhile p).length
        = (c.rest.takeWhile p ++ c.rest.dropWhile p).drop (c.rest.takeWhile p).length := by
          rw [hsplit]
      _ = c.rest.dropWhile p := List.drop_left
  refine ⟨c.rest.takeWhile p, hfront, fun a => List.mem_takeWhile_imp,
    fun run' => le_takeWhile_of_forall, ?_, ?_, ?_, ?_, fun n => eatWhileWithin_eq p n text c,
    ?_, by rw [eatWhile_eq]⟩
  · rw [hcursor, Cursor.index_consumeMany]
  · rw [hcursor, Cursor.consumeMany_eq, htake]
  · rw [hrest, List.takeWhile_append_dropWhile]
  · intro a ha
    rw [Cursor.peek_one_eq_head?, hrest] at ha
    exact head?_dropWhile_eq_false ha
  · intro _ roles hroles hpairs
    obtain ⟨hcolumns, hnewlines, hbehind⟩ := Role.counts_of_filter_eq_pairs hpairs
    have hplace : c.position = c.position.place.position := (Place.position_place _).symm
    have hcolumn : -2 ^ 31 ≤ c.position.place.column := Int32.le_toInt _
    rw [hcursor, Cursor.position_consumeMany_of_roles hroles hplace hcolumn, htake,
      Place.heard_eq_next hcolumns hnewlines hbehind]
    exact (Place.position_after hcolumn _).trans (by rw [Place.position_place])

end

end SourceLexer
