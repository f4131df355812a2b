/-
Positions that follow any number of observers.

A cursor may be tracked several times, observers may be removed one by one, others
may be registered between them, and the position may be moved from outside.
Whatever has been done, a character moves the position by what the live observers
are there for (`Role`): by as many columns as there are column observers or, at a
newline, by as many lines as there are newline observers, to the columns that are
counted behind the last of them.

* `position_hear_roles` — a list of observers in closed form, clamped at the end;
* `Cursor.HasPast.takeSteps` — but for its state a cursor is what the history of the
  steps tells, live observers included;
* `position_follows_live_observers` — every consumption after any steps, and whole
  texts where all attachments are complete.
-/
import SourceLexer.Proofs.History
import SourceLexer.Proofs.Remaining
import SourceLexer.Session

namespace SourceLexer

/-! ### What observers are there for -/

/-- An observer that leaves the position alone. -/
structure Bystander (σ : Type) [Tracked σ] where
  hear : Char → σ → σ
  position_hear : ∀ ch s, Tracked.position (hear ch s) = Tracked.position s

/-- Who writes down what is heard leaves the position alone. -/
def Notes.bystander (tag : String) : Bystander (Notes Char) where
  hear := Notes.hear tag
  position_hear _ _ := rfl

/-- What an observer of a tracked cursor is there for. -/
inductive Role (σ : Type) [Tracked σ] where
  | column
  | newline
  | bystander (b : Bystander σ)

namespace Role

variable {σ : Type} [Tracked σ]

def hear : Role σ → Char → σ → σ
  | column => Cursor.hearColumn
  | newline => Cursor.hearNewline
  | bystander b => b.hear

def isColumn : Role σ → Bool
  | column => true
  | _ => false

def isNewline : Role σ → Bool
  | newline => true
  | _ => false

/-- Whether an observer belongs to the tracking of a cursor. -/
def tracks : Role σ → Bool
  | bystander _ => false
  | _ => true

/-- How many observers count columns. -/
def columns (roles : List (Role σ)) : Nat := roles.countP isColumn

/-- How many observers count lines. -/
def newlines (roles : List (Role σ)) : Nat := roles.countP isNewline

/-- How many observers count columns behind the last one that counts lines. -/
def columnsBehind (roles : List (Role σ)) : Nat :=
  columns (roles.rtakeWhile fun r => !r.isNewline)

/-- The observers of a number of complete attachments. -/
def pairs (k : Nat) : List (Role σ) := (List.replicate k [column, newline]).flatten

/-! ### One observer more -/

theorem columns_append (roles more : List (Role σ)) :
    columns (roles ++ more) = columns roles + columns more :=
  List.countP_append

theorem newlines_append (roles more : List (Role σ)) :
    newlines (roles ++ more) = newlines roles + newlines more :=
  List.countP_append

theorem columnsBehind_append_singleton (roles : List (Role σ)) (r : Role σ) :
    columnsBehind (roles ++ [r]) =
      if r.isNewline then 0 else columnsBehind roles + columns [r] := by
  rw [columnsBehind]
  cases h : r.isNewline with
  | true =>
    rw [List.rtakeWhile_concat_neg _ _ _ (by rw [h]; decide)]
    rfl
  | false =>
    rw [List.rtakeWhile_concat_pos _ _ _ (by rw [h]; decide), columns_append]
    rfl

theorem columnsBehind_le (roles : List (Role σ)) : columnsBehind roles ≤ columns roles :=
  (List.rtakeWhile_suffix _ _).sublist.countP_le

/-! ### Complete attachments -/

/-- Bystanders do not count. -/
theorem counts_filter_tracks (roles : List (Role σ)) :
    columns (roles.filter tracks) = columns roles ∧
      newlines (roles.filter tracks) = newlines roles ∧
      columnsBehind (roles.filter tracks) = columnsBehind roles := by
  induction roles using List.reverseRecOn with
  | nil => exact ⟨rfl, rfl, rfl⟩
  | append_singleton roles r ih =>
    obtain ⟨hc, hn, hb⟩ := ih
    rw [List.filter_append, columns_append, newlines_append, columns_append, newlines_append,
      columnsBehind_append_singleton, hc, hn]
    cases r with
    | column =>
      refine ⟨rfl, rfl, ?_⟩
      show columnsBehind (roles.filter tracks ++ [column]) = _
      rw [columnsBehind_append_singleton, hb]
    | newline =>
      refine ⟨rfl, rfl, ?_⟩
      show columnsBehind (roles.filter tracks ++ [newline]) = _
      rw [columnsBehind_append_singleton]
      rfl
    | bystander b =>
      refine ⟨rfl, rfl, ?_⟩
      show columnsBehind (roles.filter tracks ++ []) = _
      rw [List.append_nil, hb]
      rfl

theorem counts_pairs (k : Nat) :
    columns (pairs (σ := σ) k) = k ∧ newlines (pairs (σ := σ) k) = k ∧
      columnsBehind (pairs (σ := σ) k) = 0 := by
  induction k with
  | zero => exact ⟨rfl, rfl, rfl⟩
  | succ k ih =>
    have hpairs : pairs (σ := σ) (k + 1) = pairs k ++ [column] ++ [newline] := by
      rw [pairs, List.replicate_succ', List.flatten_append, ← pairs, List.append_assoc]
      rfl
    obtain ⟨hc, hn, -⟩ := ih
    rw [hpairs, columnsBehind_append_singleton]
    simp only [columns_append, newlines_append, hc, hn]
    exact ⟨rfl, rfl, rfl⟩

theorem counts_of_filter_eq_pairs {roles : List (Role σ)} {k : Nat}
    (h : roles.filter tracks = pairs k) :
    columns roles = k ∧ newlines roles = k ∧ columnsBehind roles = 0 := by
  obtain ⟨hc, hn, hb⟩ := counts_filter_tracks roles
  rw [← hc, ← hn, ← hb, h]
  exact counts_pairs k

end Role

open Role

/-! ### Hearing a character -/

namespace Place

section

variable {σ : Type} [Tracked σ]

/-- The place that one observer moves to from `q` when it hears a character. -/
def heardBy (ch : Char) (q : Place) : Role σ → Place
  | .column => ⟨q.line, q.column + 1⟩
  | .newline => if ch = '\n' then ⟨q.line + 1, 0⟩ else q
  | .bystander _ => q

/-- The place that observers move to from `q` when they hear a character. -/
def heard (roles : List (Role σ)) (q : Place) (ch : Char) : Place :=
  if ch = '\n' ∧ 0 < newlines roles then ⟨q.line + newlines roles, columnsBehind roles⟩
  else ⟨q.line, q.column + columns roles⟩

theorem heard_append_singleton (roles : List (Role σ)) (r : Role σ) (q : Place) (ch : Char) :
    q.heard (roles ++ [r]) ch = (q.heard roles ch).heardBy ch r := by
  rw [heard, newlines_append, columns_append, columnsBehind_append_singleton]
  cases r with
  | column =>
    rw [heardBy, heard]
    show ite (ch = '\n' ∧ 0 < newlines roles) _ _ = _
    split
    · rfl
    · show (⟨q.line, q.column + ((columns roles + 1 : Nat) : Int)⟩ : Place) = _
      rw [Int.natCast_add, ← Int.add_assoc]
      rfl
  | newline =>
    rw [heardBy]
    by_cases hch : ch = '\n'
    · -- the lines of the other newline observers, if there are any
      have hline : (q.heard roles ch).line = q.line + newlines roles := by
        rw [heard]
        split
        · rfl
        · next hn =>
          rw [Nat.eq_zero_of_not_pos fun hpos => hn ⟨hch, hpos⟩]
          rfl
      rw [if_pos ⟨hch, Nat.succ_pos _⟩, if_pos hch, hline]
      rfl
    · rw [if_neg (fun h => hch h.1), if_neg hch, heard, if_neg (fun h => hch h.1)]
      rfl
  | bystander b =>
    rw [heardBy, heard]
    rfl

theorem foldl_heardBy (roles : List (Role σ)) (q : Place) (ch : Char) :
    roles.foldl (heardBy ch) q = q.heard roles ch := by
  induction roles using List.reverseRecOn with
  | nil =>
    rw [heard, if_neg (fun h => absurd h.2 (lt_irrefl 0))]
    show q = ⟨q.line, q.column + 0⟩
    rw [Int.add_zero]
  | append_singleton roles r ih =>
    rw [List.foldl_append, ih, heard_append_singleton]
    rfl

/-- The place behind a text, if the same observers hear all of it. -/
theorem foldl_heard (roles : List (Role σ)) (q : Place) (cs : List Char) :
    cs.foldl (heard roles) q = ⟨q.line + newlines roles * cs.count '\n',
      if '\n' ∈ cs ∧ 0 < newlines roles then
        columnsBehind roles + columns roles * (cs.rtakeWhile (· ≠ '\n')).length
      else q.column + columns roles * cs.length⟩ := by
  induction cs using List.reverseRecOn with
  | nil => simp
  | append_singleton cs ch ih =>
    rw [List.foldl_append, ih, List.foldl_cons, List.foldl_nil, heard]
    by_cases hch : ch = '\n'
    · subst hch
      by_cases hn : 0 < newlines roles
      · simp [hn, Nat.mul_add, Nat.add_assoc]
      · simp [Nat.eq_zero_of_not_pos hn, Int.mul_add, Int.add_assoc]
    · have htail : (cs ++ [ch]).rtakeWhile (· ≠ '\n') = cs.rtakeWhile (· ≠ '\n') ++ [ch] :=
        List.rtakeWhile_concat_pos _ _ _ (by simpa using hch)
      rw [htail, if_neg fun h => hch h.1]
      -- the last newline, if one is heard, stays where it is
      by_cases hm : '\n' ∈ cs ∧ 0 < newlines roles
      · simp [hm, hch, Int.mul_add, Int.add_assoc]
      · simp [hm, hch, Ne.symm hch, Int.mul_add, Int.add_assoc]

theorem neg_le_column_heardBy {q : Place} (h : -2 ^ 31 ≤ q.column) (ch : Char) (r : Role σ) :
    -2 ^ 31 ≤ (q.heardBy ch r).column := by
  cases r with
  | column =>
    show -2 ^ 31 ≤ q.column + 1
    omega
  | newline =>
    rw [heardBy]
    split
    · show (-2 ^ 31 : Int) ≤ 0
      omega
    · exact h
  | bystander b => exact h

theorem neg_le_column_heard (roles : List (Role σ)) {q : Place} (h : -2 ^ 31 ≤ q.column)
    (ch : Char) : -2 ^ 31 ≤ (q.heard roles ch).column := by
  rw [← foldl_heardBy]
  induction roles generalizing q with
  | nil => exact h
  | cons r roles ih => exact ih (neg_le_column_heardBy h ch r)

theorem neg_le_column_foldl_heard (roles : List (Role σ)) {q : Place} (h : -2 ^ 31 ≤ q.column)
    (cs : List Char) : -2 ^ 31 ≤ (cs.foldl (heard roles) q).column := by
  induction cs generalizing q with
  | nil => exact h
  | cons ch cs ih => exact ih (neg_le_column_heard roles h ch)

/-- One complete attachment moves a place past every character. -/
theorem heard_eq_next {roles : List (Role σ)} (hc : columns roles = 1) (hn : newlines roles = 1)
    (hb : columnsBehind roles = 0) : heard roles = next := by
  funext q ch
  rw [heard, next, hc, hn, hb]
  by_cases hch : ch = '\n'
  · rw [if_pos ⟨hch, Nat.one_pos⟩, if_pos hch]
    rfl
  · rw [if_neg (fun h => hch h.1), if_neg hch]
    rfl

end

end Place

section

variable {σ : Type} [Tracked σ]

theorem position_hear_role (r : Role σ) (ch : Char) {s : σ} {q : Place}
    (hq : Tracked.position s = q.position) (h : -2 ^ 31 ≤ q.column) :
    Tracked.position (r.hear ch s) = (q.heardBy ch r).position := by
  cases r with
  | column =>
    rw [hear, Cursor.hearColumn, Tracked.position_move, hq]
    exact (Place.position_next h 'a').symm
  | newline =>
    rw [hear, Cursor.hearNewline, Place.heardBy]
    by_cases hch : ch = '\n'
    · rw [if_pos hch, if_pos hch, Tracked.position_move, hq]
      exact (Place.position_next h '\n').symm
    · rw [if_neg hch, if_neg hch]
      exact hq
  | bystander b =>
    rw [hear, b.position_hear]
    exact hq

/-- What observers make of the position, each of them clamping it, is what they make of a place
that is clamped at the end. -/
theorem position_hear_roles (roles : List (Role σ)) (ch : Char) {s : σ} {q : Place}
    (hq : Tracked.position s = q.position) (h : -2 ^ 31 ≤ q.column) :
    Tracked.position (roles.foldl (fun s r => r.hear ch s) s) = (q.heard roles ch).position := by
  rw [← Place.foldl_heardBy]
  induction roles generalizing s q with
  | nil => exact hq
  | cons r roles ih =>
    exact ih (position_hear_role r ch hq h) (Place.neg_le_column_heardBy h ch r)

end

/-! ### Steps -/

/-- Operations do the same to cursors that differ in nothing but their state. -/
theorem Cursor.run_of_eq_but_state {α σ : Type} (c : Cursor α σ) (s : σ)
    (ops : List (Operation α σ)) :
    ∃ t, ({ c with state := s } : Cursor α σ).run ops = { c.run ops with state := t } := by
  induction ops generalizing c s with
  | nil => exact ⟨s, rfl⟩
  | cons op ops ih =>
    obtain ⟨t, ht⟩ : ∃ t, (({ c with state := s } : Cursor α σ).perform op).2 =
        { (c.perform op).2 with state := t } := by
      cases op with
      | consume => rw [perform, perform, consume_eq, consume_eq]; exact ⟨_, rfl⟩
      | _ => exact ⟨s, rfl⟩
    obtain ⟨t', ht'⟩ := ih (c.perform op).2 t
    refine ⟨t', ?_⟩
    rw [← ht] at ht'
    exact ht'

/-- What can be done with a tracked cursor and with its position. -/
inductive TrackedStep (σ : Type) [Tracked σ] where
  /-- Tracks the cursor once more. -/
  | track
  /-- Registers another observer. -/
  | observe (b : Bystander σ)
  /-- Moves the position from outside. -/
  | move (m : Position.Move)
  /-- Does anything else with the cursor: consumes, looks or removes an observer. -/
  | operate (op : Operation Char σ) (h : op.registered? = none)

section

variable {σ : Type} [Tracked σ]

namespace TrackedStep

/-- What a step does with the cursor. -/
def operations : TrackedStep σ → List (Operation Char σ)
  | track => [.register Cursor.hearColumn, .register Cursor.hearNewline]
  | observe b => [.register b.hear]
  | move _ => []
  | operate op _ => [op]

/-- What the observers that a step registers are there for. -/
def roles : TrackedStep σ → List (Role σ)
  | track => [.column, .newline]
  | observe b => [.bystander b]
  | move _ => []
  | operate _ _ => []

theorem filterMap_registered? (step : TrackedStep σ) :
    step.operations.filterMap Operation.registered? = step.roles.map Role.hear := by
  cases step with
  | track => rfl
  | observe b => rfl
  | move m => rfl
  | operate op h =>
    show [op].filterMap _ = []
    rw [List.filterMap_cons_none h, List.filterMap_nil]

theorem two_mul_columns_le (step : TrackedStep σ) : 2 * columns step.roles ≤ step.roles.length := by
  cases step with
  | track => exact le_rfl
  | _ => exact Nat.zero_le _

end TrackedStep

/-- What some steps have done with the cursor. -/
def pastOf (steps : List (TrackedStep σ)) : List (Operation Char σ) :=
  steps.flatMap TrackedStep.operations

/-- What the observers that some steps have registered are there for, in the order of their
handles. -/
def rolesOf (steps : List (TrackedStep σ)) : List (Role σ) := steps.flatMap TrackedStep.roles

/-- What the observers that have not been removed since are there for. -/
def liveRoles (steps : List (TrackedStep σ)) : List (Role σ) :=
  ((rolesOf steps).zipIdx.filter fun r => !isRemoved (pastOf steps) r.2).map Prod.fst

theorem registered_pastOf (steps : List (TrackedStep σ)) :
    registered (pastOf steps) = (rolesOf steps).zipIdx.map fun r => ⟨r.2, r.1.hear⟩ := by
  have hears : (pastOf steps).filterMap Operation.registered? = (rolesOf steps).map Role.hear := by
    rw [pastOf, List.filterMap_flatMap, rolesOf, List.map_flatMap]
    simp only [TrackedStep.filterMap_registered?]
  rw [registered, hears, List.mapIdx_eq_zipIdx_map, List.zipIdx_map, List.map_map]
  rfl

theorem map_hear_live (steps : List (TrackedStep σ)) :
    (live (pastOf steps)).map Observer.hear = (liveRoles steps).map Role.hear := by
  rw [live, registered_pastOf, List.filter_map, List.map_map, liveRoles, List.map_map]
  rfl

theorem length_registered_pastOf (steps : List (TrackedStep σ)) :
    (registered (pastOf steps)).length = (rolesOf steps).length := by
  rw [registered_pastOf, List.length_map, List.length_zipIdx]

/-- Every column observer has been registered together with a newline observer. -/
theorem two_mul_columns_liveRoles_le (steps : List (TrackedStep σ)) :
    2 * columns (liveRoles steps) ≤ (rolesOf steps).length := by
  have hlive : (liveRoles steps).Sublist (rolesOf steps) := by
    have := (List.filter_sublist (l := (rolesOf steps).zipIdx)
      (p := fun r => !isRemoved (pastOf steps) r.2)).map Prod.fst
    rwa [List.zipIdx_map_fst] at this
  have hcolumns : columns (liveRoles steps) ≤ columns (rolesOf steps) := hlive.countP_le
  have hall : 2 * columns (rolesOf steps) ≤ (rolesOf steps).length := by
    clear hlive hcolumns
    induction steps with
    | nil => exact le_rfl
    | cons step steps ih =>
      have := step.two_mul_columns_le
      rw [rolesOf, List.flatMap_cons, columns_append, List.length_append, ← rolesOf]
      omega
  omega

namespace Cursor

/-- Takes a step. -/
def takeStep (c : Cursor Char σ) : TrackedStep σ → Cursor Char σ
  | .track => c.track
  | .observe b => (c.register b.hear).2
  | .move m => { c with state := Tracked.move (·.moved m) c.state }
  | .operate op _ => (c.perform op).2

/-- The cursor after some steps. -/
def takeSteps (c : Cursor Char σ) (steps : List (TrackedStep σ)) : Cursor Char σ :=
  steps.foldl takeStep c

/-- A step is a run of operations, but for the state. -/
theorem takeStep_eq_run (c : Cursor Char σ) (step : TrackedStep σ) :
    ∃ t, c.takeStep step = { c.run step.operations with state := t } := by
  cases step with
  | track => exact ⟨c.state, rfl⟩
  | observe b => exact ⟨c.state, rfl⟩
  | move m => exact ⟨Tracked.move (·.moved m) c.state, rfl⟩
  | operate op h => exact ⟨(c.perform op).2.state, rfl⟩

/-- Whether a cursor over `elements` is, but for its state, what the history of some steps tells. -/
def HasPast (elements : Array Char) (steps : List (TrackedStep σ)) (c : Cursor Char σ) : Prop :=
  ∃ s t, c = { after elements s (pastOf steps) with state := t }

section

variable {elements : Array Char} {steps : List (TrackedStep σ)} {c : Cursor Char σ}

theorem hasPast_ofArray (elements : Array Char) (s : σ) :
    (ofArray elements s).HasPast elements [] :=
  ⟨s, s, rfl⟩

theorem HasPast.withState (h : c.HasPast elements steps) (t : σ) :
    ({ c with state := t } : Cursor Char σ).HasPast elements steps := by
  obtain ⟨s, t', rfl⟩ := h
  exact ⟨s, t, rfl⟩

theorem HasPast.takeStep (h : c.HasPast elements steps) (step : TrackedStep σ) :
    (c.takeStep step).HasPast elements (steps ++ [step]) := by
  obtain ⟨s, t, rfl⟩ := h
  obtain ⟨u, hu⟩ := takeStep_eq_run { after elements s (pastOf steps) with state := t } step
  obtain ⟨v, hv⟩ := run_of_eq_but_state (after elements s (pastOf steps)) t step.operations
  have hafter : (after elements s (pastOf steps)).run step.operations =
      after elements s (pastOf (steps ++ [step])) := by
    rw [← run_eq_after, ← run_append, run_eq_after, pastOf, pastOf, List.flatMap_append,
      List.flatMap_singleton]
  exact ⟨s, u, by rw [hu, hv, hafter]⟩

theorem HasPast.takeSteps (h : c.HasPast elements steps) (more : List (TrackedStep σ)) :
    (c.takeSteps more).HasPast elements (steps ++ more) := by
  induction more generalizing c steps with
  | nil =>
    rw [List.append_nil]
    exact h
  | cons step more ih =>
    rw [List.append_cons]
    exact ih (h.takeStep step)

end

/-! ### Consuming -/

section

variable {c : Cursor Char σ} {roles : List (Role σ)}

theorem position_consume_of_none (h : c.peek 1 = none) : c.consume.2.position = c.position := by
  rw [position, state_consume, ← peek_one_eq_head?, h]
  rfl

theorem position_consume_of_some (hc : c.observers.map Observer.hear = roles.map Role.hear)
    {q : Place} (hq : c.position = q.position) (h : -2 ^ 31 ≤ q.column) {ch : Char}
    (hch : c.peek 1 = some ch) : c.consume.2.position = (q.heard roles ch).position := by
  have hfold : c.observers.foldl (fun s o => o.hear ch s) c.state =
      roles.foldl (fun s r => r.hear ch s) c.state := by
    have := congrArg (List.foldl (fun s hear => hear ch s) c.state) hc
    rwa [List.foldl_map, List.foldl_map] at this
  rw [position, state_consume, ← peek_one_eq_head?, hch]
  simp only
  rw [hfold]
  exact position_hear_roles roles ch hq h

/-- Consuming a text moves the position by what the live observers make of every character. -/
theorem position_consumeMany_of_roles (hc : c.observers.map Observer.hear = roles.map Role.hear)
    {q : Place} (hq : c.position = q.position) (h : -2 ^ 31 ≤ q.column) (n : Nat) :
    (consumeMany n c).position = ((c.rest.take n).foldl (Place.heard roles) q).position := by
  induction n generalizing c q with
  | zero => exact hq
  | succ n ih =>
    have hc' : c.consume.2.observers.map Observer.hear = roles.map Role.hear := by
      rw [observers_consume, hc]
    have hrest := rest_consume c
    cases hr : c.rest with
    | nil =>
      have hnone : c.peek 1 = none := by rw [peek_one_eq_head?, hr, List.head?_nil]
      rw [hr, List.tail_nil] at hrest
      rw [consumeMany, ih hc' ((position_consume_of_none hnone).trans hq) h, hrest, List.take_nil,
        List.take_nil]
    | cons ch cs =>
      have hsome : c.peek 1 = some ch := by rw [peek_one_eq_head?, hr, List.head?_cons]
      rw [hr, List.tail_cons] at hrest
      rw [consumeMany, ih hc' (position_consume_of_some hc hq h hsome)
        (Place.neg_le_column_heard roles h ch), hrest, List.take_succ_cons, List.foldl_cons]

end

/-- What steps and texts do to the position of a cursor whose live observers are there for
`live`. -/
structure FollowsObservers (live : List (Role σ)) (c : Cursor Char σ) : Prop where
  observers : c.observers.map Observer.hear = live.map Role.hear
  /-- To track is to register a column observer and behind it a newline observer. -/
  track : c.track.observers =
    c.observers ++ [⟨c.issued, hearColumn⟩, ⟨c.issued + 1, hearNewline⟩]
  /-- What consumes no element leaves the position, but for moves from outside. -/
  stays : (c.takeStep .track).position = c.position ∧
    (∀ b, (c.takeStep (.observe b)).position = c.position) ∧
    (∀ op h, op.isConsume = false → (c.takeStep (.operate op h)).position = c.position) ∧
    (c.peek 1 = none → c.consume.2.position = c.position)
  moves : ∀ m, (c.takeStep (.move m)).position = c.position.moved m
  /-- A character that no newline observer cares for counts once for each column observer. -/
  column : ∀ ch, c.peek 1 = some ch → ch ≠ '\n' ∨ newlines live = 0 →
    c.consume.2.position.line = c.position.line ∧
    c.consume.2.position.column.toInt =
      min (c.position.column.toInt + columns live) (2 ^ 31 - 1)
  /-- A newline counts once for each newline observer, and the columns start again behind the
  last of them. -/
  newline : c.peek 1 = some '\n' → 0 < newlines live →
    c.consume.2.position.line.toNat =
      min (c.position.line.toNat + newlines live) (2 ^ 32 - 1) ∧
    c.consume.2.position.column.toInt = min (columnsBehind live : Int) (2 ^ 31 - 1)
  /-- As long as there are handles for the observers, there are columns for them. -/
  columnsFit : c.issued < 2 ^ 32 → (columnsBehind live : Int) ≤ 2 ^ 31 - 1
  /-- Complete attachments count every character as often as there are attachments. -/
  complete : ∀ k, 0 < k → live.filter tracks = pairs k → ∀ n,
    (consumeMany n c).position.line.toNat =
      min (c.position.line.toNat + k * (c.rest.take n).count '\n') (2 ^ 32 - 1) ∧
    (consumeMany n c).position.column.toInt =
      min (if '\n' ∈ c.rest.take n then
          (k : Int) * ((c.rest.take n).rtakeWhile (· ≠ '\n')).length
        else c.position.column.toInt + k * (c.rest.take n).length) (2 ^ 31 - 1)
  /-- One complete attachment moves the position past what is consumed. -/
  single : live.filter tracks = pairs 1 → ∀ n,
    (consumeMany n c).position = c.position.pastAll (c.rest.take n)

theorem followsObservers {live : List (Role σ)} {c : Cursor Char σ}
    (hc : c.observers.map Observer.hear = live.map Role.hear)
    (hissued : 2 * columns live ≤ c.issued) : c.FollowsObservers live := by
  have hplace : c.position = c.position.place.position := (Place.position_place _).symm
  have hcolumn : -2 ^ 31 ≤ c.position.place.column := Int32.le_toInt _
  have htext := position_consumeMany_of_roles hc hplace hcolumn
  refine ⟨hc, ?_, ⟨rfl, fun b => rfl, ?_, position_consume_of_none⟩, ?_, ?_, ?_, ?_, ?_, ?_⟩
  · exact List.append_assoc _ _ _
  · intro op h hop
    cases op with
    | consume => cases hop
    | _ => rfl
  · intro m
    exact Tracked.position_move _ _
  · intro ch hch hno
    have hheard : c.position.place.heard live ch =
        ⟨c.position.place.line, c.position.place.column + columns live⟩ := by
      rw [Place.heard, if_neg]
      rintro ⟨h, hpos⟩
      rcases hno with hne | hzero
      · exact hne h
      · omega
    rw [position_consume_of_some hc hplace hcolumn hch, hheard]
    have hlow : -2 ^ 31 ≤ c.position.place.column + (columns live : Int) := by omega
    exact ⟨UInt32.ofNatClamp_toNat _, Place.column_position hlow⟩
  · intro hch hpos
    rw [position_consume_of_some hc hplace hcolumn hch, Place.heard, if_pos ⟨rfl, hpos⟩]
    refine ⟨Place.line_position _, Place.column_position ?_⟩
    show (-2 ^ 31 : Int) ≤ (columnsBehind live : Int)
    omega
  · intro h
    have := columnsBehind_le live
    omega
  · intro k hk hpairs n
    obtain ⟨hcolumns, hnewlines, hbehind⟩ := counts_of_filter_eq_pairs hpairs
    have hlow := Place.neg_le_column_foldl_heard live hcolumn (c.rest.take n)
    rw [htext n]
    rw [Place.foldl_heard, hcolumns, hnewlines, hbehind] at hlow ⊢
    refine ⟨Place.line_position _, (Place.column_position hlow).trans ?_⟩
    simp only [hk, and_true, Nat.cast_zero, Int.zero_add]
    rfl
  · intro hpairs n
    obtain ⟨hcolumns, hnewlines, hbehind⟩ := counts_of_filter_eq_pairs hpairs
    rw [htext n, Place.heard_eq_next hcolumns hnewlines hbehind]
    exact (Place.position_after hcolumn _).trans (by rw [Place.position_place])

/-- A cursor follows those observers that its steps have registered and not removed. -/
theorem HasPast.followsObservers {elements : Array Char} {steps : List (TrackedStep σ)}
    {c : Cursor Char σ} (h : c.HasPast elements steps) :
    c.FollowsObservers (liveRoles steps) := by
  obtain ⟨s, t, rfl⟩ := h
  refine Cursor.followsObservers (map_hear_live steps) ?_
  show _ ≤ (registered (pastOf steps)).length
  rw [length_registered_pastOf]
  exact two_mul_columns_liveRoles_le steps

end Cursor

/-- **A position follows the live observers of its cursor** through any steps and from any state:
lookahead and the end of the sequence leave it, and each character that is consumed moves it by
what those observers are there for that have been registered and not been removed. -/
theorem position_follows_live_observers (elements : Array Char) (s : σ)
    (steps : List (TrackedStep σ)) :
    ((Cursor.ofArray elements s).takeSteps steps).FollowsObservers (liveRoles steps) :=
  ((Cursor.hasPast_ofArray elements s).takeSteps steps).followsObservers

/-- Two attachments with somebody else between them, of which the last newline observer has been
removed: the column observer behind the other one counts the newline too. -/
example : ((Cursor.ofArray #['\n'] (⟨Position.start, []⟩ : Notes Char)).takeSteps
    [.track, .observe (Notes.bystander "seen"), .track, .operate (.remove 4) rfl,
      .operate .consume rfl]).state = ⟨⟨1, 1⟩, [("seen", '\n')]⟩ := by
  rfl

end

end SourceLexer
