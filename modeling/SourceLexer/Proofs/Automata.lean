/-
What sets of characters hold, and which states an automaton is in.

Adding a range to a set joins it with the ranges that it overlaps or touches, and no
character comes in or is lost by that.  The states of an automaton keep their ranks
because none is visited twice; those that are visited are just those that it can go
on to without reading:

* `CharSet.contains_union` and `CharSet.contains_intersection` — sets by their
  characters;
* `Automaton.mem_reach_iff` — the states that are reached without reading;
* `Automaton.isRanked_run` and `Automaton.length_run_le` — hence never more states
  than there are, after any text.
-/
import Mathlib
import SourceLexer.Automaton

namespace SourceLexer

/-! ### Sets of characters -/

namespace CharSet

theorem contains_iff {c : Char} {s : CharSet} :
    contains c s = true ↔ ∃ r ∈ s.ranges, r.1 ≤ c ∧ c ≤ r.2 := by
  simp [contains]

theorem contains_cons {c : Char} {r : Char × Char} {ranges : List (Char × Char)} :
    contains c ⟨r :: ranges⟩ = true ↔ r.1 ≤ c ∧ c ≤ r.2 ∨ contains c ⟨ranges⟩ = true := by
  simp [contains]

theorem earlier_le_iff {a b c : Char} : earlier a b ≤ c ↔ a ≤ c ∨ b ≤ c := by
  rw [earlier, ← min_def, min_le_iff]

theorem le_later_iff {a b c : Char} : c ≤ later a b ↔ c ≤ a ∨ c ≤ b := by
  rw [later, ← max_def, le_max_iff]

/-- Ranges that overlap or touch are joined without a character more. -/
theorem mem_join_iff {first last a b c : Char} (hl : ¬ last.toNat + 1 < a.toNat)
    (hr : ¬ b.toNat + 1 < first.toNat) :
    earlier first a ≤ c ∧ c ≤ later last b ↔ first ≤ c ∧ c ≤ last ∨ a ≤ c ∧ c ≤ b := by
  have hle : ∀ d e : Char, d ≤ e ↔ d.toNat ≤ e.toNat := fun _ _ => Iff.rfl
  rw [earlier_le_iff, le_later_iff]
  simp only [hle]
  omega

/-- Adding a range adds its characters and no others. -/
theorem contains_insert {first last c : Char} {ranges : List (Char × Char)} :
    contains c ⟨insert first last ranges⟩ = true ↔
      first ≤ c ∧ c ≤ last ∨ contains c ⟨ranges⟩ = true := by
  induction ranges generalizing first last with
  | nil => simp [insert, contains_iff]
  | cons r rest ih =>
    rw [insert]
    split
    · exact contains_cons
    · next hl =>
      split
      · rw [contains_cons, contains_cons, ih, or_left_comm]
      · next hr => rw [ih, mem_join_iff hl hr, contains_cons, or_assoc]

/-- Adding ranges one after the other adds the characters of all. -/
theorem contains_foldl_insert {c : Char} {ranges more : List (Char × Char)} :
    contains c ⟨more.foldl (fun rs r => insert r.1 r.2 rs) ranges⟩ = true ↔
      contains c ⟨ranges⟩ = true ∨ contains c ⟨more⟩ = true := by
  induction more generalizing ranges with
  | nil => simp [contains_iff]
  | cons r more ih =>
    rw [List.foldl_cons, ih, contains_insert, contains_cons, or_assoc, or_left_comm]

theorem contains_ofRanges {c : Char} {ranges : List (Char × Char)} :
    contains c (ofRanges ranges) = true ↔ ∃ r ∈ ranges, r.1 ≤ c ∧ c ≤ r.2 := by
  rw [ofRanges, contains_foldl_insert, contains_iff, contains_iff]
  simp

theorem contains_union {c : Char} {s t : CharSet} :
    contains c (union s t) = true ↔ contains c s = true ∨ contains c t = true :=
  contains_foldl_insert

theorem contains_intersection {c : Char} {s t : CharSet} :
    contains c (intersection s t) = true ↔ contains c s = true ∧ contains c t = true := by
  have hboth : ∀ r q : Char × Char, later r.1 q.1 ≤ c ∧ c ≤ earlier r.2 q.2 ↔
      (r.1 ≤ c ∧ c ≤ r.2) ∧ q.1 ≤ c ∧ c ≤ q.2 := by
    intro r q
    rw [later, earlier, ← max_def, ← min_def, max_le_iff, le_min_iff]
    exact and_and_and_comm
  rw [contains_iff, contains_iff, contains_iff, intersection]
  simp only [List.mem_flatMap, List.mem_filter, List.mem_map, decide_eq_true_iff]
  constructor
  · rintro ⟨_, ⟨r, hr, ⟨q, hq, rfl⟩, -⟩, hc⟩
    obtain ⟨hcr, hcq⟩ := (hboth r q).mp hc
    exact ⟨⟨r, hr, hcr⟩, q, hq, hcq⟩
  · rintro ⟨⟨r, hr, hcr⟩, q, hq, hcq⟩
    have hc := (hboth r q).mpr ⟨hcr, hcq⟩
    exact ⟨_, ⟨r, hr, ⟨q, hq, rfl⟩, hc.1.trans hc.2⟩, hc⟩

end CharSet

/-! ### States that are reached -/

namespace Automaton

/-- Whether the automaton goes on from one state to another without reading, by the tests that are
passed. -/
def GoesOn (a : Automaton) (passes : PlaceTest → Bool) : Nat → Nat → Prop :=
  Relation.ReflTransGen fun i j => j ∈ a.onward passes i

variable {a : Automaton} {passes : PlaceTest → Bool} {unreached states : List Nat}

/-- No state is reached twice, nor one that is not to be. -/
theorem nodup_reached (h : unreached.Nodup) : (a.reached passes unreached states).Nodup ∧
    ∀ i ∈ a.reached passes unreached states, i ∈ unreached := by
  induction unreached, states using reached.induct a passes with
  | case1 unreached =>
    rw [reached]
    exact ⟨List.nodup_nil, fun i hi => absurd hi List.not_mem_nil⟩
  | case2 unreached i rest hi _ ih =>
    obtain ⟨hnodup, hmem⟩ := ih (h.erase i)
    rw [reached, dif_pos hi]
    refine ⟨List.nodup_cons.mpr ⟨fun h' => ?_, hnodup⟩, ?_⟩
    · exact (h.mem_erase_iff.mp (hmem i h')).1 rfl
    · exact List.forall_mem_cons.mpr ⟨hi, fun j hj => List.mem_of_mem_erase (hmem j hj)⟩
  | case3 unreached i rest hi ih =>
    rw [reached, dif_neg hi]
    exact ih h

/-- The given states are reached, if they are to be. -/
theorem mem_reached_of_mem {i : Nat} (hi : i ∈ states) (h : i ∈ unreached) :
    i ∈ a.reached passes unreached states := by
  induction unreached, states using reached.induct a passes with
  | case1 unreached => exact absurd hi List.not_mem_nil
  | case2 unreached j rest hj _ ih =>
    rw [reached, dif_pos hj]
    by_cases hij : i = j
    · exact hij ▸ List.mem_cons_self
    · have hrest : i ∈ rest := (List.mem_cons.mp hi).resolve_left hij
      exact List.mem_cons_of_mem _
        (ih (List.mem_append_right _ hrest) ((List.mem_erase_of_ne hij).mpr h))
  | case3 unreached j rest hj ih =>
    rw [reached, dif_neg hj]
    exact ih ((List.mem_cons.mp hi).resolve_left fun hij => hj (hij ▸ h)) h

/-- What goes on from a state that is reached is reached as well. -/
theorem mem_reached_of_onward {i j : Nat} (hi : i ∈ a.reached passes unreached states)
    (hj : j ∈ a.onward passes i) (h : j ∈ unreached) :
    j ∈ a.reached passes unreached states := by
  induction unreached, states using reached.induct a passes with
  | case1 unreached =>
    rw [reached] at hi
    exact absurd hi List.not_mem_nil
  | case2 unreached k rest hk _ ih =>
    rw [reached, dif_pos hk] at hi ⊢
    by_cases hjk : j = k
    · exact hjk ▸ List.mem_cons_self
    · have h' := (List.mem_erase_of_ne hjk).mpr h
      refine List.mem_cons_of_mem _ ?_
      rcases List.mem_cons.mp hi with rfl | hi
      · exact mem_reached_of_mem (List.mem_append_left _ hj) h'
      · exact ih hi h'
  | case3 unreached k rest hk ih =>
    rw [reached, dif_neg hk] at hi ⊢
    exact ih hi h

/-- What is reached is gone on to from one of the given states. -/
theorem exists_goesOn_of_mem_reached {j : Nat} (h : j ∈ a.reached passes unreached states) :
    ∃ i ∈ states, a.GoesOn passes i j := by
  induction unreached, states using reached.induct a passes with
  | case1 unreached =>
    rw [reached] at h
    exact absurd h List.not_mem_nil
  | case2 unreached k rest hk _ ih =>
    rw [reached, dif_pos hk] at h
    rcases List.mem_cons.mp h with rfl | h
    · exact ⟨j, List.mem_cons_self, .refl⟩
    · obtain ⟨i, hi, hij⟩ := ih h
      rcases List.mem_append.mp hi with hi | hi
      · exact ⟨k, List.mem_cons_self, .head hi hij⟩
      · exact ⟨i, List.mem_cons_of_mem _ hi, hij⟩
  | case3 unreached k rest hk ih =>
    rw [reached, dif_neg hk] at h
    obtain ⟨i, hi, hij⟩ := ih h
    exact ⟨i, List.mem_cons_of_mem _ hi, hij⟩

/-- Only states that are there go on. -/
theorem lt_of_onward {i j : Nat} (h : j ∈ a.onward passes i) : i < a.states.size := by
  rw [onward] at h
  by_contra hi
  rw [Array.getElem?_eq_none (Nat.le_of_not_lt hi)] at h
  exact absurd h List.not_mem_nil

/-- **The states that are reached** are those of the automaton that it goes on to from the given
ones without reading. -/
theorem mem_reach_iff {j : Nat} : j ∈ a.reach passes states ↔
    j < a.states.size ∧ ∃ i ∈ states, a.GoesOn passes i j := by
  rw [reach]
  constructor
  · intro h
    exact ⟨List.mem_range.mp ((nodup_reached List.nodup_range).2 j h),
      exists_goesOn_of_mem_reached h⟩
  · rintro ⟨hj, i, hi, hij⟩
    induction hij with
    | refl => exact mem_reached_of_mem hi (List.mem_range.mpr hj)
    | tail _ hlast ih =>
      exact mem_reached_of_onward (ih (lt_of_onward hlast)) hlast (List.mem_range.mpr hj)

/-! ### States along a text -/

/-- Whether states of an automaton can be told apart by their places in a list. -/
def IsRanked (a : Automaton) (states : List Nat) : Prop :=
  states.Nodup ∧ ∀ i ∈ states, i < a.states.size

theorem isRanked_reach (a : Automaton) (passes : PlaceTest → Bool) (states : List Nat) :
    a.IsRanked (a.reach passes states) :=
  ⟨(nodup_reached List.nodup_range).1, fun _ hi => (mem_reach_iff.mp hi).1⟩

theorem isRanked_enter (a : Automaton) (before : Option Char) (targets : List Nat) :
    a.IsRanked (a.enter before targets) := by
  obtain ⟨hnodup, hlt⟩ := isRanked_reach a (·.holdsAnyway before) targets
  exact ⟨hnodup.filter _, fun i hi => hlt i (List.mem_of_mem_filter hi)⟩

theorem IsRanked.look (h : a.IsRanked states) (before after : Option Char) :
    a.IsRanked (a.look before after states) := by
  rw [Automaton.look]
  split
  · exact isRanked_reach _ _ _
  · exact h

/-- After any text the states are ranked as they were before it. -/
theorem isRanked_run (h : a.IsRanked states) (before : Option Char) (text : List Char) :
    a.IsRanked (a.run before states text) := by
  induction text generalizing before states with
  | nil => exact h.look before none
  | cons c cs ih => exact ih (isRanked_enter a _ _) _

/-- **An automaton is never in more states than it has**, after any text. -/
theorem length_run_le (before : Option Char) (targets : List Nat) (text : List Char) :
    (a.run before (a.enter before targets) text).length ≤ a.states.size := by
  obtain ⟨hnodup, hlt⟩ := isRanked_run (isRanked_enter a before targets) before text
  have hsubset : a.run before (a.enter before targets) text ⊆ List.range a.states.size :=
    fun i hi => List.mem_range.mpr (hlt i hi)
  simpa using (hnodup.subperm hsubset).length_le

end Automaton

end SourceLexer
