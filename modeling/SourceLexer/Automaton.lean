/-
Automata that look for a pattern in a text.

An automaton for a pattern has a state for every place in the pattern.  It is in
several states at once, the one whose match is preferred first.  A state that is
reached in two ways keeps the better rank, and the other way ends there: one more
pass through a loop and one more through a loop around it are the same if they come
to the same state.

The search begins again before every unit of a text, which is a byte of it; a match
that is complete ends all searches that are less preferred.  `Pattern.endsWith` asks
whether the match found in this way reaches the end of the text.
-/
import SourceLexer.Pattern

namespace SourceLexer

/-- What an automaton does in a state. -/
inductive Automaton.State where
  /-- It reads a character of a set. -/
  | read (set : CharSet) (next : Nat)
  /-- It goes on at a place that passes a test. -/
  | place (test : PlaceTest) (next : Nat)
  /-- It goes on in one of two states, the first one preferred. -/
  | branch (first second : Nat)
  /-- It reads any unit. -/
  | skip (next : Nat)
  /-- The pattern is complete. -/
  | done

/-- An automaton: its states, by number, and the one in which it starts. -/
structure Automaton where
  states : Array Automaton.State
  start : Nat

namespace Automaton

/-- A branch of which the first way is preferred if it is greedy, and else the second. -/
def choice (isGreedy : Bool) (again next : Nat) : State :=
  if isGreedy then .branch again next else .branch next again

/-- Adds a state; the automaton starts in it. -/
def add (a : Automaton) (s : State) : Automaton := ⟨a.states.push s, a.states.size⟩

/-- Adds the states of a pattern, behind which the automaton goes on as before. -/
def addPattern (a : Automaton) : Pattern → Automaton
  | .empty => a
  | .literal cs => cs.foldr (fun c a => a.add (.read (.single c) a.start)) a
  | .one set _ => a.add (.read set a.start)
  | .place test => a.add (.place test a.start)
  | .seq p q => (a.addPattern q).addPattern p
  | .either p q =>
    let b := a.addPattern q
    let c := addPattern ⟨b.states, a.start⟩ p
    c.add (.branch c.start b.start)
  | .repeated .atMostOnce isGreedy p =>
    let b := a.addPattern p
    b.add (choice isGreedy b.start a.start)
  | .repeated times isGreedy p =>
    -- the state behind the pattern is there before the pattern, which leads to it
    let behind := a.states.size
    let b := (a.add .done).addPattern p
    let states := b.states.setIfInBounds behind (choice isGreedy b.start a.start)
    if times = .atLeastOnce then ⟨states, b.start⟩
    else if p.least?.any (0 < ·) then ⟨states, behind⟩
    else add ⟨states, b.start⟩ (choice isGreedy b.start a.start)
  | .group _ p => a.addPattern p

/-- The automaton that looks for a pattern from every unit of a text on. -/
def search (p : Pattern) : Automaton :=
  let a := addPattern ⟨#[.done, .skip 2, .done], 0⟩ p
  ⟨a.states.setIfInBounds 2 (.branch a.start 1), 2⟩

/-- The states in which an automaton goes on without reading, where `passes` are the tests that the
place passes. -/
def onward (a : Automaton) (passes : PlaceTest → Bool) (i : Nat) : List Nat :=
  match a.states[i]? with
  | some (.branch first second) => [first, second]
  | some (.place test next) => if passes test then [next] else []
  | _ => []

/-- The states that are reached without reading, from one given state after the other; of the states
in `unreached` each is reached once. -/
def reached (a : Automaton) (passes : PlaceTest → Bool) (unreached : List Nat) :
    List Nat → List Nat
  | [] => []
  | i :: rest =>
    if h : i ∈ unreached then
      have : (unreached.erase i).length < unreached.length := by
        rw [List.length_erase_of_mem h]
        exact Nat.sub_one_lt (Nat.ne_of_gt (List.length_pos_of_mem h))
      i :: a.reached passes (unreached.erase i) (a.onward passes i ++ rest)
    else a.reached passes unreached rest
termination_by rest => (unreached.length, rest.length)

/-- The states that are reached without reading, by the tests that a place passes. -/
def reach (a : Automaton) (passes : PlaceTest → Bool) (states : List Nat) : List Nat :=
  a.reached passes (List.range a.states.size) states

/-- Whether the automaton is not in a state, but only goes on from it. -/
def isBranch (a : Automaton) (i : Nat) : Bool :=
  match a.states[i]? with
  | some (.branch _ _) => true
  | _ => false

/-- Whether the pattern is complete in a state. -/
def isDone (a : Automaton) (i : Nat) : Bool :=
  match a.states[i]? with
  | some .done => true
  | _ => false

/-- The states that the automaton is in when it is led to some others, as far as the character
behind the place has no say in it. -/
def enter (a : Automaton) (before : Option Char) (targets : List Nat) : List Nat :=
  (a.reach (·.holdsAnyway before) targets).filter (!a.isBranch ·)

/-- Whether a state waits for the character behind a place and goes on with the one there is. -/
def isReleased (a : Automaton) (before after : Option Char) (i : Nat) : Bool :=
  match a.states[i]? with
  | some (.place test _) => test.holds before after && !test.holdsAnyway before
  | _ => false

/-- The states that the automaton is in once it sees the character behind the place. -/
def look (a : Automaton) (before after : Option Char) (states : List Nat) : List Nat :=
  if states.any (a.isReleased before after) then a.reach (·.holds before after) states else states

/-- Whether a search that begins inside the character `c`, between two of its units, is complete
there.  No word and no line has an end inside a character. -/
def isDoneInside (a : Automaton) (c : Char) : Bool :=
  1 < c.utf8Size && (a.reach (·.holds (some c) (some c)) [a.start]).any a.isDone

/-- The states that some states lead to with the character `c`; those behind a complete match lead
nowhere. -/
def targets (a : Automaton) (c : Char) (states : List Nat) : List Nat :=
  (states.takeWhile (!a.isDone ·)).filterMap fun (i : Nat) =>
    match a.states[i]? with
    | some (.read set next) => if set.contains c then some next else none
    | some (.skip next) => if a.isDoneInside c then none else some next
    | _ => none

/-- The states that the automaton is in at the end of a text. -/
def run (a : Automaton) (before : Option Char) (states : List Nat) : List Char → List Nat
  | [] => a.look before none states
  | c :: cs => a.run (some c) (a.enter (some c) (a.targets c (a.look before (some c) states))) cs

end Automaton

/-- Whether the match of a pattern in a text reaches the end of the text. -/
def Pattern.endsWith (text : List Char) (p : Pattern) : Bool :=
  let a := Automaton.search p
  (a.run none (a.enter none [a.start]) text).any a.isDone

end SourceLexer
