/-
Patterns of text.

A pattern is a character of a set, a text, a place, or is built from patterns that
follow each other, that are choices, or that come several times.  Of choices, and
of the numbers of times, one is preferred to another.

Patterns are built by `Pattern.chain`, `Pattern.oneOf`, `Pattern.ofSet` and
`Pattern.repetition`, which keep them in a normal form: texts are as long as they
can be, choices between characters are sets, and what all choices begin with stands
before them.  The texts that a pattern matches stay the same.  So does the match that
is preferred, unless a part that may be empty comes several times; that is why the
normal form is a part of what a pattern means.
-/
import SourceLexer.CharSet

namespace SourceLexer

/-- What a place in a text can be, as the characters before and behind it tell. -/
inductive PlaceTest where
  | textStart
  | textEnd
  | lineStart
  | lineEnd
  /-- The start of a line, where a carriage return with or without a newline ends a line too. -/
  | returnLineStart
  /-- The end of a line, where a carriage return with or without a newline ends a line too. -/
  | returnLineEnd
  | wordStart
  | wordEnd
  | wordBoundary
  | noWordBoundary
  /-- One of the last four, for the words of every script. -/
  | ofEveryScript
deriving DecidableEq

namespace PlaceTest

/-- Whether a character belongs to an ASCII word. -/
def isWord (c : Option Char) : Bool := c.any (CharSet.wordCharacters.contains ·)

/-- Whether a place passes a test; words are those of ASCII. -/
def holds (before after : Option Char) : PlaceTest → Bool
  | textStart => before.isNone
  | textEnd => after.isNone
  | lineStart => before.all (· = '\n')
  | lineEnd => after.all (· = '\n')
  | returnLineStart => before.all fun c => c = '\n' || c = '\r' && after ≠ some '\n'
  | returnLineEnd => after.all fun c => c = '\r' || c = '\n' && before ≠ some '\r'
  | wordStart => !isWord before && isWord after
  | wordEnd => isWord before && !isWord after
  | wordBoundary => isWord before != isWord after
  | noWordBoundary => isWord before == isWord after
  | ofEveryScript => false

/-- Whether a place passes a test whatever character is behind it. -/
def holdsAnyway (before : Option Char) : PlaceTest → Bool
  | textStart => before.isNone
  | lineStart => before.all (· = '\n')
  | returnLineStart => before.all (· = '\n')
  | _ => false

end PlaceTest

/-- How often a pattern may come. -/
inductive Repetition where
  | atMostOnce
  | anyTimes
  | atLeastOnce
deriving DecidableEq

/-- A pattern of text. -/
inductive Pattern where
  /-- Nothing. -/
  | empty
  /-- A text. -/
  | literal (cs : List Char)
  /-- One character of a set, which was written for bytes or for characters. -/
  | one (set : CharSet) (isOfBytes : Bool)
  /-- A place that passes a test. -/
  | place (test : PlaceTest)
  /-- One pattern and then another. -/
  | seq (p q : Pattern)
  /-- One pattern or, less preferred, another. -/
  | either (p q : Pattern)
  /-- A pattern several times: as often as possible if greedy, else as seldom. -/
  | repeated (times : Repetition) (isGreedy : Bool) (p : Pattern)
  /-- A group; no two groups of a pattern have the same number. -/
  | group (number : Nat) (p : Pattern)
deriving DecidableEq

namespace Pattern

/-- The patterns that follow each other in a pattern. -/
def parts : Pattern → List Pattern
  | empty => []
  | seq p q => p :: q.parts
  | p => [p]

/-- The choices of a pattern, the preferred ones first. -/
def branches : Pattern → List Pattern
  | either p q => p :: q.branches
  | p => [p]

/-- Joins texts that follow each other. -/
def joinTexts : List Pattern → List Pattern
  | [] => []
  | p :: ps =>
    match p, joinTexts ps with
    | literal cs, literal ds :: qs => literal (cs ++ ds) :: qs
    | p, qs => p :: qs

/-- One pattern and then another; nothing adds nothing. -/
def before (p : Pattern) : Pattern → Pattern
  | empty => p
  | q => seq p q

/-- Patterns that follow each other. -/
def chain (ps : List Pattern) : Pattern := (joinTexts (ps.flatMap parts)).foldr before empty

/-- One character of a set; for a single one it is a text. -/
def ofSet (set : CharSet) (isOfBytes : Bool) : Pattern :=
  match set.ranges with
  | [] => one set true
  | [(first, last)] => if first = last then literal [first] else one set isOfBytes
  | _ => one set isOfBytes

/-- The characters of a text of length one. -/
def char? : Pattern → Option CharSet
  | literal [c] => some (.single c)
  | _ => none

/-- The characters of which a pattern is one. -/
def set? : Pattern → Option CharSet
  | one set _ => some set
  | _ => none

/-- The choice between characters, if all choices are texts of length one or all are sets. -/
def setOf? (ps : List Pattern) : Option Pattern :=
  ((ps.mapM char?).or (ps.mapM set?)).map fun sets =>
    ofSet (sets.foldl CharSet.union .empty) false

/-- Choices as they are. -/
def eitherOf : List Pattern → Pattern
  | [] => one .empty true
  | [p] => p
  | p :: ps => either p (eitherOf ps)

/-- What two lists of patterns both begin with. -/
def common : List Pattern → List Pattern → List Pattern
  | p :: ps, q :: qs => if p = q then p :: common ps qs else []
  | _, _ => []

/-- What all choices begin with, if each of them has several parts. -/
def commonParts (ps : List Pattern) : List Pattern :=
  let lists := ps.map parts
  if lists.any (·.length < 2) then [] else lists.tail.foldl common (lists.headD [])

/-- Choices, the preferred ones first. -/
def oneOf (ps : List Pattern) : Pattern :=
  match ps.flatMap branches with
  | [p] => p
  | ps =>
    let first := commonParts ps
    let rests := (ps.map fun p => chain (p.parts.drop first.length)).flatMap branches
    let choice (ps : List Pattern) : Pattern := (setOf? ps).getD (eitherOf ps)
    if first.isEmpty then choice ps else chain (first ++ [choice rests])

/-- The least number of characters that a pattern matches; none is known where a part matches
nothing at all. -/
def least? : Pattern → Option Nat
  | empty => some 0
  | literal cs => some cs.length
  | one set _ => if set = .empty then none else some 1
  | place _ => some 0
  | seq p q => do return (← p.least?) + (← q.least?)
  | either p q => do return min (← p.least?) (← q.least?)
  | repeated .atLeastOnce _ p => p.least?
  | repeated _ _ p => p.least?.map fun _ => 0
  | group _ p => p.least?

/-- Whether a pattern matches no character wherever it matches. -/
def isNothing : Pattern → Bool
  | empty => true
  | literal _ => false
  | one _ _ => false
  | place _ => true
  | seq p q => p.isNothing && q.isNothing
  | either p q => p.isNothing && q.isNothing
  | repeated .atMostOnce _ p => p.isNothing
  | repeated _ _ _ => false
  | group _ p => p.isNothing

/-- A pattern several times; one that matches no character need not come twice. -/
def repetition (times : Repetition) (isGreedy : Bool) (p : Pattern) : Pattern :=
  if !p.isNothing then repeated times isGreedy p
  else if times = .atLeastOnce then p
  else repeated .atMostOnce isGreedy p

/-- Whether a pattern looks for words of every script. -/
def needsEveryScript : Pattern → Bool
  | empty => false
  | literal _ => false
  | one _ _ => false
  | place test => test = .ofEveryScript
  | seq p q => p.needsEveryScript || q.needsEveryScript
  | either p q => p.needsEveryScript || q.needsEveryScript
  | repeated _ _ p => p.needsEveryScript
  | group _ p => p.needsEveryScript

end Pattern

end SourceLexer
