/-
Places in a source text.

A position is a line, counted from 0, and a column.  Before anything has been
read the column is -1, so the first character of a text is at column 0 once it
has been read; after a newline the column is 0.  Lines and columns are machine
words that stay at their greatest value instead of wrapping around: every move
is the exact result, clamped to the word.

A move is also a value (`Position.Move`), and `Position.trail` lists the places
that a sequence of moves passes through, from the first (`Position.length_trail`)
to the one where all of them lead (`Position.getLast?_trail`).
-/
import SourceLexer.Dump

namespace SourceLexer

/-- A line and a column of a source text. -/
structure Position where
  line : UInt32
  column : Int32
deriving DecidableEq

namespace Position

/-- The place before the first character of a text has been read. -/
def start : Position := ⟨0, -1⟩

/-- One column further on the same line. -/
def nextColumn (p : Position) : Position :=
  { p with column := Int32.ofIntClamp (p.column.toInt + 1) }

/-- One line further down, in the same column. -/
def nextLine (p : Position) : Position :=
  { p with line := UInt32.ofNatClamp (p.line.toNat + 1) }

/-- Another column of the same line. -/
def atColumn (p : Position) (column : Int32) : Position :=
  { p with column := column }

/-- The beginning of the next line. -/
def newline (p : Position) : Position :=
  p.nextLine.atColumn 0

/-- A position as text: `line:column`. -/
def text (p : Position) : String :=
  p.line.toNat.repr ++ ":" ++ p.column.toInt.repr

/-- A position written out with the names of its parts. -/
def dump (p : Position) : Dump :=
  .record "Position" [("line", .nat p.line.toNat), ("column", .int p.column.toInt)]

/-- A single move of a position. -/
inductive Move where
  | nextColumn
  | nextLine
  | setColumn (column : Int32)
deriving DecidableEq

/-- Where a move leads. -/
def moved (p : Position) : Move → Position
  | .nextColumn => p.nextColumn
  | .nextLine => p.nextLine
  | .setColumn column => p.atColumn column

/-- Where a sequence of moves leads. -/
def movedAll (p : Position) (moves : List Move) : Position :=
  moves.foldl moved p

/-- The positions that a sequence of moves passes through, the first one included. -/
def trail (p : Position) : List Move → List Position
  | [] => [p]
  | m :: ms => p :: (p.moved m).trail ms

theorem length_trail (p : Position) (moves : List Move) :
    (p.trail moves).length = moves.length + 1 := by
  induction moves generalizing p with
  | nil => rfl
  | cons m ms ih => simp [trail, ih]

theorem getLast?_trail (p : Position) (moves : List Move) :
    (p.trail moves).getLast? = some (p.movedAll moves) := by
  induction moves generalizing p with
  | nil => rfl
  | cons m ms ih =>
    cases ms with
    | nil => rfl
    | cons m' ms' => simpa [trail, movedAll] using ih (p.moved m)

end Position

end SourceLexer
