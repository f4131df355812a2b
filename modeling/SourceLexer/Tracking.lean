/-
Positions that follow a cursor.

A cursor over characters is tracked by two observers on a state that carries a
position: the first moves the position one column for every character, the
second moves it to the beginning of the next line for a newline
(`Cursor.track`).  The column observer comes first, so a newline leaves the
position in column 0 and not in column 1.
-/
import SourceLexer.Cursor
import SourceLexer.Position

namespace SourceLexer

/-- States that carry a position which can be read and moved. -/
class Tracked (σ : Type) where
  position : σ → Position
  move : (Position → Position) → σ → σ
  position_move : ∀ f s, position (move f s) = f (position s)

/-- A position carries itself. -/
instance : Tracked Position where
  position := id
  move f := f
  position_move _ _ := rfl

namespace Cursor

variable {σ : Type} [Tracked σ]

/-- Moves the position by a column, for any character. -/
def hearColumn (_ : Char) : σ → σ := Tracked.move Position.nextColumn

/-- Moves the position to the next line, for a newline only. -/
def hearNewline (ch : Char) : σ → σ :=
  if ch = '\n' then Tracked.move Position.newline else id

/-- The cursor with two more observers that keep the position of its state. -/
def track (c : Cursor Char σ) : Cursor Char σ := c.registerAll [hearColumn, hearNewline]

end Cursor

end SourceLexer
