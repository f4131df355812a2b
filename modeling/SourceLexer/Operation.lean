/-
What can be done with a cursor.

Each operation is a call to the cursor, with what the call gives as its answer
(`Cursor.perform`).  Sessions are made of operations, and so are the histories that
cursors have.
-/
import SourceLexer.Cursor

namespace SourceLexer

/-- What can be done with a cursor. -/
inductive Operation (α σ : Type) where
  | consume
  | current
  | peek (offset : Int)
  | peekNext
  | hasNext
  | register (hear : α → σ → σ)
  | remove (handle : Nat)

/-- What an operation gives. -/
inductive Answer (α : Type) where
  | element (a : Option α)
  | truth (b : Bool)
  | handle (n : Nat)

/-- Does an operation and answers it. -/
def Cursor.perform {α σ : Type} (c : Cursor α σ) : Operation α σ → Answer α × Cursor α σ
  | .consume => (.element c.consume.1, c.consume.2)
  | .current => (.element c.current, c)
  | .peek offset => (.element (c.peek offset), c)
  | .peekNext => (.element c.peekNext, c)
  | .hasNext => (.truth c.hasNext, c)
  | .register hear => (.handle (c.register hear).1, (c.register hear).2)
  | .remove handle => (.truth (c.remove handle).1, (c.remove handle).2)

end SourceLexer
