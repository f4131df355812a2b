/-
Sessions with a cursor.

A session is a list of steps taken on one cursor, whose observers write down
what they hear under a tag of their own and whose state carries a position
(`Notes`).  Each step is answered with what it gives, with what was written down
meanwhile, and with the index after it (`Session.run`).  What a cursor can do is
done through its operations (`Session.operate`); tracking is offered only for
cursors over characters.
-/
import SourceLexer.Operation
import SourceLexer.Quoted
import SourceLexer.Tracking

namespace SourceLexer

/-- What the observers of a session keep: a position, and what was heard under which tag. -/
structure Notes (α : Type) where
  position : Position
  heard : List (String × α)

instance {α : Type} : Tracked (Notes α) where
  position := Notes.position
  move f n := { n with position := f n.position }
  position_move _ _ := rfl

namespace Notes

/-- Writes down an element under a tag. -/
def hear {α : Type} (tag : String) (a : α) (n : Notes α) : Notes α :=
  { n with heard := n.heard ++ [(tag, a)] }

end Notes

/-- The things that a session needs to know about its elements. -/
structure Elements (α : Type) where
  /-- How an element is written out. -/
  shown : α → String
  /-- How a cursor over such elements is tracked, if it can be. -/
  track? : Option (Cursor α (Notes α) → Cursor α (Notes α))

namespace Elements

/-- Characters are quoted and can be tracked. -/
def chars : Elements Char := ⟨Quoted.char, some Cursor.track⟩

/-- Integers. -/
def ints : Elements Int := ⟨Int.repr, none⟩

/-- Texts are quoted. -/
def texts : Elements String := ⟨Quoted.text, none⟩

end Elements

namespace Session

/-- A step of a session. -/
inductive Step where
  | consume
  | current
  | peek (offset : Int)
  | peekNext
  | hasNext
  | isEmpty
  | index
  | size
  | observerCount
  | addObserver (tag : String)
  | removeObserver (handle : Nat)
  | track
  | position
  | move (m : Position.Move)
  | dumpInline
  | dumpBlock

/-- What a step gives. -/
inductive Reply (α : Type) where
  | element (a : Option α)
  | truth (b : Bool)
  | number (n : Int)
  | text (s : String)

/-- The answer to a step. -/
structure Answer (α : Type) where
  reply : Reply α
  heard : List (String × α)
  index : Int

variable {α : Type}

/-- A handle as text. -/
def handleText (handle : Nat) : String := "ObserverId(" ++ handle.repr ++ ")"

/-- The answer of an operation as a reply. -/
def Reply.ofAnswer : SourceLexer.Answer α → Reply α
  | .element a => .element a
  | .truth b => .truth b
  | .handle n => .text (handleText n)

/-- Does an operation. -/
def operate (c : Cursor α (Notes α)) (op : Operation α (Notes α)) :
    Reply α × Cursor α (Notes α) :=
  let (a, c) := c.perform op
  (.ofAnswer a, c)

/-- Takes a step. -/
def perform (e : Elements α) (c : Cursor α (Notes α)) : Step → Reply α × Cursor α (Notes α)
  | .consume => operate c .consume
  | .current => operate c .current
  | .peek offset => operate c (.peek offset)
  | .peekNext => operate c .peekNext
  | .hasNext => operate c .hasNext
  | .addObserver tag => operate c (.register (Notes.hear tag))
  | .removeObserver handle => operate c (.remove handle)
  | .isEmpty => (.truth c.isEmpty, c)
  | .index => (.number c.index, c)
  | .size => (.number c.size, c)
  | .observerCount => (.number c.observerCount, c)
  | .track =>
    match e.track? with
    | some track => (.truth true, track c)
    | none => (.truth false, c)
  | .position => (.text c.state.position.text, c)
  | .move m =>
    let p := c.state.position.moved m
    (.text p.text, { c with state := { c.state with position := p } })
  | .dumpInline => (.text (c.dump e.shown).inline, c)
  | .dumpBlock => (.text ((c.dump e.shown).block 0), c)

/-- Takes a step with nothing written down yet, and answers it. -/
def answer (e : Elements α) (c : Cursor α (Notes α)) (step : Step) :
    Answer α × Cursor α (Notes α) :=
  let (reply, c) := perform e { c with state := { c.state with heard := [] } } step
  (⟨reply, c.state.heard, c.index⟩, c)

/-- The answers to a list of steps. -/
def run (e : Elements α) (c : Cursor α (Notes α)) : List Step → List (Answer α)
  | [] => []
  | step :: steps =>
    let (a, c) := answer e c step
    a :: run e c steps

/-- The cursor that a session starts with: one observer for each tag, and a position. -/
def start (elements : List α) (tags : List String) (position : Position) :
    Cursor α (Notes α) :=
  (Cursor.ofArray elements.toArray ⟨position, []⟩).registerAll (tags.map Notes.hear)

end Session

end SourceLexer
