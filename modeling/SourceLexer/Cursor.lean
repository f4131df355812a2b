/-
Reading a fixed sequence with lookahead and observers.

A cursor starts before the first element, at index -1.  `Cursor.consume` moves
it forward by exactly one place, whether or not an element is there; looking
(`Cursor.peek` and its kin) moves nothing, and what lies outside the sequence is
simply absent.

Whoever wants to know what is consumed registers an observer and gets a handle
for it.  The observers of a cursor share one state and are told, in the order of
their registration, of each element that is consumed; handles count the
registrations and are never given out twice.

* `Cursor.consume_fst` — consuming gives what looking one place ahead shows;
* `Cursor.hasNext_iff` — there is an element to consume as long as fewer have
  been consumed than there are;
* `Cursor.remaining_consume_lt` — consuming an element leaves fewer of them.
-/
import SourceLexer.Dump

namespace SourceLexer

/-- Something that is told of each consumed element and changes the shared state. -/
structure Observer (α σ : Type) where
  handle : Nat
  hear : α → σ → σ

/-- A reader of a fixed sequence of elements, whose observers share a state. -/
structure Cursor (α σ : Type) where
  elements : Array α
  /-- How often `consume` has been called. -/
  taken : Nat
  /-- The registered observers, in the order of their registration. -/
  observers : List (Observer α σ)
  /-- How many observers have ever been registered. -/
  issued : Nat
  state : σ

namespace Cursor

variable {α σ : Type}

/-- A cursor before the first of `elements`, without observers. -/
def ofArray (elements : Array α) (state : σ) : Cursor α σ :=
  ⟨elements, 0, [], 0, state⟩

/-- The index of the last consumed element: -1 at first, and beyond the end if consuming goes on
there. -/
def index (c : Cursor α σ) : Int := (c.taken : Int) - 1

/-- The element at an index, if the index lies within the sequence. -/
def elementAt (c : Cursor α σ) : Int → Option α
  | .ofNat i => c.elements[i]?
  | .negSucc _ => none

/-- The element `offset` places from the cursor; `peek 1` is what is consumed next. -/
def peek (c : Cursor α σ) (offset : Int) : Option α := c.elementAt (c.index + offset)

/-- The element that was consumed last. -/
def current (c : Cursor α σ) : Option α := c.elementAt c.index

/-- The element after the next. -/
def peekNext (c : Cursor α σ) : Option α := c.peek 2

/-- Whether there is an element to consume. -/
def hasNext (c : Cursor α σ) : Bool := (c.peek 1).isSome

/-- How many elements the sequence has. -/
def size (c : Cursor α σ) : Nat := c.elements.size

/-- Whether the sequence has no elements. -/
def isEmpty (c : Cursor α σ) : Bool := c.elements.isEmpty

/-- Tells every observer of an element. -/
def notify (c : Cursor α σ) (a : α) : Cursor α σ :=
  { c with state := c.observers.foldl (fun s o => o.hear a s) c.state }

/-- Moves forward by one place and tells the observers of the element there, if there is one. -/
def consume (c : Cursor α σ) : Option α × Cursor α σ :=
  let c := { c with taken := c.taken + 1 }
  match c.current with
  | some a => (some a, c.notify a)
  | none => (none, c)

/-- Registers an observer after the present ones and gives its handle. -/
def register (c : Cursor α σ) (hear : α → σ → σ) : Nat × Cursor α σ :=
  (c.issued, { c with observers := c.observers ++ [⟨c.issued, hear⟩], issued := c.issued + 1 })

/-- Registers observers one after the other. -/
def registerAll (c : Cursor α σ) (hears : List (α → σ → σ)) : Cursor α σ :=
  hears.foldl (fun c hear => (c.register hear).2) c

/-- Takes the observer with the given handle off the cursor; whether there was one. -/
def remove (c : Cursor α σ) (handle : Nat) : Bool × Cursor α σ :=
  (c.observers.any (·.handle = handle),
   { c with observers := c.observers.filter (·.handle ≠ handle) })

/-- How many observers are registered. -/
def observerCount (c : Cursor α σ) : Nat := c.observers.length

/-- How many elements have not been consumed. -/
def remaining (c : Cursor α σ) : Nat := c.elements.size - c.taken

/-- A cursor written out, its elements with `shown`. -/
def dump (shown : α → String) (c : Cursor α σ) : Dump :=
  .record "LookaheadCursor"
    [("index", .int c.index),
     ("len", .nat c.size),
     ("current", match c.current with
       | some a => .wrapped "Some" (.atom (shown a))
       | none => .atom "None"),
     ("observers", .nat c.observerCount)]

theorem peek_one (c : Cursor α σ) : c.peek 1 = c.elements[c.taken]? := by
  have h : c.index + 1 = Int.ofNat c.taken := by simp [index]
  rw [peek, h, elementAt]

theorem hasNext_iff {c : Cursor α σ} : c.hasNext = true ↔ c.taken < c.elements.size := by
  simp [hasNext, peek_one]

/-- Consuming gives what looking one place ahead has shown. -/
theorem consume_fst (c : Cursor α σ) : c.consume.1 = c.peek 1 := by
  have h : ({ c with taken := c.taken + 1 } : Cursor α σ).current = c.peek 1 := by
    simp [current, peek, index, elementAt]
  unfold consume
  simp only
  split <;> simp_all

@[simp] theorem taken_notify (c : Cursor α σ) (a : α) : (c.notify a).taken = c.taken := rfl

@[simp] theorem elements_notify (c : Cursor α σ) (a : α) : (c.notify a).elements = c.elements := rfl

@[simp] theorem taken_consume (c : Cursor α σ) : c.consume.2.taken = c.taken + 1 := by
  unfold consume
  simp only
  split <;> rfl

@[simp] theorem elements_consume (c : Cursor α σ) : c.consume.2.elements = c.elements := by
  unfold consume
  simp only
  split <;> rfl

theorem remaining_consume (c : Cursor α σ) : c.consume.2.remaining = c.remaining - 1 := by
  simp [remaining]; omega

theorem remaining_consume_lt {c : Cursor α σ} (h : c.hasNext = true) :
    c.consume.2.remaining < c.remaining := by
  have := hasNext_iff.1 h
  simp [remaining]; omega

end Cursor

end SourceLexer
