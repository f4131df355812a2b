/-
What is logged.

A log holds spans, which stand for stretches of a run, and events, which happen
at one time.  Both have a target, the part of the program that they come from,
and fields.  A span is known by its name and has one field, whose value is known
when the span is opened.
-/
import SourceLexer.LogLevel

namespace SourceLexer

/-- The value of a field of a span. -/
inductive FieldValue where
  | text (s : String)
  | count (n : Nat)

/-- A span of a log. -/
structure LogSpan where
  target : String
  name : String
  field : String
  value : FieldValue

/-- The level that spans are logged at. -/
def LogSpan.level : LogLevel := .debug

/-- What a filter sees of an event. -/
structure LogPoint where
  target : String
  level : LogLevel
  fields : List String

end SourceLexer
