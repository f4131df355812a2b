/-
How much of a log is shown.
-/
namespace SourceLexer

/-- How much is shown, from nothing to everything. -/
inductive LogLevel where
  | off
  | error
  | warn
  | info
  | debug
  | trace
deriving DecidableEq

namespace LogLevel

/-- The place of a level in the order from nothing to everything. -/
def rank : LogLevel → Nat
  | off => 0
  | error => 1
  | warn => 2
  | info => 3
  | debug => 4
  | trace => 5

/-- Whether a level shows what is logged at another. -/
def shows (shown logged : LogLevel) : Bool := logged.rank ≤ shown.rank

/-- The level that shows the most of what any of `levels` shows. -/
def most (levels : List LogLevel) : LogLevel :=
  levels.foldl (fun best level => if level.shows best then level else best) off

/-- The name of a level. -/
def name : LogLevel → String
  | off => "off"
  | error => "error"
  | warn => "warn"
  | info => "info"
  | debug => "debug"
  | trace => "trace"

/-- Every level. -/
def all : List LogLevel := [off, error, warn, info, debug, trace]

end LogLevel

/-- The number that a text writes with digits, behind a plus sign or not. -/
def number? (text : List Char) : Option Nat :=
  let digits := if text.head? = some '+' then text.tail else text
  if digits.isEmpty || !digits.all Char.isDigit then none
  else some (Nat.ofDigitChars 10 digits 0)

/-- The level that a text names, by its rank or by its name in letters of any case. -/
def LogLevel.ofText? (text : List Char) : Option LogLevel :=
  match number? text with
  | some n => all.find? (·.rank = n)
  | none => all.find? fun level => level.name.toList = text.map Char.toLower

end SourceLexer
