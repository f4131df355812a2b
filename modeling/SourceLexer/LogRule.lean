/-
The rules of a log filter.

A rule selects a part of a log and gives it a level.  It is written as a level
alone, which is for everything, or as a target, a span in brackets or both, with
an equals sign and a level behind them or not; without a level everything is
shown.  Inside the brackets stand the name of a span, a field in braces or both,
and behind the name of a field an equals sign and what its value is to be.

Blanks around a rule are left out of account only where its parts are looked for
(`LogRule.parse`).  Places are counted in bytes, so that a part may turn out to end
inside a character; then there is neither a rule nor an error (`LogFilterStop`).
-/
import SourceLexer.Alphanumeric
import SourceLexer.Automaton
import SourceLexer.LogPoint
import SourceLexer.PatternReader
import SourceLexer.Pieces
import SourceLexer.WhiteSpace

namespace SourceLexer

/-- What makes a text no filter. -/
inductive LogFilterError where
  /-- A piece of the text is no rule. -/
  | badRule
  /-- What should be a level is none. -/
  | badLevel
  /-- What should be a pattern for the value of a field is none. -/
  | badPattern
  /-- A pattern for the value of a field looks for words of every script. -/
  | everyScript
deriving DecidableEq

namespace LogFilterError

/-- The error in words. -/
def message : LogFilterError → String
  | badRule => "invalid filter directive"
  | badLevel =>
    "error parsing level filter: expected one of \"off\", \"error\", \"warn\", \"info\", " ++
      "\"debug\", \"trace\", or a number 0-5"
  | badPattern => "invalid field filter: error building NFA"
  | everyScript =>
    "invalid field filter: unsupported regex feature for DFAs: cannot build DFAs for regexes " ++
      "with Unicode word boundaries; switch to ASCII word boundaries, or heuristically enable " ++
      "Unicode word boundaries or use a different regex engine"

end LogFilterError

/-- What stops the reading of a filter. -/
inductive LogFilterStop where
  /-- The text is no filter. -/
  | invalid (e : LogFilterError)
  /-- A part of it would begin or end inside a character, which ends the program too. -/
  | cut
deriving DecidableEq

/-- What is wrong with a part of a filter stops the reading of all of it. -/
def LogFilterStop.within {α : Type} : Except LogFilterError α → Except LogFilterStop α :=
  Except.mapError LogFilterStop.invalid

/-- What the value of a field is to be. -/
inductive ValueTest where
  /-- A number of 64 bits. -/
  | number (n : Nat)
  /-- A truth value, or a number that no count is. -/
  | never
  /-- A text with a match that reaches its end, for the pattern written as `source`. -/
  | pattern (source : List Char) (p : Pattern)
deriving DecidableEq

namespace ValueTest

/-- Whether a text is a decimal number with a sign, a fraction and an exponent or without them, or
stands for infinity or for no number. -/
def isDecimal (text : List Char) : Bool :=
  let text := if text.head? = some '+' || text.head? = some '-' then text.tail else text
  let whole := text.takeWhile Char.isDigit
  let rest := text.dropWhile Char.isDigit
  let fraction := if rest.head? = some '.' then rest.tail.takeWhile Char.isDigit else []
  let rest := if rest.head? = some '.' then rest.tail.dropWhile Char.isDigit else rest
  let names := ["inf", "infinity", "nan"].map String.toList
  names.contains (text.map Char.toLower) || !(whole ++ fraction).isEmpty && isExponent rest
where
  isExponent : List Char → Bool
    | [] => true
    | e :: rest =>
      let digits := if rest.head? = some '+' || rest.head? = some '-' then rest.tail else rest
      (e = 'e' || e = 'E') && !digits.isEmpty && digits.all Char.isDigit

/-- The number of 64 bits that a text writes. -/
def count? (text : List Char) : Option Nat := (number? text).filter (· < UInt64.size)

/-- The test that a text writes. -/
def parse (text : List Char) : Except LogFilterError ValueTest :=
  match count? text with
  | some n => .ok (number n)
  | none =>
    if text = "true".toList || text = "false".toList || isDecimal text then .ok never
    else
      match Pattern.read? text with
      | some p => if p.needsEveryScript then .error .everyScript else .ok (pattern text p)
      | none => .error .badPattern

/-- Whether a value is as it is to be. -/
def holds (value : FieldValue) (test : ValueTest) : Bool :=
  match test, value with
  | number n, .count m => n = m
  | pattern _ p, .text s => p.endsWith s.toList
  | _, _ => false

end ValueTest

/-- A field that is to be there, and what its value is to be if that matters. -/
structure FieldTest where
  name : List Char
  value : Option ValueTest
deriving DecidableEq

/-- The test that a text in braces writes: a name, or a name and a value with an equals sign between
them; what stands behind a second equals sign has no meaning. -/
def FieldTest.parse (text : List Char) : Except LogFilterError FieldTest :=
  let name := text.takeWhile (· ≠ '=')
  match text.dropWhile (· ≠ '=') with
  | [] => .ok ⟨name, none⟩
  | _ :: rest => (ValueTest.parse (rest.takeWhile (· ≠ '='))).map fun test => ⟨name, some test⟩

/-- The part of a log that a rule is for: what has a target that begins with `target`, and of that
what is in a span with the given name and field, if there are any. -/
structure LogSelector where
  target : List Char
  span : Option (List Char)
  field : Option FieldTest
deriving DecidableEq

namespace LogSelector

/-- The selector of what has a target that begins with `target`. -/
def ofTarget (target : List Char) : LogSelector := ⟨target, none, none⟩

/-- Whether a selector is for a target. -/
def hasTarget (target : String) (s : LogSelector) : Bool := s.target.isPrefixOf target.toList

/-- Whether a selector looks at the value of a field. -/
def testsValue (s : LogSelector) : Bool := s.field.any (·.value.isSome)

/-- Whether a selector is for spans of some kind and what is in them. -/
def isForSpans (s : LogSelector) : Bool := s.span.isSome || s.field.isSome

/-- Whether a selector is for single spans and events, wherever they are. -/
def isForPoints (s : LogSelector) : Bool := s.span.isNone && !s.testsValue

/-- Whether a selector is for spans of the kind of `span`, whatever the value of its field. -/
def concerns (span : LogSpan) (s : LogSelector) : Bool :=
  s.isForSpans && s.hasTarget span.target && s.span.all (· = span.name.toList) &&
    s.field.all (·.name = span.field.toList)

/-- Whether a selector is for a span and what is in it. -/
def selects (span : LogSpan) (s : LogSelector) : Bool :=
  s.concerns span && (s.field.bind (·.value)).all (·.holds span.value)

/-- Whether a selector is for a span by itself; a field in it does not matter here. -/
def selectsAlone (span : LogSpan) (s : LogSelector) : Bool :=
  s.isForPoints && s.hasTarget span.target

/-- Whether a selector is for an event by itself. -/
def selectsPoint (point : LogPoint) (s : LogSelector) : Bool :=
  s.isForPoints && s.hasTarget point.target &&
    s.field.all fun field => point.fields.any (·.toList = field.name)

/-- The name of the field of a selector. -/
def fieldName (s : LogSelector) : List Char := (s.field.map (·.name)).getD []

/-- Whether a selector is more general than another: by the length of its target and then by its
field, of which there is none or one that comes first. -/
def isMoreGeneral (s t : LogSelector) : Bool :=
  s.target.length < t.target.length ||
    s.target.length = t.target.length && s.fieldName < t.fieldName

end LogSelector

/-- How much of a part of a log is shown. -/
structure LogRule where
  selector : LogSelector
  level : LogLevel

namespace LogRule

/-- Whether a rule may begin with a character: a letter, a number, a hyphen, a colon or an
underscore, or the bracket before a span. -/
def canBegin (c : Char) : Bool :=
  isAlphanumeric c || c = '-' || c = ':' || c = '_' || c = '['

/-- The text in front of a place. -/
def before (text : List Char) (place : Nat) : Except LogFilterStop (List Char) :=
  match cutBehind? place text with
  | some (front, _) => .ok front
  | none => .error .cut

/-- The text behind a place. -/
def behind (text : List Char) (place : Nat) : Except LogFilterStop (List Char) :=
  match cutBehind? place text with
  | some (_, rest) => .ok rest
  | none => .error .cut

/-- The part of a text from the place `start` to before the place `stop`. -/
def part (text : List Char) (start stop : Nat) : Except LogFilterStop (List Char) := do
  behind (← before text stop) start

/-- The level that a text behind an equals sign writes. -/
def levelOf (text : List Char) : Except LogFilterError LogLevel :=
  if text.isEmpty then .ok .trace
  else
    match LogLevel.ofText? text with
    | some level => .ok level
    | none => .error .badLevel

/-- The level that is written from a place on. -/
def levelFrom (text : List Char) (place : Nat) : Except LogFilterStop LogLevel := do
  let written ← behind text place
  LogFilterStop.within (levelOf written)

/-- The level behind the brackets of a rule, which end before `place`; `rest` is what is found
there. -/
def levelAfter (text : List Char) (place : Nat) (rest : List Char) :
    Except LogFilterStop LogLevel :=
  match rest with
  | [] => .ok .trace
  | '=' :: _ => levelFrom text (place + 1)
  | _ => .error (.invalid .badRule)

/-- The rule with a field in braces, which begin before `place`; `rest` is what is found there. -/
def parseField (text : List Char) (target : List Char) (span : Option (List Char)) (place : Nat)
    (rest : List Char) : Except LogFilterStop LogRule :=
  let stop := place + byteCount (rest.takeWhile (· ≠ '}'))
  match rest.dropWhile (· ≠ '}') with
  | '}' :: rest' => do
    let written ← part text place stop
    if written.isEmpty then .error (.invalid .badRule)
    else
      let field ← LogFilterStop.within (FieldTest.parse written)
      match rest' with
      | ']' :: rest'' =>
        let level ← levelAfter text (stop + 2) rest''
        pure ⟨⟨target, span, some field⟩, level⟩
      | _ => .error (.invalid .badRule)
  | _ => .error (.invalid .badRule)

/-- The rule with a span in brackets, which begin before `place`; `rest` is what is found there. -/
def parseSpan (text : List Char) (target : List Char) (place : Nat) (rest : List Char) :
    Except LogFilterStop LogRule :=
  let stop := place + byteCount (rest.takeWhile fun c => c ≠ ']' && c ≠ '{')
  match rest.dropWhile fun c => c ≠ ']' && c ≠ '{' with
  | ']' :: rest' => do
    let name ← part text place stop
    let level ← levelAfter text (stop + 1) rest'
    pure ⟨⟨target, some name, none⟩, level⟩
  | '{' :: rest' => do
    let name ← part text place stop
    parseField text target (if name.isEmpty then none else some name) (stop + 1) rest'
  | _ => .error (.invalid .badRule)

/-- The rule that a text writes.

The places of its parts are found in the text without the blanks around it and counted from there,
but the parts themselves are taken from the whole text.  So blanks behind a level belong to it, and
with blanks before the text every part of it begins too early. -/
def parse (text : List Char) : Except LogFilterStop LogRule :=
  let found := trimmed text
  let size := byteCount (found.takeWhile fun c => c ≠ '=' && c ≠ '[')
  if !found.head?.any canBegin then .error (.invalid .badRule)
  else
    match found.dropWhile fun c => c ≠ '=' && c ≠ '[' with
    | '=' :: _ => do
      let target ← before text size
      let level ← levelFrom text (size + 1)
      pure ⟨.ofTarget target, level⟩
    | '[' :: rest => do
      let target ← before text size
      parseSpan text target (size + 1) rest
    | _ =>
      match LogLevel.ofText? text with
      | some level => .ok ⟨.ofTarget [], level⟩
      | none => .ok ⟨.ofTarget text, .trace⟩

end LogRule

end SourceLexer
