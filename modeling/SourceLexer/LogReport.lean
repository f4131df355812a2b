/-
The log of a run, and the libraries that write it.

A run opens a span for the file and, once the source has been read, a span for
the scan inside it; the events of the scan stand inside both.  A span is written
when it is opened, an event when it happens, each on a line of its own and
further to the right for every span around it that is shown (`LogReport.lines`).
The program runs with `Logging.standard`.
-/
import SourceLexer.LogFilter
import SourceLexer.Logging

namespace SourceLexer

namespace Event

/-- How detailed an event is. -/
def level : Event → LogLevel
  | token _ => .trace
  | complete _ => .debug
  | failed _ => .debug

/-- The names of the fields of an event; its first words are one too. -/
def fields : Event → List String
  | token _ => ["message", "kind", "text", "start"]
  | complete _ => ["message", "count"]
  | failed _ => ["message", "error"]

/-- The level of an event as it is logged. -/
def levelText : Event → String
  | token _ => "TRACE"
  | complete _ => "DEBUG"
  | failed _ => "DEBUG"

/-- An event in words. -/
def text : Event → String
  | token t =>
    "token, kind=" ++ t.kind.name ++ ", text=" ++ Quoted.text t.text ++ ", start=" ++ t.start.text
  | complete count => "lexing complete, count=" ++ count.repr
  | failed e => "lexing failed, error=" ++ e.message

end Event

namespace LogReport

/-- The target of a scan. -/
def scanTarget : String := "gib_lexer"

/-- The span of a file. -/
def fileSpan (path : String) : LogSpan where
  target := "gibc::commands::lex"
  name := "lex_file"
  field := "path"
  value := .text path

/-- The span of a scan. -/
def scanSpan (length : Nat) : LogSpan where
  target := scanTarget
  name := "lex"
  field := "len"
  value := .count length

/-- An event of a scan as a filter sees it. -/
def point (e : Event) : LogPoint where
  target := scanTarget
  level := e.level
  fields := e.fields

/-- A number of empty columns. -/
def columns (n : Nat) : String := String.ofList (List.replicate n ' ')

/-- The value of a field as it is written. -/
def valueText : FieldValue → String
  | .text s => Quoted.text s
  | .count n => n.repr

/-- The line of a span inside `depth` others. -/
def spanLine (depth : Nat) (span : LogSpan) : String :=
  columns (2 * depth + 1) ++ span.target ++ "::" ++ span.name ++
    "\x7b" ++ span.field ++ "=" ++ valueText span.value ++ "\x7d\n"

/-- The line of an event inside `depth` spans.  It begins left of where a span would, but not in the
first column. -/
def eventLine (depth : Nat) (e : Event) : String :=
  columns (max 1 (2 * depth)) ++ e.levelText ++ " " ++ scanTarget ++ " " ++ e.text ++ "\n"

/-- The lines of a span and of what is inside it.  `around` is how much the rules for spans show
inside the spans around it, of which `depth` are shown. -/
def inSpan (filter : LogFilter) (span : LogSpan) (inside : LogLevel → Nat → List String)
    (around : LogLevel) (depth : Nat) : List String :=
  let level := .most [around, filter.levelIn span]
  if filter.showsSpan around span then spanLine depth span :: inside level (depth + 1)
  else inside level depth

/-- The lines of events. -/
def eventLines (filter : LogFilter) (events : List Event) (around : LogLevel) (depth : Nat) :
    List String :=
  (events.filter fun e => filter.showsPoint around (point e)).map (eventLine depth)

/-- The lines of a scan. -/
def scanLines (filter : LogFilter) (scanned : Option (Nat × List Event)) (around : LogLevel)
    (depth : Nat) : List String :=
  match scanned with
  | some (length, events) =>
    inSpan filter (scanSpan length) (eventLines filter events) around depth
  | none => []

/-- The lines of a run that a filter lets through. -/
def lines (filter : LogFilter) (r : LogReport) : List String :=
  inSpan filter (fileSpan r.path) (scanLines filter r.scanned) .off 0

end LogReport

/-- What stops the reading of a filter in the middle of a character. -/
def LogFilterStop.panic : Panic := ⟨"a part of a log filter ends inside a character\n"⟩

/-- The libraries of the program: a filter is a list of rules and the log has a line for each span
and each event. -/
def Logging.standard : Logging LogFilter where
  readFilter directive :=
    match LogFilter.parse directive with
    | .ok filter => .ok (.ok filter)
    | .error (.invalid e) => .ok (.error e.message)
    | .error .cut => .error LogFilterStop.panic
  subscribe filter := .ok (none, fun r => .ok (String.join (r.lines filter)))
  nobody _ := .ok ""

end SourceLexer
