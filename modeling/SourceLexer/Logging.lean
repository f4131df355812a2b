/-
What the program does to log a run.

Reading a filter and showing what it lets through is left to libraries, of which
this module knows only what they are called with and what they answer (`Logging`).
A call to them need not come back: it may end the program instead (`Panic`).

The filter is the first text of the settings that is not blank.  Without one
nobody is told of the run.  A text that is no filter, or a filter that cannot be
put to use, is worth a warning and no more (`Logging.install`).
-/
import SourceLexer.Scan
import SourceLexer.WhiteSpace

namespace SourceLexer

/-- Where a filter may be written: on the command line, in the program's own variable, or in the
variable that it shares with other programs. -/
structure LogSettings where
  flag : Option String
  ownVariable : Option String
  sharedVariable : Option String

/-- The text of the filter to use: the first that is written and not blank, as it is written. -/
def LogSettings.directive? (s : LogSettings) : Option String :=
  ([s.flag, s.ownVariable, s.sharedVariable].filterMap id).find? (!isBlankText ·)

/-- What a run has to log: the path it was given and, if the source was read, the length of the
source in bytes and the events of its scan. -/
structure LogReport where
  path : String
  scanned : Option (Nat × List Event)

/-- The end of the program in the middle of a call, with what the call has written by then. -/
structure Panic where
  words : String
deriving DecidableEq

/-- Who is told of a run and writes a log of it. -/
abbrev Subscriber := LogReport → Except Panic String

/-- The libraries that a program logs with; `φ` is what filters are to them. -/
structure Logging (φ : Type) where
  /-- The filter that a text writes, or in words why it is none. -/
  readFilter : String → Except Panic (Except String φ)
  /-- Puts a filter to use: in words why that was refused, if it was, and who is told from now
  on. -/
  subscribe : φ → Except Panic (Option String × Subscriber)
  /-- Who is told as long as no filter has been put to use. -/
  nobody : Subscriber

namespace Logging

/-- The warning about a text that is no filter. -/
def invalidWarning (directive why : String) : String :=
  "warning: ignoring invalid log filter '" ++ directive ++ "': " ++ why ++ "\n"

/-- The warning about a filter that cannot be put to use. -/
def refusedWarning (why : String) : String :=
  "warning: could not install log subscriber: " ++ why ++ "\n"

variable {φ : Type}

/-- Makes the program ready to log: the warnings about that, and who is told of the run. -/
def install (L : Logging φ) (settings : LogSettings) : Except Panic (String × Subscriber) :=
  match settings.directive? with
  | none => .ok ("", L.nobody)
  | some directive =>
    match L.readFilter directive with
    | .error panic => .error panic
    | .ok (.error why) => .ok (invalidWarning directive why, L.nobody)
    | .ok (.ok filter) =>
      (L.subscribe filter).map fun (refusal, subscriber) =>
        ((refusal.map refusedWarning).getD "", subscriber)

/-- What is written to log a run, the warnings first. -/
def text (L : Logging φ) (settings : LogSettings) (r : LogReport) : Except Panic String :=
  match L.install settings with
  | .error panic => .error panic
  | .ok (warnings, subscriber) =>
    match subscriber r with
    | .error panic => .error ⟨warnings ++ panic.words⟩
    | .ok log => .ok (warnings ++ log)

end Logging

end SourceLexer
