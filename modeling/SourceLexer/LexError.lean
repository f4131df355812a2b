/-
What ends a lexing run early.

Both errors are final: the run stops at the first of them and has no tokens to
show.  Each names the position at which the failing token started.
-/
import SourceLexer.Position
import SourceLexer.Quoted

namespace SourceLexer

/-- A reason why a text has no tokens. -/
inductive LexError where
  /-- The text ends inside the string whose quotation mark is at `start`. -/
  | unterminatedString (start : Position)
  /-- No token begins with the character `found`, which is at `start`. -/
  | unrecognizedCharacter (found : Char) (start : Position)
deriving DecidableEq

namespace LexError

/-- Where the failing token started. -/
def position : LexError → Position
  | unterminatedString start => start
  | unrecognizedCharacter _ start => start

/-- The error in words. -/
def message : LexError → String
  | unterminatedString start =>
    "end of file reached while lexing string starting at " ++ start.text
  | unrecognizedCharacter found start =>
    "lexing failed at " ++ start.text ++ ": unrecognized character " ++ Quoted.char found

/-- An error written out with the names of its parts. -/
def dump : LexError → Dump
  | unterminatedString start => .record "UnterminatedString" [("start", start.dump)]
  | unrecognizedCharacter found start =>
    .record "UnrecognizedCharacter" [("found", .atom (Quoted.char found)), ("start", start.dump)]

end LexError

end SourceLexer
