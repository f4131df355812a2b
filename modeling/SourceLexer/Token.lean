/-
Tokens.

A token holds the text that was read, without the quotation marks of a string,
the position at which it started, and an end that is a function of the text
alone: the number of newlines in it and the number of characters after the last
one (`Extent`).  Both are counted in characters and stay at the greatest machine
word.
-/
import SourceLexer.Kind
import SourceLexer.Position
import SourceLexer.Quoted

namespace SourceLexer

/-- How far a text reaches: its newlines, and the characters after the last of them. -/
structure Extent where
  newlines : Nat
  tail : Nat
deriving DecidableEq

namespace Extent

/-- The extent of a text that is one character longer. -/
def push (e : Extent) (c : Char) : Extent :=
  if c = '\n' then ⟨e.newlines + 1, 0⟩ else ⟨e.newlines, e.tail + 1⟩

/-- The extent of a text, found in one pass. -/
def of (text : String) : Extent := text.toList.foldl push ⟨0, 0⟩

theorem newlines_foldl_push (e : Extent) (cs : List Char) :
    (cs.foldl push e).newlines = e.newlines + cs.count '\n' := by
  induction cs generalizing e with
  | nil => simp
  | cons c cs ih =>
    by_cases h : c = '\n'
    · simp [ih, push, h]; omega
    · simp [ih, push, h]

/-- The newlines of an extent are those of the text. -/
theorem newlines_of (text : String) : (of text).newlines = text.toList.count '\n' := by
  simp [of, newlines_foldl_push]

end Extent

/-- A token of a source text. -/
structure Token where
  kind : Kind
  text : String
  startLine : UInt32
  endLine : UInt32
  startOffset : Int32
  endOffset : UInt32
deriving DecidableEq

namespace Token

/-- The token with the given text that starts at `start`. -/
def startingAt (kind : Kind) (text : String) (start : Position) : Token where
  kind := kind
  text := text
  startLine := start.line
  endLine := UInt32.ofNatClamp (Extent.of text).newlines
  startOffset := start.column
  endOffset := UInt32.ofNatClamp (Extent.of text).tail

/-- The position at which a token starts. -/
def start (t : Token) : Position := ⟨t.startLine, t.startOffset⟩

theorem start_startingAt (kind : Kind) (text : String) (p : Position) :
    (startingAt kind text p).start = p := rfl

/-- A token as it stands in listings: kind, quoted text and start. -/
def display (t : Token) : String :=
  t.kind.name ++ " " ++ Quoted.text t.text ++ " @ " ++ t.start.text

/-- A token written out with the names of its parts. -/
def dump (t : Token) : Dump :=
  .record "Token"
    [("kind", .atom t.kind.label),
     ("text", .atom (Quoted.text t.text)),
     ("start_line", .nat t.startLine.toNat),
     ("end_line", .nat t.endLine.toNat),
     ("start_offset", .int t.startOffset.toInt),
     ("end_offset", .nat t.endOffset.toNat)]

end Token

end SourceLexer
