/-
Quoted text.

Characters and texts are quoted so that they can be read back from a single
line: a backslash introduces every character that would end the quotation,
break the line or not be seen.  `Quoted.char` quotes a single character between
apostrophes and `Quoted.text` a text between quotation marks; the two differ
only in the mark that has to be escaped.
-/
import SourceLexer.Glyphless

namespace SourceLexer

namespace Quoted

/-- A character written by its number: `\u` and its lower-case hexadecimal digits in braces. -/
def byNumber (c : Char) : List Char :=
  ['\\', 'u', '{'] ++ Nat.toDigits 16 c.toNat ++ ['}']

/-- Whether a character is written by its number. -/
def isUnseen (c : Char) : Bool :=
  c.toNat < 0x20 || c.toNat = 0x7F || isGlyphless c

/-- The letter that stands for a character behind a backslash, between marks `mark`. -/
def letter? (mark c : Char) : Option Char :=
  if c = mark ∨ c = '\\' then some c
  else if c = '\x00' then some '0'
  else if c = '\t' then some 't'
  else if c = '\r' then some 'r'
  else if c = '\n' then some 'n'
  else none

/-- A character as it is written between marks `mark`. -/
def escape (mark c : Char) : List Char :=
  match letter? mark c with
  | some l => ['\\', l]
  | none => if isUnseen c then byNumber c else [c]

/-- Characters as they are written between marks `mark`, marks included. -/
def between (mark : Char) (cs : List Char) : List Char :=
  mark :: cs.flatMap (escape mark) ++ [mark]

/-- A text in quotation marks. -/
def text (s : String) : String := String.ofList (between '"' s.toList)

/-- A character in apostrophes. -/
def char (c : Char) : String := String.ofList (between '\'' [c])

end Quoted

end SourceLexer
