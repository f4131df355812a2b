/-
The classes of characters that lexing tells apart.

Every decision of the lexer is taken on the class of a character
(`CharClass.of`), not on the character itself; only keywords look at letters
one by one.  Letters and digits are those of ASCII.
-/
import SourceLexer.Kind
import SourceLexer.WhiteSpace

namespace SourceLexer

/-- Whether `c` separates tokens: White_Space without the no-break spaces and the next-line
control, and with the four information separators. -/
def isBlank (c : Char) : Bool :=
  (isWhiteSpace c && !(c = '\u00A0' || c = '\u2007' || c = '\u202F' || c = '\u0085')) ||
    inRanges [(0x1C, 0x1F)] c

/-- What a character may begin. -/
inductive CharClass where
  /-- An operator of one character. -/
  | operator (kind : Kind)
  /-- `=` or `==`. -/
  | equals
  /-- A string. -/
  | quote
  /-- A word. -/
  | letter
  /-- An integer. -/
  | digit
  /-- No token; skipped. -/
  | blank
  /-- No token; an error. -/
  | other
deriving DecidableEq

/-- The operator that is written as the single character `c`. -/
def operator? (c : Char) : Option Kind :=
  if c = '*' then some .star
  else if c = '/' then some .slash
  else if c = '+' then some .plus
  else if c = '-' then some .minus
  else none

/-- The class of a character. -/
def CharClass.of (c : Char) : CharClass :=
  match operator? c with
  | some kind => .operator kind
  | none =>
    if c = '=' then .equals
    else if c = '"' then .quote
    else if c.isAlpha then .letter
    else if c.isDigit then .digit
    else if isBlank c then .blank
    else .other

end SourceLexer
