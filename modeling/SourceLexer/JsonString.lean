/-
The inside of JSON strings.

`JsonString.escape` writes a text so that it can stand between quotation marks,
`JsonString.unescape?` reads it back.  Reading goes through numbers: a character
that stands for itself or is escaped by a letter gives its code point, an escape
by number gives the number, and only then two halves of a surrogate pair are put
together (`joinUnits?`).  A string is well formed if it has numbers at all
(`units?`), even if they are no text because half of a pair is missing.
-/
import SourceLexer.Hexadecimal

namespace SourceLexer

namespace JsonString

/-- The letter that stands for a character behind a backslash. -/
def letter? (c : Char) : Option Char :=
  if c = '"' ∨ c = '\\' then some c
  else if c.toNat = 0x08 then some 'b'
  else if c.toNat = 0x0C then some 'f'
  else if c = '\n' then some 'n'
  else if c = '\r' then some 'r'
  else if c = '\t' then some 't'
  else none

/-- The character that a letter stands for behind a backslash. -/
def unletter? (l : Char) : Option Char :=
  if l = '"' ∨ l = '\\' ∨ l = '/' then some l
  else if l = 'b' then some (Char.ofNat 0x08)
  else if l = 'f' then some (Char.ofNat 0x0C)
  else if l = 'n' then some '\n'
  else if l = 'r' then some '\r'
  else if l = 't' then some '\t'
  else none

/-- A character as it is written in a string: controls are escaped, and so are the quotation mark
and the backslash. -/
def escapeChar (c : Char) : List Char :=
  match letter? c with
  | some l => ['\\', l]
  | none =>
    if c.toNat < 0x20 then
      ['\\', 'u', '0', '0', Nat.digitChar (c.toNat / 16), Nat.digitChar (c.toNat % 16)]
    else [c]

/-- A text as it is written in a string. -/
def escape (cs : List Char) : List Char := cs.flatMap escapeChar

/-- The numbers that a string is written with; none if an escape is malformed, or a control or a
quotation mark stands for itself. -/
def units? : List Char → Option (List Nat)
  | [] => some []
  | '\\' :: 'u' :: a :: b :: c :: d :: rest => do
    let n ← hexNumber? [a, b, c, d]
    let ns ← units? rest
    pure (n :: ns)
  | '\\' :: l :: rest => do
    let c ← unletter? l
    let ns ← units? rest
    pure (c.toNat :: ns)
  | c :: rest =>
    if c = '\\' ∨ c = '"' ∨ c.toNat < 0x20 then none
    else (units? rest).map (c.toNat :: ·)

/-- Whether a number is the first half of a surrogate pair. -/
def isHighHalf (n : Nat) : Bool := 0xD800 ≤ n && n < 0xDC00

/-- Whether a number is the second half of a surrogate pair. -/
def isLowHalf (n : Nat) : Bool := 0xDC00 ≤ n && n < 0xE000

/-- The text that numbers stand for; none if half of a pair stands alone. -/
def joinUnits? : List Nat → Option (List Char)
  | [] => some []
  | n :: rest =>
    if isHighHalf n then
      match rest with
      | m :: rest' =>
        if isLowHalf m then
          (joinUnits? rest').map
            (Char.ofNat (0x10000 + (n - 0xD800) * 0x400 + (m - 0xDC00)) :: ·)
        else none
      | [] => none
    else if isLowHalf n then none
    else (joinUnits? rest).map (Char.ofNat n :: ·)

/-- The text that is written as `body` in a string. -/
def unescape? (body : List Char) : Option (List Char) := (units? body).bind joinUnits?

end JsonString

end SourceLexer
