/-
Reading JSON.

A text is first cut into lexemes (`Json.lexemes?`), which leaves the blanks
behind; then a machine takes one lexeme after the other (`Json.State.step`).  It
keeps the containers that are still open on a stack, so the depth of a text
costs it nothing, and it is done when a value is complete and no container is
open.  Reading is strict: nothing may follow the value, and numbers, strings and
words have exactly the spellings of the format.
-/
import SourceLexer.Json

namespace SourceLexer

namespace Json

/-- Whether a character separates lexemes. -/
def isBlank (c : Char) : Bool := c = ' ' || c = '\t' || c = '\n' || c = '\r'

/-- Whether a text is a non-empty run of digits. -/
def isDigits (cs : List Char) : Bool := !cs.isEmpty && cs.all Char.isDigit

/-- Whether a text may follow the digits behind the point of a number. -/
def isExponent : List Char → Bool
  | [] => true
  | e :: cs =>
    (e = 'e' || e = 'E') &&
      match cs with
      | '+' :: ds => isDigits ds
      | '-' :: ds => isDigits ds
      | ds => isDigits ds

/-- Whether a text may follow the integral digits of a number. -/
def isFraction : List Char → Bool
  | '.' :: d :: cs => d.isDigit && isExponent (cs.dropWhile Char.isDigit)
  | cs => isExponent cs

/-- Whether a text is a number without its sign: no zero comes first but a single one. -/
def isMagnitude : List Char → Bool
  | [] => false
  | d :: cs =>
    if d = '0' then isFraction cs else d.isDigit && isFraction (cs.dropWhile Char.isDigit)

/-- Whether a text is a number. -/
def isNumber : List Char → Bool
  | '-' :: cs => isMagnitude cs
  | cs => isMagnitude cs

/-- Whether a character may stand in a word or a number. -/
def isBare (c : Char) : Bool := c.isAlphanum || c = '-' || c = '+' || c = '.'

/-- The value that a run of such characters stands for. -/
def ofBare? (cs : List Char) : Option Json :=
  if cs = "null".toList then some null
  else if cs = "true".toList then some (bool true)
  else if cs = "false".toList then some (bool false)
  else if isNumber cs then some (number cs)
  else none

/-- What a JSON text is made of besides blanks. -/
inductive Lexeme where
  | openArray
  | closeArray
  | openObject
  | closeObject
  | comma
  | colon
  /-- A value that is no container. -/
  | scalar (v : Json)

/-- The lexeme that is the single character `c`. -/
def Lexeme.ofChar? (c : Char) : Option Lexeme :=
  if c = '[' then some .openArray
  else if c = ']' then some .closeArray
  else if c = '{' then some .openObject
  else if c = '}' then some .closeObject
  else if c = ',' then some .comma
  else if c = ':' then some .colon
  else none

/-- Cuts a text behind an opening quotation mark into the inside of the string and what comes
behind the closing mark. -/
def splitString : List Char → Option (List Char × List Char)
  | [] => none
  | '"' :: rest => some ([], rest)
  | '\\' :: c :: rest => (splitString rest).map fun (body, r) => ('\\' :: c :: body, r)
  | c :: rest => (splitString rest).map fun (body, r) => (c :: body, r)

theorem length_of_splitString {cs body rest : List Char}
    (h : splitString cs = some (body, rest)) : rest.length < cs.length := by
  fun_induction splitString cs generalizing body with
  | case1 => cases h
  | case2 r => cases h; simp
  | case3 c r ih =>
    obtain ⟨⟨b, r'⟩, hb, he⟩ := Option.map_eq_some_iff.1 h
    cases he
    have := ih hb
    simp only [List.length_cons]
    omega
  | case4 c r _ _ ih =>
    obtain ⟨⟨b, r'⟩, hb, he⟩ := Option.map_eq_some_iff.1 h
    cases he
    have := ih hb
    simp only [List.length_cons]
    omega

/-- The lexemes of a text, unless it holds something that is none. -/
def lexemes? : List Char → Option (List Lexeme)
  | [] => some []
  | c :: cs =>
    if isBlank c then lexemes? cs
    else match Lexeme.ofChar? c with
    | some l => (lexemes? cs).map (l :: ·)
    | none =>
      if c = '"' then
        match _h : splitString cs with
        | none => none
        | some (body, rest) =>
          if (JsonString.units? body).isSome then
            (lexemes? rest).map (.scalar (string body) :: ·)
          else none
      else
        match ofBare? (c :: cs.takeWhile isBare) with
        | none => none
        | some v => (lexemes? (cs.dropWhile isBare)).map (.scalar v :: ·)
termination_by cs => cs.length
decreasing_by
  · simp
  · simp
  · have := length_of_splitString _h
    simp only [List.length_cons]
    omega
  · have := (List.dropWhile_suffix isBare (l := cs)).length_le
    simp only [List.length_cons]
    omega

/-- A container that is still open: its finished elements, the last one first. -/
inductive Frame where
  | array (items : List Json)
  /-- An object in which the value of `key` is being read. -/
  | object (members : List (List Char × Json)) (key : List Char)

/-- What has been read so far, and what may come next. -/
inductive State where
  /-- A value must come. -/
  | value (stack : List Frame)
  /-- A list has just been opened. -/
  | firstItem (stack : List Frame)
  /-- An item of a list is complete. -/
  | afterItem (items : List Json) (stack : List Frame)
  /-- An object has just been opened. -/
  | firstKey (stack : List Frame)
  /-- Another key of an object must come. -/
  | nextKey (members : List (List Char × Json)) (stack : List Frame)
  /-- A key of an object is complete. -/
  | afterKey (members : List (List Char × Json)) (key : List Char) (stack : List Frame)
  /-- A member of an object is complete. -/
  | afterMember (members : List (List Char × Json)) (stack : List Frame)
  /-- The value is complete, and nothing more may come. -/
  | done (v : Json)

namespace State

/-- The state after a value is complete, inside the innermost open container. -/
def complete (v : Json) : List Frame → State
  | [] => done v
  | .array items :: stack => afterItem (v :: items) stack
  | .object members key :: stack => afterMember ((key, v) :: members) stack

/-- The state after the first lexeme of a value. -/
def begin? (stack : List Frame) : Lexeme → Option State
  | .openArray => some (firstItem stack)
  | .openObject => some (firstKey stack)
  | .scalar v => some (complete v stack)
  | _ => none

/-- The state after one more lexeme, if the lexeme may come there. -/
def step : State → Lexeme → Option State
  | value stack, l => begin? stack l
  | firstItem stack, .closeArray => some (complete (array []) stack)
  | firstItem stack, l => begin? (.array [] :: stack) l
  | afterItem items stack, .comma => some (value (.array items :: stack))
  | afterItem items stack, .closeArray => some (complete (array items.reverse) stack)
  | firstKey stack, .closeObject => some (complete (object []) stack)
  | firstKey stack, .scalar (string key) => some (afterKey [] key stack)
  | nextKey members stack, .scalar (string key) => some (afterKey members key stack)
  | afterKey members key stack, .colon => some (value (.object members key :: stack))
  | afterMember members stack, .comma => some (nextKey members stack)
  | afterMember members stack, .closeObject => some (complete (object members.reverse) stack)
  | _, _ => none

/-- The value that has been read, if nothing is missing. -/
def result? : State → Option Json
  | done v => some v
  | _ => none

end State

/-- The value that a sequence of lexemes writes. -/
def ofLexemes? (ls : List Lexeme) : Option Json :=
  (ls.foldlM State.step (State.value [])).bind State.result?

/-- The value that a text writes. -/
def read? (text : String) : Option Json := (lexemes? text.toList).bind ofLexemes?

end Json

end SourceLexer
