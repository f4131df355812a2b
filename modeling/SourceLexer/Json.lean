/-
JSON values and their text.

A `Json` keeps numbers and strings as they are written, so that a reader can
pass over a value without asking what it stands for.  It is written without any
space (`Json.compact`) or with one element a line and an indentation of two
spaces (`Json.pretty`); an empty list or object is `[]` or `{}` in both.
-/
import SourceLexer.JsonString

namespace SourceLexer

/-- A JSON value, with the spelling of its numbers and strings. -/
inductive Json where
  | null
  | bool (b : Bool)
  | number (literal : List Char)
  | string (body : List Char)
  | array (items : List Json)
  | object (members : List (List Char × Json))

namespace Json

/-- A text as a JSON string. -/
def ofText (text : String) : Json := string (JsonString.escape text.toList)

/-- An integer as a JSON number. -/
def ofInt (n : Int) : Json := number n.repr.toList

/-- An object with the given names and values. -/
def ofFields (fields : List (String × Json)) : Json :=
  object (fields.map fun (name, v) => (JsonString.escape name.toList, v))

/-- A string as it is written. -/
def quoted (body : List Char) : List Char := '"' :: body ++ ['"']

mutual

/-- A value written without any space. -/
def compact : Json → List Char
  | null => "null".toList
  | bool true => "true".toList
  | bool false => "false".toList
  | number literal => literal
  | string body => quoted body
  | array [] => ['[', ']']
  | array (v :: vs) => '[' :: v.compact ++ compactItems vs ++ [']']
  | object [] => ['{', '}']
  | object ((key, v) :: ms) => '{' :: quoted key ++ ':' :: v.compact ++ compactMembers ms ++ ['}']

/-- The items behind the first one. -/
def compactItems : List Json → List Char
  | [] => []
  | v :: vs => ',' :: v.compact ++ compactItems vs

/-- The members behind the first one. -/
def compactMembers : List (List Char × Json) → List Char
  | [] => []
  | (key, v) :: ms => ',' :: quoted key ++ ':' :: v.compact ++ compactMembers ms

end

/-- A new line indented by two spaces for each level of `depth`. -/
def newline (depth : Nat) : List Char := '\n' :: List.replicate (2 * depth) ' '

mutual

/-- A value that starts in the current line at `depth`, with one element a line. -/
def pretty (depth : Nat) : Json → List Char
  | null => "null".toList
  | bool true => "true".toList
  | bool false => "false".toList
  | number literal => literal
  | string body => quoted body
  | array [] => ['[', ']']
  | array (v :: vs) =>
    '[' :: newline (depth + 1) ++ v.pretty (depth + 1) ++ prettyItems (depth + 1) vs ++
      newline depth ++ [']']
  | object [] => ['{', '}']
  | object ((key, v) :: ms) =>
    '{' :: newline (depth + 1) ++ quoted key ++ ':' :: ' ' :: v.pretty (depth + 1) ++
      prettyMembers (depth + 1) ms ++ newline depth ++ ['}']

/-- The items behind the first one. -/
def prettyItems (depth : Nat) : List Json → List Char
  | [] => []
  | v :: vs => ',' :: newline depth ++ v.pretty depth ++ prettyItems depth vs

/-- The members behind the first one. -/
def prettyMembers (depth : Nat) : List (List Char × Json) → List Char
  | [] => []
  | (key, v) :: ms =>
    ',' :: newline depth ++ quoted key ++ ':' :: ' ' :: v.pretty depth ++ prettyMembers depth ms

end

/-- The compact text of a value. -/
def compactText (v : Json) : String := String.ofList v.compact

/-- The pretty text of a value. -/
def prettyText (v : Json) : String := String.ofList (v.pretty 0)

end Json

end SourceLexer
