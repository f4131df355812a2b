/-
Values written out for inspection.

A `Dump` is the shape of such a text: bare text, a value wrapped in a name, a
list, or a record of named fields.  It is written on one line
(`Dump.inline`, as in `Position { line: 0, column: -1 }`) or as a block
with one field a line (`Dump.block`).
-/
namespace SourceLexer

/-- The shape of a value written out for inspection. -/
inductive Dump where
  | atom (text : String)
  | wrapped (name : String) (inner : Dump)
  | list (items : List Dump)
  | record (name : String) (fields : List (String × Dump))

namespace Dump

mutual

/-- The dump on one line. -/
def inline : Dump → String
  | atom text => text
  | wrapped name inner => name ++ "(" ++ inner.inline ++ ")"
  | list items => "[" ++ ", ".intercalate (inlineItems items) ++ "]"
  | record name fields => name ++ " \x7b " ++ ", ".intercalate (inlineFields fields) ++ " \x7d"

/-- Each item on one line. -/
def inlineItems : List Dump → List String
  | [] => []
  | d :: ds => d.inline :: inlineItems ds

/-- Each field as `name: value`. -/
def inlineFields : List (String × Dump) → List String
  | [] => []
  | (name, d) :: rest => (name ++ ": " ++ d.inline) :: inlineFields rest

end

/-- A new line indented by four spaces for each level of `depth`. -/
def newline (depth : Nat) : String := String.ofList ('\n' :: List.replicate (4 * depth) ' ')

mutual

/-- The dump as a block that starts in the current line at `depth`: what stands inside a name,
a list or a record has lines of its own, each closed by a comma. -/
def block (depth : Nat) : Dump → String
  | atom text => text
  | wrapped name inner =>
    name ++ "(" ++ newline (depth + 1) ++ inner.block (depth + 1) ++ "," ++ newline depth ++ ")"
  | list [] => "[]"
  | list (d :: ds) => "[" ++ blockItems (depth + 1) (d :: ds) ++ newline depth ++ "]"
  | record name fields =>
    name ++ " \x7b" ++ blockFields (depth + 1) fields ++ newline depth ++ "\x7d"

/-- The items of a list, each on lines of its own. -/
def blockItems (depth : Nat) : List Dump → String
  | [] => ""
  | d :: ds => newline depth ++ d.block depth ++ "," ++ blockItems depth ds

/-- The fields of a record, each on lines of its own. -/
def blockFields (depth : Nat) : List (String × Dump) → String
  | [] => ""
  | (name, d) :: rest =>
    newline depth ++ name ++ ": " ++ d.block depth ++ "," ++ blockFields depth rest

end

/-- A natural number. -/
def nat (n : Nat) : Dump := atom n.repr

/-- An integer, with a minus sign if it is negative. -/
def int (n : Int) : Dump := atom n.repr

end Dump

end SourceLexer
