/-
Tokens and positions as JSON.

A record is written as an object with one member for each field, in the order
of the fields, and a kind as its label.  A record is read from an object, whose
members may come in any order among others that are passed over, or from a list
of exactly its fields in order; a kind is read from its label or from an object
whose only member has the label as key and `null` as value.  A field that comes
twice or not at all, or that holds anything but an integer in range or a text,
makes the record unreadable.
-/
import SourceLexer.JsonReader
import SourceLexer.Token

namespace SourceLexer

namespace Json

/-- The text of a JSON string. -/
def text? : Json → Option String
  | string body => (JsonString.unescape? body).map String.ofList
  | _ => none

/-- The value of a run of digits. -/
def natural? (ds : List Char) : Option Nat :=
  if isDigits ds then some (Nat.ofDigitChars 10 ds 0) else none

/-- The integer that a JSON number stands for; none if it has a point or an exponent or is written
as a negative zero. -/
def integer? : Json → Option Int
  | number ('-' :: ds) => (natural? ds).bind fun n => if n = 0 then none else some (-(n : Int))
  | number ds => (natural? ds).map fun n => (n : Int)
  | _ => none

/-- The unsigned word that a JSON number stands for. -/
def uint32? (v : Json) : Option UInt32 :=
  (integer? v).bind fun n =>
    if 0 ≤ n ∧ n < UInt32.size then some (UInt32.ofNat n.toNat) else none

/-- The signed word that a JSON number stands for. -/
def int32? (v : Json) : Option Int32 :=
  (integer? v).bind fun n =>
    if Int32.minValue.toInt ≤ n ∧ n ≤ Int32.maxValue.toInt then some (Int32.ofInt n) else none

/-- The value of the only member called `name`. -/
def member? (members : List (String × Json)) (name : String) : Option Json :=
  match members.filter fun m => m.1 = name with
  | [m] => some m.2
  | _ => none

/-- The values of a record with fields called `names`, in the order of the names. -/
def fields? (names : List String) : Json → Option (List Json)
  | array items => if items.length = names.length then some items else none
  | object members => do
    let named ← members.mapM fun m => (JsonString.unescape? m.1).map fun k => (String.ofList k, m.2)
    names.mapM (member? named)
  | _ => none

/-- The items of a list, each read with `read`. -/
def items? {α : Type} (read : Json → Option α) : Json → Option (List α)
  | array items => items.mapM read
  | _ => none

end Json

namespace Kind

/-- A kind as JSON. -/
def json (k : Kind) : Json := .ofText k.label

/-- The kind that a JSON value stands for. -/
def ofJson? : Json → Option Kind
  | .object [(key, .null)] => (Json.text? (.string key)).bind ofLabel?
  | v => v.text?.bind ofLabel?

end Kind

namespace Position

/-- A position as JSON. -/
def json (p : Position) : Json :=
  .ofFields [("line", .ofInt p.line.toNat), ("column", .ofInt p.column.toInt)]

/-- The position that a JSON value stands for. -/
def ofJson? (v : Json) : Option Position := do
  let [line, column] ← v.fields? ["line", "column"] | none
  pure ⟨← line.uint32?, ← column.int32?⟩

end Position

namespace Token

/-- The names of a token's fields, in order. -/
def fieldNames : List String :=
  ["kind", "text", "start_line", "end_line", "start_offset", "end_offset"]

/-- The values of a token's fields, in order. -/
def fieldValues (t : Token) : List Json :=
  [t.kind.json, .ofText t.text, .ofInt t.startLine.toNat, .ofInt t.endLine.toNat,
   .ofInt t.startOffset.toInt, .ofInt t.endOffset.toNat]

/-- A token as JSON. -/
def json (t : Token) : Json := .ofFields (fieldNames.zip t.fieldValues)

/-- The token that a JSON value stands for. -/
def ofJson? (v : Json) : Option Token := do
  let [kind, text, startLine, endLine, startOffset, endOffset] ← v.fields? fieldNames | none
  pure
    { kind := ← Kind.ofJson? kind
      text := ← text.text?
      startLine := ← startLine.uint32?
      endLine := ← endLine.uint32?
      startOffset := ← startOffset.int32?
      endOffset := ← endOffset.uint32? }

/-- Tokens as a JSON list. -/
def jsonList (ts : List Token) : Json := .array (ts.map json)

/-- The tokens that a JSON list stands for. -/
def listOfJson? (v : Json) : Option (List Token) := v.items? ofJson?

end Token

end SourceLexer
