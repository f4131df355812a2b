/-
Lists of tokens as output.

A listing is made for people, with a header and one line a token
(`Listing.text`), or for tools, as a JSON list of the tokens (`Listing.json`).
Either ends with a newline.
-/
import SourceLexer.TokenJson

namespace SourceLexer

/-- How tokens are listed. -/
inductive Format where
  | text
  | json
deriving DecidableEq

namespace Format

/-- The name of a format. -/
def name : Format → String
  | text => "text"
  | json => "json"

/-- The format with a given name. -/
def ofName? (name : String) : Option Format := [text, json].find? (·.name = name)

end Format

namespace Listing

/-- The first line of a listing for people. -/
def header (label : String) (count : Nat) : String :=
  "Tokens for '" ++ label ++ "' (" ++ count.repr ++ " tokens):\n"

/-- The line of a token. -/
def line (t : Token) : String := "  " ++ t.display ++ "\n"

/-- A listing for people. -/
def text (label : String) (tokens : List Token) : String :=
  header label tokens.length ++ String.join (tokens.map line)

/-- A listing for tools. -/
def json (tokens : List Token) : String := (Token.jsonList tokens).prettyText ++ "\n"

end Listing

/-- A listing in either format. -/
def listing (format : Format) (label : String) (tokens : List Token) : String :=
  match format with
  | .text => Listing.text label tokens
  | .json => Listing.json tokens

end SourceLexer
