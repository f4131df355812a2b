/-
The kinds of tokens.

The set is closed.  Operators have one spelling each, keywords are words set
apart from identifiers (`Kind.keyword?`), and strings, identifiers and integers
carry the text that was written.
-/
namespace SourceLexer

/-- What a token is. -/
inductive Kind where
  | star
  | slash
  | plus
  | minus
  | equals
  | doubleEquals
  | string
  | identifier
  | integer
  | kwLet
  | kwConst
  | kwVar
deriving DecidableEq

namespace Kind

/-- Every kind: operators, then literals and names, then keywords. -/
def all : List Kind :=
  [star, slash, plus, minus, equals, doubleEquals, string, identifier, integer,
   kwLet, kwConst, kwVar]

theorem mem_all (k : Kind) : k ∈ all := by cases k <;> decide

/-- The name of a kind in listings and logs. -/
def name : Kind → String
  | star => "STAR"
  | slash => "SLASH"
  | plus => "PLUS"
  | minus => "MINUS"
  | equals => "EQUALS"
  | doubleEquals => "DOUBLE_EQUALS"
  | string => "STRING"
  | identifier => "IDENTIFIER"
  | integer => "INTEGER"
  | kwLet => "KW_LET"
  | kwConst => "KW_CONST"
  | kwVar => "KW_VAR"

/-- The name of a kind in data and in dumps. -/
def label : Kind → String
  | star => "Star"
  | slash => "Slash"
  | plus => "Plus"
  | minus => "Minus"
  | equals => "Equals"
  | doubleEquals => "DoubleEquals"
  | string => "String"
  | identifier => "Identifier"
  | integer => "Integer"
  | kwLet => "KwLet"
  | kwConst => "KwConst"
  | kwVar => "KwVar"

/-- The kind with a given name. -/
def ofName? (name : String) : Option Kind := all.find? (·.name = name)

/-- The kind with a given label. -/
def ofLabel? (label : String) : Option Kind := all.find? (·.label = label)

theorem ofName?_name (k : Kind) : ofName? k.name = some k := by cases k <;> decide

theorem ofLabel?_label (k : Kind) : ofLabel? k.label = some k := by cases k <;> decide

/-- Whether a kind is a keyword. -/
def isKeyword : Kind → Bool
  | kwLet | kwConst | kwVar => true
  | _ => false

/-- The keyword spelled exactly `word`, if there is one. -/
def keyword? (word : String) : Option Kind :=
  if word = "let" then some kwLet
  else if word = "const" then some kwConst
  else if word = "var" then some kwVar
  else none

/-- The kind of a run of letters: a keyword if it is spelled like one, else an identifier. -/
def ofWord (word : String) : Kind := (keyword? word).getD identifier

theorem isKeyword_of_keyword? {word : String} {k : Kind} (h : keyword? word = some k) :
    k.isKeyword = true := by
  unfold keyword? at h
  split at h
  · cases h; rfl
  · split at h
    · cases h; rfl
    · split at h
      · cases h; rfl
      · cases h

end Kind

end SourceLexer
