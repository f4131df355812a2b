/-
What the command line asks for.

The program knows the command `lex`, with the option `--format`, and the option
`--log-level` before or behind it; the version is told and help is given at once,
whatever comes later.  Options are written in full, once on each side of the
command, with their value behind an equals sign or as the next argument.  What is
not understood is a usage error, of which there is only one (`Command.parse`
gives `none`).
-/
import SourceLexer.Help
import SourceLexer.Listing

namespace SourceLexer

/-- How an argument is to be taken where options may come. -/
inductive Argument where
  /-- Two hyphens: there are no more options. -/
  | endOfOptions
  /-- An option in full, with the value behind its equals sign. -/
  | long (name : String) (value : Option String)
  /-- A hyphen and letters. -/
  | short (letters : List Char)
  /-- No option; a hyphen alone is none. -/
  | plain (text : String)

namespace Argument

/-- How an argument is to be taken. -/
def of (text : String) : Argument :=
  match text.toList with
  | ['-', '-'] => endOfOptions
  | '-' :: '-' :: cs =>
    long (String.ofList (cs.takeWhile (· ≠ '=')))
      (match cs.dropWhile (· ≠ '=') with
       | [] => none
       | _ :: value => some (String.ofList value))
  | '-' :: c :: cs => short (c :: cs)
  | _ => plain text

/-- Whether an argument can be the value of the option before it. -/
def isValue (text : String) : Bool :=
  match of text with
  | plain _ => true
  | _ => false

end Argument

/-- What the program is asked to do. -/
inductive Command where
  | version
  | help (topic : HelpTopic)
  /-- Lists the tokens of a file. -/
  | lex (file : String) (format : Format) (logLevel : Option String)

/-- What the command `lex` has been given. -/
structure LexArguments where
  file : Option String
  format : Option Format
  logLevel : Option String

namespace LexArguments

/-- Takes the file, if there is none yet. -/
def withFile (a : LexArguments) (file : String) : Option LexArguments :=
  if a.file.isNone then some { a with file := some file } else none

/-- Takes the value of an option, if there is such an option and it has no value yet. -/
def withOption (a : LexArguments) (name value : String) : Option LexArguments :=
  if name = "format" ∧ a.format.isNone then
    (Format.ofName? value).map fun format => { a with format := some format }
  else if name = "log-level" ∧ a.logLevel.isNone then some { a with logLevel := some value }
  else none

/-- The command that the arguments make, if there is a file among them. -/
def command (a : LexArguments) : Option Command :=
  a.file.map fun file => .lex file (a.format.getD .text) a.logLevel

/-- Takes what comes behind the command. -/
def parse (a : LexArguments) : List String → Option Command
  | [] => a.command
  | text :: rest =>
    match Argument.of text with
    | .endOfOptions => (rest.foldlM withFile a).bind command
    | .plain file => (a.withFile file).bind (·.parse rest)
    | .long name (some value) => (a.withOption name value).bind (·.parse rest)
    | .long name none =>
      if name = "help" then some (.help .lexInFull)
      else
        match rest with
        | [] => none
        | value :: rest' =>
          if Argument.isValue value then (a.withOption name value).bind (·.parse rest') else none
    | .short letters => if letters.head? = some 'h' then some (.help .lexInShort) else none

end LexArguments

namespace Command

/-- The option for the log before a command, where none is behind it. -/
def orLogLevel (logLevel : Option String) : Command → Command
  | lex file format inner => lex file format (inner.or logLevel)
  | c => c

/-- The help that is asked for by the names of commands. -/
def ofHelp : List String → Option Command
  | [] => some (help .program)
  | ["lex"] => some (help .lexInFull)
  | ["help"] => some (help .help)
  | _ => none

/-- Takes the arguments up to the command. -/
def parseFrom (logLevel : Option String) : List String → Option Command
  | [] => none
  | text :: rest =>
    match Argument.of text with
    | .plain name =>
      if name = "lex" then (LexArguments.parse ⟨none, none, none⟩ rest).map (orLogLevel logLevel)
      else if name = "help" then ofHelp rest
      else none
    | .short letters =>
      if letters.head? = some 'V' then some version
      else if letters.head? = some 'h' then some (help .program)
      else none
    | .long name value? =>
      if name = "version" ∧ value?.isNone then some version
      else if name = "help" ∧ value?.isNone then some (help .program)
      else if name = "log-level" ∧ logLevel.isNone then
        match value? with
        | some value => parseFrom (some value) rest
        | none =>
          match rest with
          | [] => none
          | value :: rest' =>
            if Argument.isValue value then parseFrom (some value) rest' else none
      else none
    | .endOfOptions => none

/-- What the arguments of the program ask for; none is a usage error. -/
def parse (arguments : List String) : Option Command := parseFrom none arguments

end Command

end SourceLexer
