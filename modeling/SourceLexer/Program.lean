/-
The program, but for reading files and writing output.

`Program.runWith` is a function of the arguments and of what surrounds the program
(`Surroundings`): what files hold, what comes in on standard input, and two
variables.  It gives the exit code and what is written to the two outputs.  The
listing is written only as a whole, and the log has no influence on it, whichever
libraries write it; `Program.run` is the program with those that it has.
-/
import SourceLexer.Command
import SourceLexer.Failure
import SourceLexer.LogReport

namespace SourceLexer

/-- The path that stands for standard input. -/
def standardInput : String := "-"

/-- What a source is called in listings and failures. -/
def labelOf (path : String) : String := if path = standardInput then "<stdin>" else path

/-- The text that bytes stand for, if they could be read and are strict UTF-8. -/
def textOf (content : Except ReadFault ByteArray) : Except ReadFault String :=
  match content with
  | .error fault => .error fault
  | .ok bytes =>
    match String.fromUTF8? bytes with
    | some text => .ok text
    | none => .error .invalidText

/-- The listing of the content of `path`, or what stops it. -/
def lexContent (path : String) (format : Format) (content : Except ReadFault ByteArray) :
    Except Failure String :=
  match textOf content with
  | .error fault => .error (.ofRead (labelOf path) fault)
  | .ok source =>
    match lex source with
    | .error e => .error (.lexing e)
    | .ok tokens => .ok (listing format (labelOf path) tokens)

/-- What there is to log of it. -/
def logOf (path : String) (content : Except ReadFault ByteArray) : LogReport where
  path := path
  scanned :=
    match textOf content with
    | .error _ => none
    | .ok source => some (source.utf8ByteSize, (scan source).events)

/-- What a program finds around itself. -/
structure Surroundings where
  files : String → Except ReadFault ByteArray
  input : Except ReadFault ByteArray
  ownVariable : Option String
  sharedVariable : Option String

/-- Bytes are content that can be read. -/
instance : Coe ByteArray (Except ReadFault ByteArray) := ⟨.ok⟩

/-- What a path leads to: standard input or a file. -/
def Surroundings.content (s : Surroundings) (path : String) : Except ReadFault ByteArray :=
  if path = standardInput then s.input else s.files path

/-- What a program leaves behind. -/
structure Outcome where
  exitCode : UInt32
  output : String
  errors : String

namespace Program

/-- The answer to `--version`. -/
def versionText : String := "gib 0.1.0\n"

/-- How the program is to be called. -/
def usage : String :=
  "usage: gib [--log-level FILTER] lex FILE [--format text|json] [--log-level FILTER]\n"

/-- The exit code of a program that ends in the middle of a call. -/
def panicCode : UInt32 := 101

variable {φ : Type} (L : Logging φ)

/-- Runs the command `lex`. -/
def runLex (file : String) (format : Format) (settings : LogSettings)
    (content : Except ReadFault ByteArray) : Outcome :=
  match L.text settings (logOf file content) with
  | .error panic => ⟨panicCode, "", panic.words⟩
  | .ok log =>
    match lexContent file format content with
    | .ok output => ⟨0, output, log⟩
    | .error failure => ⟨1, "", log ++ "error: " ++ failure.message ++ "\n"⟩

/-- Runs the program, with `L` to log. -/
def runWith (arguments : List String) (s : Surroundings) : Outcome :=
  match Command.parse arguments with
  | none => ⟨2, "", usage⟩
  | some .version => ⟨0, versionText, ""⟩
  | some (.help topic) => ⟨0, topic.text, ""⟩
  | some (.lex file format logLevel) =>
    runLex L file format ⟨logLevel, s.ownVariable, s.sharedVariable⟩ (s.content file)

/-- Runs the program. -/
def run : List String → Surroundings → Outcome := runWith .standard

end Program

end SourceLexer
