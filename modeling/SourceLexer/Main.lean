/-
The command line.

Everything is decided in `Program.run`; here the arguments, the variables and
the one source that the command names are fetched, and the outcome is written.
-/
import SourceLexer.Program

namespace SourceLexer

/-- The number and the words of an error of the system; some numbers are written as negative
words. -/
def systemError (e : IO.Error) : Option (Nat × String) :=
  match e with
  | .noFileOrDirectory _ n d | .permissionDenied _ n d | .inappropriateType _ n d
  | .invalidArgument _ n d | .resourceExhausted _ n d | .interrupted _ n d
  | .otherError n d => some (min n.toNat (-n).toNat, d)
  | _ => none

/-- The fault that an error stands for. -/
def faultOf (e : IO.Error) : ReadFault :=
  match systemError e with
  | some (n, words) => .ofSystem n words
  | none => ⟨.other, toString e⟩

/-- The bytes of a file. -/
def readFile (path : String) : IO (Except ReadFault ByteArray) := do
  try
    pure (.ok (← IO.FS.readBinFile path))
  catch e => pure (.error (faultOf e))

/-- All bytes that come in on a stream, behind `read`. -/
partial def readAll (stream : IO.FS.Stream) (read : ByteArray) : IO ByteArray := do
  let more ← stream.read 65536
  if more.isEmpty then pure read else readAll stream (read ++ more)

/-- The bytes of standard input, of which there are none if it cannot be read from at all, which is
error 9. -/
def readInput : IO (Except ReadFault ByteArray) := do
  try
    pure (.ok (← readAll (← IO.getStdin) ByteArray.empty))
  catch e =>
    if (systemError e).any (·.1 = 9) then pure (.ok ByteArray.empty)
    else pure (.error (faultOf e))

/-- What surrounds the program, with the one source that the arguments name. -/
def surroundings (arguments : List String) : IO Surroundings := do
  let own ← IO.getEnv "GIB_LOG"
  let shared ← IO.getEnv "RUST_LOG"
  let nothing : Except ReadFault ByteArray := .ok ByteArray.empty
  match Command.parse arguments with
  | some (.lex file _ _) =>
    if file = standardInput then
      pure ⟨fun _ => nothing, ← readInput, own, shared⟩
    else
      let content ← readFile file
      pure ⟨fun _ => content, nothing, own, shared⟩
  | _ => pure ⟨fun _ => nothing, nothing, own, shared⟩

end SourceLexer

/-- Runs the program with the arguments of the command line. -/
def main (arguments : List String) : IO UInt32 := do
  let outcome := SourceLexer.Program.run arguments (← SourceLexer.surroundings arguments)
  IO.eprint outcome.errors
  IO.print outcome.output
  pure outcome.exitCode
