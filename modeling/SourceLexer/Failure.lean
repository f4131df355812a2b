/-
What stops a command.

A command stops because its source cannot be read, because the source does not
lex, or because its tokens cannot be encoded.  A fault of reading is sorted by
its kind into one of four failures (`Failure.ofRead`), and only what has no
failure of its own keeps the words of the fault.
-/
import SourceLexer.LexError

namespace SourceLexer

/-- The kinds of faults that reading can meet. -/
inductive FaultKind where
  | notFound
  | permissionDenied
  | invalidData
  | invalidInput
  | unexpectedEof
  | interrupted
  | timedOut
  | alreadyExists
  | brokenPipe
  | outOfMemory
  | unsupported
  | isADirectory
  | notADirectory
  | nameTooLong
  | other
deriving DecidableEq

/-- A fault of reading: its kind, and the fault in words. -/
structure ReadFault where
  kind : FaultKind
  detail : String
deriving DecidableEq

namespace ReadFault

/-- Nothing is there. -/
def notFound : ReadFault := ⟨.notFound, "No such file or directory (os error 2)"⟩

/-- Reading is not allowed. -/
def permissionDenied : ReadFault := ⟨.permissionDenied, "Permission denied (os error 13)"⟩

/-- A name goes on where there is no directory. -/
def notADirectory : ReadFault := ⟨.notADirectory, "Not a directory (os error 20)"⟩

/-- A directory has no content. -/
def isADirectory : ReadFault := ⟨.isADirectory, "Is a directory (os error 21)"⟩

/-- A name or a path is longer than allowed. -/
def nameTooLong : ReadFault := ⟨.nameTooLong, "File name too long (os error 36)"⟩

/-- A path holds the character that ends paths. -/
def nulInPath : ReadFault := ⟨.invalidInput, "file name contained an unexpected NUL byte"⟩

/-- What was read is no text. -/
def invalidText : ReadFault := ⟨.invalidData, "stream did not contain valid UTF-8"⟩

/-- The fault that the system reports by a number and in words. -/
def ofSystem (number : Nat) (words : String) : ReadFault :=
  match number with
  | 2 => notFound
  | 13 => permissionDenied
  | 20 => notADirectory
  | 21 => isADirectory
  | 36 => nameTooLong
  | n => ⟨.other, words ++ " (os error " ++ n.repr ++ ")"⟩

end ReadFault

/-- Why a command stopped. -/
inductive Failure where
  | notFound (path : String)
  | permissionDenied (path : String)
  /-- The source is no text. -/
  | invalidText (path : String)
  /-- Reading met any other fault. -/
  | unreadable (path : String) (fault : ReadFault)
  | lexing (error : LexError)
  | encoding (detail : String)
deriving DecidableEq

namespace Failure

/-- The failure that a fault of reading `path` leads to. -/
def ofRead (path : String) (fault : ReadFault) : Failure :=
  match fault.kind with
  | .notFound => notFound path
  | .permissionDenied => permissionDenied path
  | .invalidData => invalidText path
  | _ => unreadable path fault

/-- The failure in words. -/
def message : Failure → String
  | notFound path => "cannot find file '" ++ path ++ "'"
  | permissionDenied path => "permission denied reading '" ++ path ++ "'"
  | invalidText path => "'" ++ path ++ "' contains invalid UTF-8 data"
  | unreadable path fault => "error reading '" ++ path ++ "': " ++ fault.detail
  | lexing error => error.message
  | encoding detail => "failed to encode tokens as JSON: " ++ detail

/-- The words of the fault behind a failure, where the failure is not the fault itself. -/
def cause? : Failure → Option String
  | unreadable _ fault => some fault.detail
  | encoding detail => some detail
  | _ => none

end Failure

end SourceLexer
