/-
A tree of files, and paths through it.

A `Directory` holds everything below one directory.  A path is walked name by
name: it stays where it is at an empty name or a dot, goes up at two dots, and
nothing can be entered from a file.  What lies outside the directory has no
files.
-/
import SourceLexer.Failure
import SourceLexer.Pieces

namespace SourceLexer

/-- What a name in a directory stands for. -/
inductive Entry where
  | file (content : ByteArray)
  | directory

/-- Everything below one directory, by the names that lead there; the newest entry counts. -/
structure Directory where
  entries : List (List (List Char) × Entry)

namespace Directory

/-- A directory with nothing in it. -/
def empty : Directory := ⟨[]⟩

/-- The names on a path that lead somewhere. -/
def namesOf (path : String) : List (List Char) :=
  (pieces '/' path.toList).filter fun name => name ≠ [] ∧ name ≠ ['.']

/-- Puts an entry at a path, and the directories that lead there. -/
def insert (d : Directory) (path : String) (e : Entry) : Directory :=
  let names := namesOf path
  let parents := (List.range names.length).map fun n => (names.take n, Entry.directory)
  ⟨(names, e) :: parents ++ d.entries⟩

/-- What the names, from the outermost to the innermost, lead to. -/
def find? (d : Directory) (names : List (List Char)) : Option Entry :=
  if names.isEmpty then some .directory else (d.entries.find? (·.1 = names)).map (·.2)

/-- Where the walk along a path stands. -/
inductive Place where
  /-- Below the directory, at the end of the given names. -/
  | below (names : List (List Char))
  /-- In a directory that is not below it. -/
  | outside

/-- How many bytes a name takes. -/
def byteLength (name : List Char) : Nat := (String.ofList name).utf8ByteSize

/-- What is at a place. -/
def entryAt (d : Directory) : Place → Option Entry
  | .below names => d.find? names
  | .outside => some .directory

/-- The place that a name leads to from a directory at `place`. -/
def enter (d : Directory) (place : Place) (name : List Char) : Except ReadFault Place :=
  if name = [] ∨ name = ['.'] then .ok place
  else if 255 < byteLength name then .error .nameTooLong
  else
    match place with
    | .outside => if name = ['.', '.'] then .ok .outside else .error .notFound
    | .below names =>
      if name = ['.', '.'] then
        .ok (if names.isEmpty then .outside else .below names.dropLast)
      else if (d.find? (names ++ [name])).isSome then .ok (.below (names ++ [name]))
      else .error .notFound

/-- The place that one more name leads to, wherever the walk stands. -/
def step (d : Directory) (place : Place) (name : List Char) : Except ReadFault Place :=
  match d.entryAt place with
  | some .directory => d.enter place name
  | some (.file _) => .error .notADirectory
  | none => .error .notFound

/-- The place that a path leads to; a path that begins with a slash starts outside. -/
def walk (d : Directory) (path : String) : Except ReadFault Place :=
  if path.toList.contains '\x00' then .error .nulInPath
  else if path.isEmpty then .error .notFound
  else if 4096 ≤ path.utf8ByteSize then .error .nameTooLong
  else
    let start := if path.toList.head? = some '/' then .outside else .below []
    (pieces '/' path.toList).foldlM d.step start

/-- The content of the file that a path leads to. -/
def read (d : Directory) (path : String) : Except ReadFault ByteArray :=
  match d.walk path with
  | .error fault => .error fault
  | .ok place =>
    match d.entryAt place with
    | some (.file content) => .ok content
    | some .directory => .error .isADirectory
    | none => .error .notFound

end Directory

end SourceLexer
