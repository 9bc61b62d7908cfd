/-!
# Files

The files that the process can read, as a directory with entries by name, and what goes wrong when
a path is opened or a file is read.
-/

namespace Autoscaler.Files

inductive File where
  | regular (content : List UInt8)
  | directory
deriving DecidableEq, Repr

inductive Fault where
  | notFound
  | notADirectory
  | isADirectory
  | nameTooLong
  | containsNul
deriving DecidableEq, Repr

def Fault.message : Fault → String
  | notFound => "No such file or directory (os error 2)"
  | notADirectory => "Not a directory (os error 20)"
  | isADirectory => "Is a directory (os error 21)"
  | nameTooLong => "File name too long (os error 36)"
  | containsNul => "file name contained an unexpected NUL byte"

/-- The entries of the working directory and of the directories in it, by their paths. -/
structure Tree where
  entries : List (List String × File) := []

/-- A name has at most so many bytes. -/
def maxName : Nat := 255

def maxPath : Nat := 4096

/-- The names that a path consists of; slashes in a row count as one. -/
def names (path : String) : List String := (path.splitOn "/").filter (!·.isEmpty)

namespace Tree

def ofList (entries : List (String × File)) : Tree :=
  ⟨entries.map fun (path, file) => (names path, file)⟩

def entryAt? (t : Tree) (path : List String) : Option File :=
  if path.isEmpty then some .directory
  else (t.entries.find? (·.1 == path)).map Prod.snd

/-- Follows names from the place `walked`, whose names come last one first. The way leads through
directories only, and nothing but directories is found outside the tree. -/
def walk (t : Tree) (walked : List String) (here : File) : List String → Except Fault File
  | [] => .ok here
  | name :: rest =>
    match here with
    | .regular _ => .error .notADirectory
    | .directory =>
      if name = "." then t.walk walked here rest
      else if name = ".." then
        match walked with
        | [] => if rest.all fun n => n == "." || n == ".." then .ok .directory else .error .notFound
        | _ :: outer => t.walk outer .directory rest
      else if name.utf8ByteSize > maxName then .error .nameTooLong
      else match t.entryAt? (name :: walked).reverse with
        | some file => t.walk (name :: walked) file rest
        | none => .error .notFound

/-- Opens a path. Nothing is known outside the working directory. -/
def openPath (t : Tree) (path : String) : Except Fault File :=
  if path.toList.contains '\x00' then .error .containsNul
  else if path.isEmpty then .error .notFound
  else if maxPath ≤ path.utf8ByteSize then .error .nameTooLong
  else if path.startsWith "/" then
    if (names path).isEmpty then .ok .directory else .error .notFound
  else do
    let file ← t.walk [] .directory (names path)
    match file with
    | .regular _ => if path.endsWith "/" then .error .notADirectory else .ok file
    | .directory => .ok file

end Tree

def File.read : File → Except Fault (List UInt8)
  | regular content => .ok content
  | directory => .error .isADirectory

end Autoscaler.Files
