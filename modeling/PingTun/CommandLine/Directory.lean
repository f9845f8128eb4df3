-- SUMMARY: A working directory, and what its paths lead to.
import PingTun.Config.File
import PingTun.Text.Utf8

/-! # Directories

Nothing is known of what is around the directory, except that it is in some directory.
-/

namespace PingTun.CommandLine

/-- A directory by its files, which have names. -/
structure Directory where
  files : List (String × List UInt8) := []

/-- Where a path has led so far. -/
inductive Place
  | here
  | elsewhere
  | file (bytes : List UInt8)

namespace Directory

def greatestPathLength : Nat := 4095

def greatestNameLength : Nat := 255

/-- Go on from a place to what a name stands for there. -/
def step (d : Directory) (place : Place) (name : String) : Except Errno Place :=
  match place with
  | .file _ => .error .notADirectory
  | .here | .elsewhere =>
    if name = "" ∨ name = "." then .ok place
    else if name = ".." then .ok .elsewhere
    else if greatestNameLength < name.utf8ByteSize then .error .nameTooLong
    else
      match place, d.files.find? (·.1 == name) with
      | .here, some (_, bytes) => .ok (.file bytes)
      | _, _ => .error .noSuchFile

/-- What a path leads to. -/
def lookUp (d : Directory) (path : String) : File :=
  if path = "" then .refused (.os .noSuchFile)
  else if greatestPathLength < path.utf8ByteSize then .refused (.os .nameTooLong)
  else
    let start := if path.toList.head? = some '/' then Place.elsewhere else .here
    match ((path.toList.splitOn '/').map String.ofList).foldlM d.step start with
    | .error cause => .refused (.os cause)
    | .ok (.file bytes) => .opened bytes
    | .ok _ => .opened [] (some .isADirectory)

end Directory

end PingTun.CommandLine
