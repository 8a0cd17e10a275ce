import BuildPackage.Path

set_option relaxedAutoImplicit false
set_option autoImplicit false

/-!
# File trees

The files that a program finds below the directory in which it runs. A path is followed one segment
at a time. Nothing is known of what lies outside of that directory, so nothing is found there. The
system bounds the size of a path and of each of its segments, and a path with a NUL never reaches the
system.

## Main definitions

* `BuildPackage.FileTree` — files and directories by their places.
* `BuildPackage.FileTree.find` — what a path leads to.
* `BuildPackage.FileTree.readFile`, `BuildPackage.FileTree.isFile` — what a program asks.
-/

namespace BuildPackage

/-- Why a file is not read. -/
inductive ReadFault where
  /-- The path leads to nothing. -/
  | notFound
  /-- The path goes through a file. -/
  | notDirectory
  /-- The path leads to a directory. -/
  | isDirectory
  /-- The path or one of its segments is too long. -/
  | nameTooLong
  /-- The path has a NUL in it. -/
  | nulInName
  /-- Another fault, in the words of the system. -/
  | other (text : String)
  deriving DecidableEq, Repr

/-- The wording of a fault. -/
def ReadFault.message : ReadFault → String
  | notFound => "No such file or directory (os error 2)"
  | notDirectory => "Not a directory (os error 20)"
  | isDirectory => "Is a directory (os error 21)"
  | nameTooLong => "File name too long (os error 36)"
  | nulInName => "file name contained an unexpected NUL byte"
  | other text => text

/-! ## Sizes -/

/-- The most bytes that a segment of a path may have. -/
def maxSegmentSize : Nat := 255

/-- The most bytes that a path may have. -/
def maxPathSize : Nat := 4095

/-- The number of bytes of a segment. -/
def segmentSize (segment : List Char) : Nat := (String.ofList segment).utf8ByteSize

/-! ## Trees -/

/-- What stands at a place. -/
inductive FileNode where
  /-- A file with its bytes. -/
  | file (data : ByteArray)
  /-- A directory. -/
  | directory

/-- The files and the directories below the directory in which a program runs. The directories on the
way to an entry are there as well. -/
structure FileTree where
  /-- The entries: for each its place, and its bytes unless it is a directory. -/
  entries : List (List (List Char) × Option ByteArray)

namespace FileTree

/-- The tree without entries. -/
def empty : FileTree := ⟨[]⟩

/-- Adds an entry. It takes the place of an earlier one. -/
def insert (t : FileTree) (path : String) (data : Option ByteArray) : FileTree :=
  ⟨((Segments.split path.toList).filter (fun s => s ≠ [] ∧ s ≠ ['.']), data) :: t.entries⟩

/-- What stands at a place below the directory of the tree. -/
def node? (t : FileTree) (place : List (List Char)) : Option FileNode :=
  match t.entries.find? fun e => e.1 = place with
  | some (_, some data) => some (.file data)
  | some (_, none) => some .directory
  | none =>
    if place.isEmpty || t.entries.any fun e => place.isPrefixOf e.1 then some .directory
    else none

/-- Follows segments from a place, which is not given outside of the tree. -/
def follow (t : FileTree) : Option (List (List Char)) → List (List Char) →
    Except ReadFault FileNode
  | none, [] => .ok .directory
  | none, s :: rest =>
    if s = [] ∨ s = ['.'] ∨ s = ['.', '.'] then t.follow none rest
    else .error (if maxSegmentSize < segmentSize s then .nameTooLong else .notFound)
  | some place, [] =>
    match t.node? place with
    | none => .error .notFound
    | some node => .ok node
  | some place, s :: rest =>
    match t.node? place with
    | none => .error .notFound
    | some (.file _) => .error .notDirectory
    | some .directory =>
      if s = [] ∨ s = ['.'] then t.follow (some place) rest
      else if s = ['.', '.'] then
        t.follow (if place.isEmpty then none else some place.dropLast) rest
      else if maxSegmentSize < segmentSize s then .error .nameTooLong
      else t.follow (some (place ++ [s])) rest

/-- What a path leads to. -/
def find (t : FileTree) (path : Path) : Except ReadFault FileNode :=
  if path.text.isEmpty then .error .notFound
  else if path.text.toList.contains '\x00' then .error .nulInName
  else if maxPathSize < path.text.utf8ByteSize then .error .nameTooLong
  else
    t.follow (if path.text.toList.head? = some '/' then none else some [])
      (Segments.split path.text.toList)

/-- The bytes of a file. -/
def readFile (t : FileTree) (path : Path) : Except ReadFault ByteArray :=
  match t.find path with
  | .ok (.file data) => .ok data
  | .ok .directory => .error .isDirectory
  | .error e => .error e

/-- Whether a path leads to a file. -/
def isFile (t : FileTree) (path : Path) : Bool :=
  match t.find path with
  | .ok (.file _) => true
  | _ => false

end FileTree

end BuildPackage
