import SignIn.Text.Utf8

/-!
# Files

A disk holds directories and files by their places, the lists of the names on the
way from the root.  Every operation on it is a function of the disk, so that what a
program leaves behind can be compared.

## Main definitions

* `Disk` — directories and files.
* `Disk.Fault` — why an operation failed.
* `Disk.read`, `Disk.readText`, `Disk.write`, `Disk.createDirectories` — operations.
* `placeOf`, `parentOf`, `joinPath` — paths.
-/

namespace SignIn

open SignIn.Text

namespace Disk

/-- Why an operation on a disk failed. -/
inductive Fault where
  /-- Nothing is at the path. -/
  | notFound
  /-- Something is at the path already. -/
  | exists
  /-- A part of the path is a file. -/
  | notDirectory
  /-- A directory is at the path. -/
  | isDirectory
  /-- The file holds no text. -/
  | notText
  /-- A failure with words of its own. -/
  | stated (reason : String)
  deriving DecidableEq, Repr

/-- The words for a fault. -/
def Fault.message : Fault → String
  | .notFound => "No such file or directory (os error 2)"
  | .exists => "File exists (os error 17)"
  | .notDirectory => "Not a directory (os error 20)"
  | .isDirectory => "Is a directory (os error 21)"
  | .notText => "stream did not contain valid UTF-8"
  | .stated reason => reason

/-- What is at a place. -/
inductive Node where
  /-- A directory. -/
  | directory
  /-- A file and what it holds. -/
  | file (content : Bytes)
  deriving DecidableEq, Repr

end Disk

/-- The names on the way from the root. -/
abbrev Place := List String

/-- What is at which place, the latest first; the root is always a directory. -/
structure Disk where
  /-- The places that hold something. -/
  entries : List (Place × Disk.Node)
  deriving Repr, Inhabited

/-! ### Paths -/

/-- The place that a path names: the names between its slashes, where a single dot
stays and two dots go back. -/
def placeOf (path : String) : Place :=
  (path.splitOn "/").foldl
    (fun done name =>
      if name = "" ∨ name = "." then done
      else if name = ".." then done.dropLast
      else done ++ [name])
    []

/-- The path of the directory that holds what a path names. -/
def parentOf (path : String) : String :=
  let isSlash (c : Char) := c == '/'
  let name := path.toList.reverse.dropWhile isSlash
  let up := (name.dropWhile (!isSlash ·)).dropWhile isSlash
  if up.isEmpty ∧ path.startsWith "/" then "/" else String.ofList up.reverse

/-- A path inside a directory; a path from the root stays as it is. -/
def joinPath (directory path : String) : String :=
  if path.startsWith "/" then path
  else if directory = "" ∨ directory.endsWith "/" then directory ++ path
  else directory ++ "/" ++ path

namespace Disk

/-- A disk without anything on it. -/
def empty : Disk := ⟨[]⟩

/-- What is at a place. -/
def node? (disk : Disk) (place : Place) : Option Node :=
  if place = [] then some .directory else disk.entries.lookup place

/-- Puts something at a place. -/
def put (disk : Disk) (place : Place) (node : Node) : Disk := ⟨(place, node) :: disk.entries⟩

/-- What was put is there. -/
@[simp] theorem node?_put_self (disk : Disk) {place : Place} (h : place ≠ []) (node : Node) :
    (disk.put place node).node? place = some node := by
  simp [node?, put, h]

/-- Other places keep what they hold. -/
theorem node?_put_of_ne (disk : Disk) {place other : Place} (h : other ≠ place) (node : Node) :
    (disk.put place node).node? other = disk.node? other := by
  have h' : (other == place) = false := by simpa using h
  simp [node?, put, List.lookup_cons, h']

/-- Follows names down through directories. -/
def descend (disk : Disk) (start : Place) : List String → Except Fault Unit
  | [] => .ok ()
  | name :: names =>
    let place := start ++ [name]
    match disk.node? place with
    | none => .error .notFound
    | some (.file _) => .error .notDirectory
    | some .directory => descend disk place names

/-- What the file at a path holds. -/
def read (disk : Disk) (path : String) : Except Fault Bytes := do
  let place := placeOf path
  disk.descend [] place.dropLast
  match disk.node? place with
  | none => throw .notFound
  | some .directory => throw .isDirectory
  | some (.file content) => return content

/-- The text that the file at a path holds. -/
def readText (disk : Disk) (path : String) : Except Fault String := do
  match Utf8.decode? (← disk.read path) with
  | some s => return s
  | none => throw .notText

/-- Writes a file, whose directory has to be there. -/
def write (disk : Disk) (path : String) (content : Bytes) : Except Fault Disk := do
  let place := placeOf path
  disk.descend [] place.dropLast
  match disk.node? place with
  | some .directory => throw .isDirectory
  | _ => return disk.put place (.file content)

/-- Creates the directories that names lead down to, where they are missing. -/
def createFrom (disk : Disk) (start : Place) : List String → Except Fault Disk
  | [] => .ok disk
  | name :: names =>
    let place := start ++ [name]
    match disk.node? place with
    | none => createFrom (disk.put place .directory) place names
    | some .directory => createFrom disk place names
    | some (.file _) => .error (if names = [] then .exists else .notDirectory)

/-- Creates a directory and the ones that hold it, where they are missing. -/
def createDirectories (disk : Disk) (path : String) : Except Fault Disk :=
  disk.createFrom [] (placeOf path)

end Disk

end SignIn
