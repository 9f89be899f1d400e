import Shapesmith.Table
import Shapesmith.CommandLine.Path

/-!
# Files

What the command line needs of a file system, and a file system that is a value.

* `Disk` are the operations, in any monad;
* `Disk.makeDirectories` makes a directory with everything above it;
* `FileTree` is a value with files and directories, and `FileTree.disk` the operations on it.
-/

namespace Shapesmith.CommandLine

/-- Why an operation on files fails. -/
inductive DiskFault
  /-- There is nothing under the path. -/
  | notFound
  /-- There is something under the path already. -/
  | exists
  /-- The path leads through a file. -/
  | notDirectory
  /-- A directory is no file. -/
  | isDirectory
  /-- The path holds a character that no path may hold. -/
  | badName
  /-- Any other fault, by its wording. -/
  | other (text : String)
deriving DecidableEq, Repr

/-- The wording of a fault. -/
def DiskFault.message : DiskFault → String
  | .notFound => "No such file or directory (os error 2)"
  | .exists => "File exists (os error 17)"
  | .notDirectory => "Not a directory (os error 20)"
  | .isDirectory => "Is a directory (os error 21)"
  | .badName => "file name contained an unexpected NUL byte"
  | .other text => text

/-- The operations on a file system. -/
structure Disk (m : Type → Type) where
  /-- The text of a file. -/
  read : String → m (Except DiskFault String)
  /-- Puts a text into a file. -/
  write : String → String → m (Except DiskFault Unit)
  /-- Makes a directory. -/
  makeDirectory : String → m (Except DiskFault Unit)
  /-- There is a directory under a path. -/
  isDirectory : String → m Bool
  /-- There is something under a path. -/
  has : String → m Bool
  /-- The names in a directory, in order. -/
  names : String → m (Except DiskFault (List String))

namespace Disk

variable {m : Type → Type} [Monad m] (d : Disk m)

/-- Makes a directory, and at most `depth` directories above it. -/
def makeUpTo : Nat → String → m (Except DiskFault Unit)
  | 0, _ => pure (.error .notFound)
  | depth + 1, path =>
    if path.isEmpty then pure (.ok ())
    else do
      match ← d.makeDirectory path with
      | .ok () => pure (.ok ())
      | .error .notFound =>
        match parentPath? path with
        | none => pure (.error .notFound)
        | some parent =>
          match ← makeUpTo depth parent with
          | .error f => pure (.error f)
          | .ok () => settled path (← d.makeDirectory path)
      | .error f => settled path (.error f)
where
  /-- A directory that cannot be made may be there already. -/
  settled (path : String) : Except DiskFault Unit → m (Except DiskFault Unit)
    | .ok () => pure (.ok ())
    | .error f => do
      if ← d.isDirectory path then pure (.ok ()) else pure (.error f)

/-- Makes a directory and all directories above it. -/
def makeDirectories (path : String) : m (Except DiskFault Unit) :=
  d.makeUpTo (path.length + 1) path

end Disk

/-! ### A file system as a value -/

/-- Files and directories under one directory, by the names that lead to them. -/
structure FileTree where
  /-- The files. -/
  files : Table (List String) String
  /-- The directories. -/
  directories : List (List String)
deriving Repr

namespace FileTree

variable (t : FileTree)

/-- Nothing but the one directory. -/
def bare : FileTree := ⟨[], [[]]⟩

/-- There is a directory. -/
def hasDirectory (place : List String) : Bool := t.directories.contains place

/-- There is something. -/
def hasEntry (place : List String) : Bool := t.hasDirectory place || Table.has t.files place

/-- The place that pieces of a path lead to from another. -/
def follow : List String → List (List Char) → Except DiskFault (List String)
  | place, [] => .ok place
  | place, piece :: rest =>
    if t.hasDirectory place then
      if piece = [] || piece = ['.'] then follow place rest
      else if piece = ['.', '.'] then
        if place.isEmpty then .error .notFound else follow place.dropLast rest
      else follow (place ++ [String.ofList piece]) rest
    else if Table.has t.files place then .error .notDirectory
    else .error .notFound

/-- The place that a path leads to; paths from the root lead nowhere. -/
def placeOf (path : String) : Except DiskFault (List String) :=
  if path.toList.contains '\x00' then .error .badName
  else match path.toList with
  | [] | '/' :: _ => .error .notFound
  | chars => t.follow [] (pathPieces chars)

/-- A path without slashes at its end. -/
def unslashed (path : String) : String :=
  String.ofList (path.toList.reverse.dropWhile (· = '/')).reverse

/-- The text of a file. -/
def read (path : String) : Except DiskFault String := do
  let place ← t.placeOf path
  if t.hasDirectory place then .error .isDirectory
  else
    match Table.get? t.files place with
    | some text => .ok text
    | none => .error .notFound

/-- The tree with a text in a file. -/
def write (path text : String) : Except DiskFault FileTree := do
  let place ← t.placeOf (unslashed path)
  if t.hasDirectory place || path.endsWith "/" then .error .isDirectory
  else .ok { t with files := Table.put t.files place text }

/-- The tree with a directory. -/
def makeDirectory (path : String) : Except DiskFault FileTree := do
  let place ← t.placeOf (unslashed path)
  if t.hasEntry place then .error .exists
  else .ok { t with directories := t.directories ++ [place] }

/-- The names in a directory. -/
def names (path : String) : Except DiskFault (List String) := do
  let place ← t.placeOf path
  if t.hasDirectory place then
    let inside := (Table.keys t.files ++ t.directories).filterMap fun entry =>
      if entry.length = place.length + 1 && place.isPrefixOf entry then entry.getLast? else none
    .ok (inside.mergeSort fun a b => decide (a ≤ b))
  else if Table.has t.files place then .error .notDirectory
  else .error .notFound

/-- There is a directory under a path. -/
def isDirectory (path : String) : Bool := (t.placeOf path).toOption.any t.hasDirectory

/-- There is something under a path. -/
def has (path : String) : Bool := (t.placeOf path).toOption.any t.hasEntry

/-- Goes on with another tree, or stays with this one after a fault. -/
def step (change : FileTree → Except DiskFault FileTree) :
    StateM FileTree (Except DiskFault Unit) := do
  match change (← get) with
  | .ok t => do
    set t
    pure (.ok ())
  | .error f => pure (.error f)

/-- The operations on a file system that is a value. -/
def disk : Disk (StateM FileTree) where
  read path := do pure ((← get).read path)
  write path text := step fun t => t.write path text
  makeDirectory path := step fun t => t.makeDirectory path
  isDirectory path := do pure ((← get).isDirectory path)
  has path := do pure ((← get).has path)
  names path := do pure ((← get).names path)

/-- Puts files under one directory, each with the directories above it; files that cannot be there
are left out. -/
def withFiles (files : List (String × String)) : StateM FileTree Unit :=
  match files with
  | [] => pure ()
  | (path, text) :: rest => do
    let _ ← disk.makeDirectories ((parentPath? path).getD "")
    let _ ← disk.write path text
    withFiles rest

/-- The tree of some files. -/
def ofFiles (files : List (String × String)) : FileTree := (withFiles files bare).2

end FileTree

end Shapesmith.CommandLine
