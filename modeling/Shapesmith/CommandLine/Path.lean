/-!
# Paths of files

* `pathParts` takes a path apart; a step that stays in place counts at the start only;
* `comparePaths` compares paths part by part, so that two spellings of a path may be equal;
* `parentPath?` is the path without its last part.
-/

namespace Shapesmith.CommandLine

/-- A part of a path. -/
inductive PathPart
  /-- The root of all paths. -/
  | root
  /-- The directory at hand, at the start of a path. -/
  | here
  /-- The directory above. -/
  | up
  /-- An entry of a directory. -/
  | entry (name : String)
deriving DecidableEq, Repr

/-- The text between slashes. -/
def pathPieces : List Char → List (List Char)
  | [] => [[]]
  | c :: rest =>
    match pathPieces rest with
    | [] => [[c]]
    | p :: ps => if c = '/' then [] :: p :: ps else (c :: p) :: ps

/-- The part that a piece behind the first slash stands for, if it stands for one. -/
def partOf (piece : List Char) : Option PathPart :=
  if piece = [] || piece = ['.'] then none
  else if piece = ['.', '.'] then some .up
  else some (.entry (.ofList piece))

/-- The parts of a path. -/
def pathParts (path : String) : List PathPart :=
  let chars := path.toList
  let parts := (pathPieces chars).filterMap partOf
  match chars with
  | '/' :: _ => .root :: parts
  | ['.'] | '.' :: '/' :: _ => .here :: parts
  | _ => parts

/-- The place of a kind of part in the order of parts. -/
def PathPart.rank : PathPart → Nat
  | .root => 0
  | .here => 1
  | .up => 2
  | .entry _ => 3

/-- The order of parts: entries come last. -/
def PathPart.compare : PathPart → PathPart → Ordering
  | .entry a, .entry b => Ord.compare a b
  | a, b => Ord.compare a.rank b.rank

/-- The order of paths by their parts. -/
def compareParts : List PathPart → List PathPart → Ordering
  | [], [] => .eq
  | [], _ :: _ => .lt
  | _ :: _, [] => .gt
  | a :: as, b :: bs => (a.compare b).then (compareParts as bs)

/-- The order of paths. -/
def comparePaths (a b : String) : Ordering := compareParts (pathParts a) (pathParts b)

/-- A path from its end on, without slashes and steps in place behind its last part. -/
def trimmedEnd : List Char → List Char
  | '/' :: rest => if rest.isEmpty then ['/'] else trimmedEnd rest
  | '.' :: '/' :: rest => trimmedEnd ('/' :: rest)
  | chars => chars
termination_by chars => chars.length

/-- The path without its last part; the root and the empty path have none. -/
def parentPath? (path : String) : Option String :=
  match trimmedEnd path.toList.reverse with
  | [] | ['/'] => none
  | chars => some (.ofList (trimmedEnd (chars.dropWhile (· ≠ '/'))).reverse)

/-- The path of something in a directory. -/
def joinPath (directory name : String) : String :=
  if directory.isEmpty || directory.endsWith "/" then directory ++ name
  else directory ++ "/" ++ name

/-- Paths in order, without repetitions; of equal paths the first spelling stays. -/
def sortedPaths (paths : List String) : List String :=
  unrepeated (paths.mergeSort fun a b => comparePaths a b != .gt)
where
  /-- Leaves out every path that equals the one before it. -/
  unrepeated : List String → List String
    | a :: b :: rest =>
      if comparePaths a b == .eq then unrepeated (a :: rest) else a :: unrepeated (b :: rest)
    | paths => paths

end Shapesmith.CommandLine
