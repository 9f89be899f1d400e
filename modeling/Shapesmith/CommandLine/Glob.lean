import Shapesmith.CommandLine.Disk
import Shapesmith.Sequence

/-!
# File name patterns

A pattern names files by wildcards: `?` for a character, `*` for any characters, `[…]` for one of
several characters, and `**` as a whole step for any number of directories.

* `Wildcards.ofText` reads the wildcards of a text, or says where they are wrong;
* `Wildcards.accepts` holds a name against wildcards;
* `Disk.matching` lists what a pattern names, directories in depth-first order.
-/

namespace Shapesmith.CommandLine

/-- A piece of a pattern. -/
inductive Wildcard
  /-- The character itself. -/
  | char (c : Char)
  /-- Any character. -/
  | anyChar
  /-- Any characters. -/
  | anyChars
  /-- Any number of directories. -/
  | anyDepth
  /-- A character of one of several ranges. -/
  | oneOf (ranges : List (Char × Char))
  /-- A character of none of several ranges. -/
  | noneOf (ranges : List (Char × Char))
deriving DecidableEq, Repr

/-- Why a text is no pattern. -/
inductive GlobFault
  /-- More than two asterisks follow each other. -/
  | wildcards (position : Nat)
  /-- Two asterisks are no step of their own. -/
  | recursive (position : Nat)
  /-- A bracket does not enclose characters. -/
  | range (position : Nat)
deriving DecidableEq, Repr

/-- The wording of a fault. -/
def GlobFault.message : GlobFault → String
  | .wildcards n => located n "wildcards are either regular `*` or recursive `**`"
  | .recursive n => located n "recursive wildcards must form a single path component"
  | .range n => located n "invalid range pattern"
where
  /-- The wording of a fault at a position. -/
  located (n : Nat) (text : String) : String :=
    "Pattern syntax error near position " ++ toString n ++ ": " ++ text

namespace Wildcards

/-- The ranges that characters in brackets spell. -/
def ranges : List Char → List (Char × Char)
  | a :: '-' :: b :: rest => (a, b) :: ranges rest
  | a :: rest => (a, a) :: ranges rest
  | [] => []

/-- The characters up to the first closing bracket, and what follows it. -/
def untilBracket? : List Char → Option (List Char × List Char)
  | [] => none
  | ']' :: rest => some ([], rest)
  | c :: rest => (untilBracket? rest).map fun p => (c :: p.1, p.2)

/-- What follows an opening bracket: one of some characters, or none of them behind an exclamation
mark. A closing bracket at the start is one of the characters. -/
def bracket? : List Char → Option (Wildcard × List Char)
  | '!' :: first :: rest =>
    (untilBracket? rest).map fun p => (.noneOf (ranges (first :: p.1)), p.2)
  | '!' :: _ => none
  | first :: rest => (untilBracket? rest).map fun p => (.oneOf (ranges (first :: p.1)), p.2)
  | [] => none

/-- Adds a step of any depth, unless one stands there already behind something else. -/
def addDepth (done : List Wildcard) : List Wildcard :=
  match done with
  | .anyDepth :: _ :: _ => done
  | _ => .anyDepth :: done

/-- Reads the wildcards of a text from a position on; `before` is the character before it, and
`done` are the wildcards read so far, last first. -/
def read : Nat → Nat → Option Char → List Wildcard → List Char →
    Except GlobFault (List Wildcard)
  | 0, _, _, done, _ | _, _, _, done, [] => .ok done.reverse
  | steps + 1, n, before, done, c :: rest =>
    match c with
    | '?' => read steps (n + 1) (some c) (.anyChar :: done) rest
    | '*' =>
      match rest with
      | '*' :: '*' :: _ => .error (.wildcards (n + 2))
      | '*' :: rest =>
        if before.all (· == '/') then
          match rest with
          | [] => .ok (addDepth done).reverse
          | '/' :: rest => read steps (n + 3) (some '/') (addDepth done) rest
          | _ => .error (.recursive (n + 2))
        else .error (.recursive (n - 1))
      | rest => read steps (n + 1) (some c) (.anyChars :: done) rest
    | '[' =>
      match bracket? rest with
      | none => .error (.range n)
      | some (w, after) =>
        read steps (n + 1 + rest.length - after.length) (some ']') (w :: done) after
    | c => read steps (n + 1) (some c) (.char c :: done) rest

/-- The wildcards of a text. -/
def ofText (text : List Char) : Except GlobFault (List Wildcard) :=
  read text.length 0 none [] text

/-- The character lies in one of some ranges. -/
def within (ranges : List (Char × Char)) (c : Char) : Bool :=
  ranges.any fun r => decide (r.1 ≤ c) && decide (c ≤ r.2)

/-- The wildcard stands for the character. -/
def acceptsChar : Wildcard → Char → Bool
  | .char a, c => a == c
  | .anyChar, _ => true
  | .oneOf ranges, c => within ranges c
  | .noneOf ranges, c => !within ranges c
  | .anyChars, _ | .anyDepth, _ => true

/-- The name is one that wildcards stand for. -/
def accepts : List Wildcard → List Char → Bool
  | [], name => name.isEmpty
  | .anyChars :: ws, name | .anyDepth :: ws, name => tails (accepts ws) name
  | _ :: _, [] => false
  | w :: ws, c :: name => acceptsChar w c && accepts ws name
where
  /-- Some end of the name passes. -/
  tails (test : List Char → Bool) : List Char → Bool
    | [] => test []
    | c :: name => test (c :: name) || tails test name

/-- The text that wildcards spell, if they stand for themselves only. -/
def literal? : List Wildcard → Option (List Char)
  | [] => some []
  | .char c :: ws => (literal? ws).map (c :: ·)
  | _ :: _ => none

/-- The wildcards stand for any number of directories. -/
def isAnyDepth (ws : List Wildcard) : Bool := ws.contains .anyDepth

end Wildcards

/-- A pattern: wildcards for each step of a path. -/
structure Glob where
  /-- The directory at which it starts. -/
  start : String
  /-- The wildcards of its steps. -/
  steps : List (List Wildcard)
  /-- It names directories only. -/
  directoriesOnly : Bool
deriving Repr

/-- The steps of a path; a slash at its end begins none. -/
def pathSteps (chars : List Char) : List (List Char) :=
  let pieces := pathPieces chars
  if pieces.getLast? = some [] then pieces.dropLast else pieces

/-- The pattern that a text spells. -/
def Glob.ofText (text : String) : Except GlobFault Glob := do
  let chars := text.toList
  let _ ← Wildcards.ofText chars
  let (start, relative) := match chars with
    | '/' :: rest => ("/", rest)
    | _ => (".", chars)
  let steps ← collect Wildcards.ofText (pathSteps relative)
  pure ⟨start, if steps.isEmpty then [[]] else steps, chars.getLast? == some '/'⟩

/-- The path of an entry of a directory; entries of the directory at hand go by their names. -/
def entryPath (directory name : String) : String :=
  if directory == "." then name else joinPath directory name

/-- The steps behind steps of any depth that follow each other. -/
def behindDepth : List (List Wildcard) → List (List Wildcard)
  | [] => []
  | ws :: rest => if Wildcards.isAnyDepth ws then behindDepth rest else ws :: rest

/-- The steps from the last of the steps of any depth that they begin with. -/
def lastDepth : List (List Wildcard) → List (List Wildcard)
  | a :: b :: rest => if Wildcards.isAnyDepth b then lastDepth (b :: rest) else a :: b :: rest
  | steps => steps

/-- A path that a pattern names, or a directory that cannot be looked into. -/
abbrev Found := Except (String × DiskFault) String

namespace Disk

variable {m : Type → Type} [Monad m] (d : Disk m)

/-- Does a step for each entry of a list and puts the results together. -/
def concatEach {α β : Type} (step : α → m (List β)) : List α → m (List β)
  | [] => pure []
  | a :: rest => do
    let bs ← step a
    let more ← concatEach step rest
    pure (bs ++ more)

mutual

/-- What steps name below a path, at most `depth` directories deep. -/
def below (directoriesOnly : Bool) : Nat → List (List Wildcard) → String → m (List Found)
  | 0, _, _ | _, [], _ => pure []
  | depth + 1, ws :: rest, path => do
    let isDirectory ← d.isDirectory path
    let onward (next : String) : m (List Found) := do
      match rest with
      | [] => do
        let isDirectory ← d.isDirectory next
        pure (if directoriesOnly && !isDirectory then [] else [.ok next])
      | _ => below directoriesOnly depth rest next
    match Wildcards.literal? ws with
    | some name => do
      let text := String.ofList name
      let next := entryPath path text
      let special := text == "." || text == ".."
      let there ← if special then pure isDirectory else d.has next
      if there then onward next else pure []
    | none =>
      if isDirectory then do
        match ← d.names path with
        | .error f => pure [.error (path, f)]
        | .ok names => do
          let specials := if ws.head? == some (.char '.') then
              [".." , "."].filter fun name => Wildcards.accepts ws name.toList
            else []
          let above ← concatEach (fun name => onward (joinPath path name)) specials
          let inside ← concatEach
            (fun name => entering directoriesOnly depth (ws :: rest) (entryPath path name) name)
            names
          pure (above ++ inside)
      else pure []

/-- What steps name from an entry of a directory on, at most `depth` directories deep. -/
def entering (directoriesOnly : Bool) :
    Nat → List (List Wildcard) → String → String → m (List Found)
  | 0, _, _, _ | _, [], _, _ => pure []
  | depth + 1, ws :: rest, path, name => do
    let isDirectory ← d.isDirectory path
    if Wildcards.isAnyDepth ws then
      let onward := behindDepth rest
      let here ← match onward with
        | [] => pure (if isDirectory then [.ok path] else [])
        | _ => entering directoriesOnly depth onward path name
      let inside ← if isDirectory then
          below directoriesOnly depth (lastDepth (ws :: rest)) path
        else pure []
      pure (here ++ inside)
    else if Wildcards.accepts ws name.toList then
      match rest with
      | [] => pure (if directoriesOnly && !isDirectory then [] else [.ok path])
      | _ => below directoriesOnly depth rest path
    else pure []

end

/-- How many steps the longest path of a file system can have. -/
def longestPath : Nat := 4096

/-- What a pattern names. -/
def matching (g : Glob) : m (List Found) :=
  d.below g.directoriesOnly (3 * longestPath) g.steps g.start

end Disk

end Shapesmith.CommandLine
