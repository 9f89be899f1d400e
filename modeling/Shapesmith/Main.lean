import Shapesmith.CommandLine.Run

/-!
# The program

Runs the command line on the files of the machine.
-/

namespace Shapesmith.CommandLine

/-- A fault of the machine. -/
def machineFault (e : IO.Error) : DiskFault :=
  match e with
  | .noFileOrDirectory .. => .notFound
  | .alreadyExists .. => .exists
  | .inappropriateType _ 20 _ => .notDirectory
  | .inappropriateType .. => .isDirectory
  | e => .other (toString e)

/-- Catches the faults of the machine. -/
def guarded {α : Type} (action : IO α) : IO (Except DiskFault α) := do
  match ← action.toBaseIO with
  | .ok a => pure (.ok a)
  | .error e => pure (.error (machineFault e))

/-- The names in a directory of the machine, in order. -/
def machineNames (path : String) : IO (List String) := do
  let here ← IO.currentDir
  let entries ← (here / path).readDir
  pure ((entries.toList.map (·.fileName)).mergeSort fun a b => decide (a ≤ b))

/-- There is a directory of the machine under a path. -/
def machineDirectory (path : String) : IO Bool := do
  let here ← IO.currentDir
  (here / path).isDir

/-- There is something on the machine under a path. -/
def machineHas (path : String) : IO Bool := do
  let here ← IO.currentDir
  (here / path).pathExists

/-- The files of the machine. -/
def machine : Disk IO where
  read path := guarded (IO.FS.readFile path)
  write path text := guarded (IO.FS.writeFile path text)
  makeDirectory path := guarded (IO.FS.createDir path)
  isDirectory path := if path.isEmpty then pure false else machineDirectory path
  has path := if path.isEmpty then pure false else machineHas path
  names path := guarded (machineNames path)

end Shapesmith.CommandLine

open Shapesmith.CommandLine

/-- Runs the program; 0 if all went well, 1 if the command failed, 2 if the arguments are wrong. -/
def main (arguments : List String) : IO UInt32 := do
  match Invocation.ofArguments arguments with
  | .error f =>
    let output ← if f = .help then IO.getStdout else IO.getStderr
    output.putStrLn f.message
    pure (if f = .help then 0 else 2)
  | .ok i =>
    match ← (i.run machine).run with
    | .ok text =>
      IO.print text
      pure 0
    | .error c =>
      IO.eprintln (String.intercalate "\ncaused by: " (c.message :: c.causes))
      pure 1
