import Shapesmith.Compilation
import Shapesmith.Model.Assemble
import Shapesmith.CommandLine.Arguments
import Shapesmith.CommandLine.Glob

/-!
# What the command line does

* `Invocation.run` loads the model and the settings, compiles the service, and puts out what the
  command asks for, in a file or as the text that it gives back;
* `Complaint` is why it fails: a message and its causes.
-/

namespace Shapesmith.CommandLine

/-- Why a command fails. -/
structure Complaint where
  /-- The message. -/
  message : String
  /-- The causes, each the cause of what stands before it. -/
  causes : List String
deriving DecidableEq, Repr

namespace Complaint

/-- A failure as a complaint of its own. -/
def ofFailure (f : Failure) : Complaint := ⟨f.message, []⟩

/-- The complaint as the cause of another. -/
def behind (c : Complaint) (message : String) : Complaint := ⟨message, c.message :: c.causes⟩

end Complaint

/-- A computation on a file system that may fail with a complaint. -/
abbrev Command (m : Type → Type) (α : Type) : Type := ExceptT Complaint m α

variable {m : Type → Type} [Monad m]

/-- Fails with a message that has no cause. -/
def complain {α : Type} (message : String) : Command m α := throw ⟨message, []⟩

/-- Goes on unless there is a failure. -/
def orComplain {α : Type} (result : Except Failure α) : Command m α :=
  match result with
  | .ok a => pure a
  | .error f => throw (.ofFailure f)

/-- Goes on unless the operation on files fails; `message` is what it was for. -/
def orBlame {α : Type} (message : String) (operation : m (Except DiskFault α)) : Command m α := do
  match ← (operation : m _) with
  | .ok a => pure a
  | .error f => throw ⟨message, [f.message]⟩

/-! ### Loading -/

/-- The argument is a pattern. -/
def isPattern (argument : String) : Bool :=
  argument.toList.any fun c => c == '*' || c == '?' || c == '[' || c == '\x7b'

/-- The paths that a pattern names, up to the first that cannot be looked into. -/
def foundPaths (argument : String) : List Found → Command m (List String)
  | [] => pure []
  | .ok path :: rest => do
    let paths ← foundPaths argument rest
    pure (path :: paths)
  | .error (path, fault) :: _ =>
    throw ⟨"unreadable match for `" ++ argument ++ "`",
      ["attempting to read `" ++ path ++ "` resulted in an error: " ++ fault.message]⟩

/-- The paths that an argument stands for: itself, or what it names as a pattern. -/
def pathsOf (d : Disk m) (argument : String) : Command m (List String) :=
  if isPattern argument then
    match Glob.ofText argument with
    | .error f => throw ⟨"invalid glob `" ++ argument ++ "`", [f.message]⟩
    | .ok g => do
      let paths ← foundPaths argument (← (d.matching g : m _))
      if paths.isEmpty then complain ("glob `" ++ argument ++ "` matched no model files")
      else pure paths
  else pure [argument]

/-- The paths that arguments stand for. -/
def allPathsOf (d : Disk m) : List String → Command m (List String)
  | [] => pure []
  | argument :: rest => do
    let paths ← pathsOf d argument
    let more ← allPathsOf d rest
    pure (paths ++ more)

/-- The texts of files. -/
def readAll (d : Disk m) : List String → Command m (List String)
  | [] => pure []
  | path :: rest => do
    let text ← orBlame ("failed to read model file " ++ path) (d.read path)
    let texts ← readAll d rest
    pure (text :: texts)

namespace Invocation

variable (i : Invocation) (d : Disk m)

/-- The model. -/
def loadModel : Command m Model := do
  let paths ← tryCatch (allPathsOf d i.models) fun c =>
    throw (c.behind "failed to resolve model file paths")
  let sources ← readAll d (sortedPaths paths)
  orComplain (Model.assemble sources)

/-- The only service of a model. -/
def soleService (model : Model) : Command m ShapeId :=
  match model.services with
  | [s] => pure s.id
  | [] => complain "the model has no service; pass --service or --settings"
  | _ => complain "the model has several services; pass --service or --settings"

/-- The version of a module without settings. -/
def firstVersion : String := "0.0.0"

/-- The settings for a service without a file of settings. -/
def settingsFor (service : ShapeId) : Settings :=
  { Settings.blank with
    service
    module := service.name.toLower
    moduleVersion := firstVersion }

/-- The settings of the file, or else those for the service. -/
def startSettings (model : Model) : Command m Settings :=
  match i.settings with
  | some path => do
    let source ← orBlame ("failed to read settings file " ++ path) (d.read path)
    orComplain (Settings.ofText source)
  | none => do
    let service ← match i.service with
      | some text => orComplain (ShapeId.read text)
      | none => soleService model
    pure (settingsFor service)

/-- The settings with what the options say instead. -/
def loadSettings (model : Model) : Command m Settings := do
  let s ← i.startSettings d model
  let s ← match i.service with
    | some text => do
      let service ← orComplain (ShapeId.read text)
      pure { s with service }
    | none => pure s
  let s := match i.publicConstrainedTypes with
    | some flag => { s with codegen := { s.codegen with publicConstrainedTypes := flag } }
    | none => s
  match i.protocol with
  | some text => do
    let protocol ← orComplain (ShapeId.read text)
    pure { s with codegen := { s.codegen with protocol := some protocol } }
  | none => pure s

/-- The compilation. -/
def compilation : Command m Compilation := do
  let model ← i.loadModel d
  let settings ← i.loadSettings d model
  match compile model settings Registry.standard with
  | .ok c => pure c
  | .error f =>
    throw ((Complaint.ofFailure f).behind ("failed to compile service " ++ settings.service.text))

/-! ### Putting out -/

/-- What a structure's builder makes of the values in a file. -/
def report (c : Compilation) (shape input : String) : Command m Json := do
  let id ← orComplain (ShapeId.read shape)
  match c.artifact? id with
  | none => complain (id.text ++ " is not a structure reachable from service " ++ c.service.text)
  | some artifact => do
    let source ← orBlame ("failed to read input file " ++ input) (d.read input)
    let fields ← match Json.fieldsOfText source with
      | .ok fields => pure fields
      | .error f => complain ("invalid input file " ++ input ++ ": " ++ f.located)
    let validator ← orComplain (Validator.ofModel c.symbols.model)
    match artifact.build validator fields with
    | .ok value => pure (.obj [("value", value)])
    | .error (.violations all) => pure (.obj [("message", .str (Violations.message all)),
        ("violations", Violations.toJson all), ("wireError", (c.protocol.failure all).toJson)])
    | .error (.misfit cause) => complain cause.message

/-- What the command asks for. -/
def product : Command m Json := do
  let c ← i.compilation d
  match i.action with
  | .artifacts => pure c.toJson
  | .symbols => do
    let rows ← orComplain c.table
    pure (.arr (rows.map SymbolRow.toJson))
  | .protocol => pure c.protocol.toJson
  | .validate shape input => report d c shape input

/-- Puts a text into the file for the output; without one, gives it back as a line. -/
def putOut (text : String) : Command m String :=
  match i.out with
  | none => pure (text ++ "\n")
  | some path => do
    match parentPath? path with
    | some parent => orBlame ("failed to create " ++ parent) (d.makeDirectories parent)
    | none => pure ()
    orBlame ("failed to write " ++ path) (d.write path text)
    pure ""

/-- Does what the command line says and gives the text for the standard output. -/
def run : Command m String := do
  let j ← i.product d
  i.putOut d j.pretty

end Invocation

end Shapesmith.CommandLine
