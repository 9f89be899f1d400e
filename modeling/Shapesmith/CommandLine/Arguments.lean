/-!
# Command-line arguments

The command line is a command with options, and one option that every command shares.

* `OptionForm` describes an option: its names, how many values it takes and which values it accepts;
* `scan` works through the arguments, with the option that is still taking values in hand;
* `Invocation.ofArguments` is the whole command line, or the way in which it is wrong.
-/

namespace Shapesmith.CommandLine

/-- Why arguments are refused, or answered with help. -/
inductive UsageFault
  /-- An option or a command lacks something that it cannot go without. -/
  | missingRequired
  /-- There is a value where none belongs, or an option that is not known. -/
  | unknownArgument
  /-- A value is none that the option accepts, or there is none. -/
  | invalidValue
  /-- An option that takes no value is given one. -/
  | unneededValue
  /-- There is no such command. -/
  | unknownCommand
  /-- There is no command. -/
  | missingCommand
  /-- An option is given twice. -/
  | repeatedOption
  /-- Help is asked for. -/
  | help
  /-- There are no arguments at all. -/
  | helpForNothing
deriving DecidableEq, Repr

/-- The wording of a fault. -/
def UsageFault.message : UsageFault → String
  | .missingRequired => "a required argument is missing"
  | .unknownArgument => "unexpected argument"
  | .invalidValue => "invalid value for an option"
  | .unneededValue => "unexpected value for an option"
  | .unknownCommand => "unrecognized command"
  | .missingCommand => "a command is required"
  | .repeatedOption => "an option cannot be used multiple times"
  | .help | .helpForNothing =>
    "usage: shapegen [--log-level FILTER] (artifacts | symbols | protocol | validate) " ++
      "-m MODEL... [-s SETTINGS] [--service ID] [--public-constrained-types true|false] " ++
      "[--protocol ID] [--shape ID --input FILE] [-o OUT]"

/-- How many values an option takes. -/
inductive Arity
  /-- None: it asks for help. -/
  | help
  /-- One, and the option is given once. -/
  | one
  /-- One or more, and the option may be repeated. -/
  | several
deriving DecidableEq, Repr

/-- Which values an option accepts. -/
inductive Accepts
  /-- Any text. -/
  | text
  /-- Any text that is not empty. -/
  | path
  /-- The words `true` and `false`. -/
  | flag
deriving DecidableEq, Repr

/-- The value is accepted. -/
def Accepts.allows : Accepts → String → Bool
  | .text, _ => true
  | .path, value => !value.isEmpty
  | .flag, value => value == "true" || value == "false"

/-- An option. -/
structure OptionForm where
  /-- Its name behind two dashes. -/
  name : String
  /-- Its name behind one dash. -/
  short : Option Char
  /-- How many values it takes. -/
  arity : Arity
  /-- Which values it accepts. -/
  accepts : Accepts
  /-- The command cannot go without it. -/
  required : Bool
deriving DecidableEq, Repr

/-- What has been read of the arguments of a command. -/
structure Progress where
  /-- The values of the options that are complete. -/
  found : List (String × List String)
  /-- The option that was met last, with its values so far. -/
  pending : Option (OptionForm × List String)
  /-- Two dashes have been met: no options follow. -/
  trailing : Bool
deriving Repr

namespace Progress

/-- Nothing has been read. -/
def start : Progress := ⟨[], none, false⟩

/-- The values of an option. -/
def valuesOf (p : Progress) (name : String) : List String :=
  (p.found.filter fun e => e.1 == name).flatMap (·.2)

/-- The option has been met. -/
def has (p : Progress) (name : String) : Bool := p.found.any fun e => e.1 == name

/-- Completes an option with its values. -/
def complete (p : Progress) (o : OptionForm) (values : List String) :
    Except UsageFault Progress :=
  if values.isEmpty then .error .invalidValue
  else if o.arity = .one && p.has o.name then .error .repeatedOption
  else if values.all o.accepts.allows then
    .ok { p with found := p.found ++ [(o.name, values)], pending := none }
  else .error .invalidValue

/-- Completes the option that is still in hand. -/
def settle (p : Progress) : Except UsageFault Progress :=
  match p.pending with
  | none => .ok p
  | some (o, values) => p.complete o values

/-- The option in hand, if it takes another value. -/
def hungry (p : Progress) : Option (OptionForm × List String) :=
  match p.pending with
  | some (o, values) => if o.arity = .several || values.isEmpty then some (o, values) else none
  | none => none

/-- Takes an option up, with a value that is attached to its name if there is one. -/
def takeUp (p : Progress) (o : OptionForm) (attached : Option String) :
    Except UsageFault Progress := do
  let p ← p.settle
  match o.arity, attached with
  | .help, _ => .error .help
  | _, some value => p.complete o [value]
  | _, none => pure { p with pending := some (o, []) }

end Progress

/-- An argument by its form. -/
inductive Argument
  /-- Two dashes. -/
  | dashes
  /-- A name behind two dashes, perhaps with a value behind an equals sign. -/
  | long (name : String) (value : Option String)
  /-- A name behind one dash, perhaps with a value right behind it. -/
  | short (name : Char) (value : Option String)
  /-- Anything else. -/
  | plain (text : String)
deriving DecidableEq, Repr

namespace Argument

/-- The text before and after the first equals sign. -/
def splitEquals : List Char → List Char × Option (List Char)
  | [] => ([], none)
  | '=' :: rest => ([], some rest)
  | c :: rest =>
    let (name, value) := splitEquals rest
    (c :: name, value)

/-- The value right behind a short name; an equals sign in between does not count. -/
def attachedTo : List Char → Option String
  | [] => none
  | '=' :: rest => some (.ofList rest)
  | rest => some (.ofList rest)

/-- The form of an argument. -/
def ofText (text : String) : Argument :=
  match text.toList with
  | ['-', '-'] => .dashes
  | '-' :: '-' :: rest =>
    let (name, value) := splitEquals rest
    .long (.ofList name) (value.map .ofList)
  | '-' :: c :: rest => .short c (attachedTo rest)
  | _ => .plain text

end Argument

/-- An argument that belongs to no option and is no command. -/
def stray (commands : List String) (trailing : Bool) (text : String) : UsageFault :=
  if trailing && commands.contains text then .unknownArgument
  else if commands.isEmpty then .unknownArgument
  else .unknownCommand

/-- Works through arguments up to the end or a command; gives the command and what follows it. -/
def scan (forms : List OptionForm) (commands : List String) :
    Progress → List String → Except UsageFault (Progress × Option (String × List String))
  | p, [] => .ok (p, none)
  | p, text :: rest =>
    if p.trailing then .error (stray commands true text)
    else if p.hungry.isNone && commands.contains text then .ok (p, some (text, rest))
    else
      match Argument.ofText text with
      | .dashes => scan forms commands { p with trailing := true } rest
      | .long name value =>
        match forms.find? fun o => o.name == name with
        | none => .error .unknownArgument
        | some o =>
          if o.arity = .help && value.isSome then .error .unneededValue
          else do
            let p ← p.takeUp o value
            scan forms commands p rest
      | .short name value =>
        match forms.find? fun o => o.short == some name with
        | none => .error .unknownArgument
        | some o => do
          let p ← p.takeUp o value
          scan forms commands p rest
      | .plain text =>
        match p.hungry with
        | some (o, values) =>
          scan forms commands { p with pending := some (o, values ++ [text]) } rest
        | none => .error (stray commands false text)

/-! ### The commands and their options -/

/-- The option that asks for help. -/
def helpForm : OptionForm := ⟨"help", some 'h', .help, .text, false⟩

/-- The option that every command shares. -/
def logLevelForm : OptionForm := ⟨"log-level", none, .one, .text, false⟩

/-- The options of every command. -/
def sharedForms : List OptionForm := [
  ⟨"model", some 'm', .several, .text, true⟩,
  ⟨"settings", some 's', .one, .path, false⟩,
  ⟨"service", none, .one, .text, false⟩,
  ⟨"public-constrained-types", none, .one, .flag, false⟩,
  ⟨"protocol", none, .one, .text, false⟩,
  ⟨"out", some 'o', .one, .path, false⟩,
  logLevelForm, helpForm]

/-- The options of the command that builds a structure. -/
def buildForms : List OptionForm :=
  [⟨"shape", none, .one, .text, true⟩, ⟨"input", none, .one, .path, true⟩]

/-- What a command puts out. -/
inductive Action
  /-- The artifacts of a compilation. -/
  | artifacts
  /-- The symbols of all shapes. -/
  | symbols
  /-- The protocol. -/
  | protocol
  /-- What a structure's builder makes of the values in a file. -/
  | validate (shape input : String)
deriving DecidableEq, Repr

/-- The commands. -/
def commands : List String := ["artifacts", "symbols", "protocol", "validate"]

/-- The command that asks for help. -/
def helpCommand : String := "help"

/-- The options of a command. -/
def formsOf (command : String) : List OptionForm :=
  if command == "validate" then buildForms ++ sharedForms else sharedForms

/-- A command line. -/
structure Invocation where
  /-- What is logged. -/
  logLevel : String
  /-- What is put out. -/
  action : Action
  /-- The files of the model, or patterns for them. -/
  models : List String
  /-- The file of the settings. -/
  settings : Option String
  /-- The service. -/
  service : Option String
  /-- Whether constrained types are part of the surface. -/
  publicConstrainedTypes : Option Bool
  /-- The protocol. -/
  protocol : Option String
  /-- The file that the output goes to. -/
  out : Option String
deriving DecidableEq, Repr

namespace Invocation

/-- What is logged unless told otherwise. -/
def standardLogLevel : String := "warn"

/-- The first value of an option. -/
def valueOf (p : Progress) (name : String) : Option String := (p.valuesOf name).head?

/-- What a command puts out. -/
def actionOf (command : String) (p : Progress) : Action :=
  if command == "artifacts" then .artifacts
  else if command == "symbols" then .symbols
  else if command == "protocol" then .protocol
  else .validate ((valueOf p "shape").getD "") ((valueOf p "input").getD "")

/-- The command line of a command and the options before and behind it. -/
def ofProgress (command : String) (before behind : Progress) : Invocation where
  logLevel :=
    ((valueOf behind logLevelForm.name).orElse fun _ => valueOf before logLevelForm.name).getD
      standardLogLevel
  action := actionOf command behind
  models := behind.valuesOf "model"
  settings := valueOf behind "settings"
  service := valueOf behind "service"
  publicConstrainedTypes := (valueOf behind "public-constrained-types").map (· == "true")
  protocol := valueOf behind "protocol"
  out := valueOf behind "out"

/-- Help on a command. -/
def helpOn : List String → UsageFault
  | [] => .help
  | [command] => if (helpCommand :: commands).contains command then .help else .unknownCommand
  | _ => .unknownCommand

/-- The options behind a command. -/
def readCommand (command : String) (arguments : List String) : Except UsageFault Progress := do
  let forms := formsOf command
  let (p, _) ← scan forms [] .start arguments
  let p ← p.settle
  if forms.any fun o => o.required && !p.has o.name then .error .missingRequired else .ok p

/-- The command line that arguments spell. -/
def ofArguments (arguments : List String) : Except UsageFault Invocation := do
  let (before, command) ← scan [logLevelForm, helpForm] (helpCommand :: commands) .start arguments
  match command with
  | some (command, rest) =>
    if command == helpCommand then .error (helpOn rest)
    else do
      let behind ← readCommand command rest
      let before ← before.settle
      pure (ofProgress command before behind)
  | none => do
    let before ← before.settle
    if before.found.isEmpty then .error .helpForNothing else .error .missingCommand

end Invocation

end Shapesmith.CommandLine
