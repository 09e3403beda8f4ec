import Chartwright.Command.Options

/-!
# Requests

What a command line asks for: first the program as a whole is looked at, then the arguments of the
command that it names.
-/

namespace Chartwright.Command

/-- The commands of the program. -/
inductive CommandName where
  | procfile | render
deriving DecidableEq, Repr

namespace CommandName

/-- The word for a command. -/
def text : CommandName → String
  | .procfile => "procfile"
  | .render => "render"

/-- The command of a word. -/
def ofText? (s : String) : Option CommandName := [procfile, render].find? (·.text = s)

end CommandName

/-- The option that every command has. -/
def helpSwitch : Switch := ⟨"help", none, false⟩

/-- The options of the program as a whole. -/
def programSwitches : List Switch :=
  [⟨"version", some 'V', false⟩, ⟨"verbose", some 'v', false⟩, helpSwitch]

/-- The options of a command. -/
def CommandName.switches : CommandName → List Switch
  | .procfile => [helpSwitch]
  | .render => [⟨"templates", some 't', true⟩, ⟨"output", some 'o', true⟩, helpSwitch]

/-- What the program is asked for. -/
inductive Request where
  | version
  | help
  | command (verbose : Bool) (name : CommandName) (args : List String)
deriving DecidableEq, Repr

/-- Reads a command line. What asks for the version or for help comes before any command, and the
first of them counts. -/
def Request.parse? (args : List String) : Option Request := do
  let parsed ← Command.parse? programSwitches true args
  match parsed.options.find? fun (name, _) => name = "version" ∨ name = "help" with
  | some (name, _) => some (if name = "version" then .version else .help)
  | none =>
    match parsed.positional with
    | [] => none
    | name :: args => some (.command (parsed.has "verbose") (← CommandName.ofText? name) args)

/-- The files that an application is rendered from, and where its templates and its chart are. -/
structure RenderRequest where
  app : String
  environment : String
  templates : Option String
  output : Option String
deriving DecidableEq, Repr

/-- What a command is asked for. -/
inductive Task where
  | help
  | procfile (file : String)
  | render (request : RenderRequest)
deriving DecidableEq, Repr

/-- The files and directories that a task names. -/
def Task.paths : Task → List String
  | .help => []
  | .procfile file => [file]
  | .render r => [r.app, r.environment] ++ r.templates.toList ++ r.output.toList

/-- Reads the arguments of a command. -/
def Task.parse? (name : CommandName) (args : List String) : Option Task := do
  let parsed ← Command.parse? name.switches false args
  if parsed.has "help" then some .help
  else
    match name, parsed.positional with
    | .procfile, [file] => some (.procfile file)
    | .render, [app, environment] =>
      some (.render ⟨app, environment, parsed.value? "templates", parsed.value? "output"⟩)
    | _, _ => none

/-- The files and directories that a command line names. -/
def namedPaths (args : List String) : List String :=
  match Request.parse? args with
  | some (.command _ name args) => (Task.parse? name args).elim [] (·.paths)
  | _ => []

end Chartwright.Command
