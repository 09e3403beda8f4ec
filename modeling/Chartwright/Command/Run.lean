import Chartwright.Chart.Compile
import Chartwright.Chart.Export
import Chartwright.Command.Libraries
import Chartwright.Command.Request
import Chartwright.Settings.Sources
import Chartwright.Spec.Catalogue
import Chartwright.Template.Store

/-!
# Running a command

What the program does with a command line, the variables of its environment and the files around
it. It shows the processes of a procfile, or it renders an application for an environment: as values
on its output, or as a chart below a directory.

The command line and the settings, the order in which files are read and what is made of them are
the program's own, and so are the errors that it provides for; the rest is that of the libraries.
The files of an exported chart have the form of `Yaml.print`.
-/

namespace Chartwright.Command

open Schema

/-- What ends the program although it is not meant to report it. -/
inductive Escape where
  | settings (rejection : Rejection)
  /-- A file is not in UTF-8. -/
  | undecodable
  /-- An error of a library that is not provided for. -/
  | raised (error : ForeignError)
  | fault (fault : FileFault)
deriving DecidableEq, Repr

/-- Why a command does not succeed. -/
inductive Failure where
  /-- The command line cannot be understood, or names files that cannot be used. -/
  | misused
  | reported (message : String)
  | escaped (escape : Escape)
deriving DecidableEq, Repr

/-- What the failure of a library leads to, with words around what it says. -/
def LibraryError.failure (describe : String → String) : LibraryError → Failure
  | .expected text => .reported (describe text)
  | .other error => .escaped (.raised error)

/-- What a command has to show. -/
inductive Output where
  | text (text : String)
  /-- The processes of a procfile: name, command, and whether it is routable. -/
  | processes (file : Path) (rows : List (String × String × Bool))
  /-- The directory of a chart that was written. -/
  | chart (directory : Path)
deriving DecidableEq, Repr

/-- The name and the version of the program. -/
def versionText : String := "appchart 0.1.0\n"

/-- How the program is called. -/
def helpText : String :=
  "usage: appchart [-V] [-v] procfile FILE\n" ++
  "       appchart [-V] [-v] render [-t DIRECTORY] [-o DIRECTORY] APPLICATION ENVIRONMENT\n"

/-- The name of the file with lines of settings. -/
def dotEnvFile : String := ".env"

/-- Fails with a message. -/
def report {α : Type} (message : String) : Except Failure α := .error (.reported message)

/-- The text in a file; decoding it may fail. -/
def fileText? (t : FileTree) (name : String) : Option (Option String) :=
  match t.named? name with
  | some (.file content) => some (Text.decode? content)
  | _ => none

/-- The settings of the environment and of the file with lines of settings. -/
def loadSettings (environment : List (String × String)) (t : FileTree) :
    Except Failure Settings := do
  let dotEnv ←
    match fileText? t dotEnvFile with
    | some none => .error (.escaped .undecodable)
    | some (some text) => .ok (some text)
    | none => .ok none
  (Settings.Sources.load ⟨.mapping [], environment, dotEnv⟩).mapError (.escaped <| .settings ·)

/-- A file that a command line names. -/
structure SourceFile where
  path : Path
  content : ByteArray

/-- The file that an argument has to name. -/
def requireFile (t : FileTree) (name : String) : Except Failure SourceFile :=
  match t.named? name with
  | some (.file content) => .ok ⟨.ofString name, content⟩
  | _ => .error .misused

/-- Checks that an argument, if it is there, does not name a file. -/
def refuseFile (t : FileTree) (name : Option String) : Except Failure Unit :=
  match name.bind t.named? with
  | some (.file _) => .error .misused
  | _ => .ok ()

/-- The message about a file that cannot be read. -/
def unreadable (path : Path) (reason : String) : String :=
  "cannot read " ++ path.render ++ ": " ++ reason

/-- Reads the text in a file. -/
def readText (l : Libraries) (file : SourceFile) : Except Failure String :=
  match Text.decode? file.content with
  | some text => .ok text
  | none => report (unreadable file.path (l.undecodable file.content))

/-- Loads a mapping from a YAML file. -/
def readMapping (l : Libraries) (file : SourceFile) : Except Failure l.Loaded := do
  let text ← readText l file
  let d ← (l.load text).mapError (·.failure (unreadable file.path))
  if l.isMapping d then return d else report (file.path.render ++ " must contain a mapping")

/-- Reads a value of a shape from a YAML file. -/
def readSpec {α : Type} (l : Libraries) (shape : Shape α) (file : SourceFile) :
    Except Failure α := do
  let d ← readMapping l file
  (l.validate shape d).mapError (·.failure id)

/-- Shows the processes of a procfile, by name. -/
def showProcfile (l : Libraries) (file : SourceFile) : Except Failure Output := do
  let text ← readText l file
  match Procfile.parse text with
  | .error _ => report FailureKind.emptyDefinition.message
  | .ok procfile =>
    return .processes file.path (procfile.sortedNames.map fun name =>
      (name, " ".intercalate ((Dict.get? procfile.processes name).getD []),
        procfile.isRoutable name))

/-- Reads the templates in a directory; without a directory there are none. -/
def readTemplates (t : FileTree) (directory : Option String) : Except Failure Templates :=
  match directory with
  | none => .ok []
  | some name =>
    (Templates.readDirectory t (.ofString name)).mapError fun problem =>
      problem.report?.elim (.escaped .undecodable) (.reported ·.message)

/-- What an application is rendered from. -/
structure RenderSources where
  app : SourceFile
  environment : SourceFile
  templates : Option String

/-- The files that a request names, if they can be used. -/
def findSources (t : FileTree) (r : RenderRequest) : Except Failure RenderSources := do
  let app ← requireFile t r.app
  let environment ← requireFile t r.environment
  refuseFile t r.templates
  refuseFile t r.output
  return ⟨app, environment, r.templates⟩

/-- Compiles an application from its sources. -/
def compileSources (l : Libraries) (settings : Settings) (t : FileTree) (s : RenderSources) :
    Except Failure Chart := do
  let app ← readSpec l ApplicationSpec.shape s.app
  let environment ← readSpec l EnvironmentSpec.shape s.environment
  let templates ← readTemplates t s.templates
  (compile ⟨app, environment, templates, [], settings⟩).mapError (.reported ·.report.message)

/-- Shows the values of a chart. -/
def showValues (l : Libraries) (chart : Chart) : Except Failure Output :=
  (l.dump chart.values).map (.text ·) |>.mapError (.escaped <| .raised ·)

/-- Writes a chart below a directory. -/
def writeChart (settings : Settings) (t : FileTree) (chart : Chart) (directory : String) :
    FileTree × Except Failure Output :=
  let root := Path.ofString directory
  let config := ChartConfig.ofApplication chart.app settings
  match chart.exportTo root config t with
  | (t, some fault) => (t, .error (.escaped (.fault fault)))
  | (t, none) => (t, .ok (.chart (Chart.exportPath root config)))

/-- Renders an application: as values, or as a chart below the directory that is asked for. -/
def render (l : Libraries) (settings : Settings) (t : FileTree) (r : RenderRequest) :
    FileTree × Except Failure Output :=
  match findSources t r >>= compileSources l settings t with
  | .error failure => (t, .error failure)
  | .ok chart =>
    match r.output with
    | none => (t, showValues l chart)
    | some directory => writeChart settings t chart directory

/-- Runs a task. -/
def runTask (l : Libraries) (settings : Settings) (t : FileTree) :
    Task → FileTree × Except Failure Output
  | .help => (t, .ok (.text helpText))
  | .procfile file => (t, requireFile t file >>= showProcfile l)
  | .render r => render l settings t r

/-- Runs the program. Settings are loaded for every command, before its arguments are looked at. -/
def run (l : Libraries) (args : List String) (environment : List (String × String))
    (t : FileTree) : FileTree × Except Failure Output :=
  match Request.parse? args with
  | none => (t, .error .misused)
  | some .version => (t, .ok (.text versionText))
  | some .help => (t, .ok (.text helpText))
  | some (.command _ name args) =>
    match loadSettings environment t, Task.parse? name args with
    | .error failure, _ => (t, .error failure)
    | .ok _, none => (t, .error .misused)
    | .ok settings, some task => runTask l settings t task

end Chartwright.Command
