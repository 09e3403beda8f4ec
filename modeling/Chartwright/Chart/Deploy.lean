import Chartwright.Chart.Compile
import Chartwright.Chart.Export
import Chartwright.Template.Store

/-!
# Deployment

One pass over an application: fetch the templates of the environment, compile, install. The first
stage that fails ends it, and the installer is called at most once.
-/

namespace Chartwright

/-- Installs charts into some state. It may fail. -/
abbrev Installer (σ : Type) := Chart → ChartConfig → σ → σ × Option AnyError

/-- The kind of error that a fault of the file system is. -/
def FileFault.kind : FileFault → String
  | .notFound _ => "FileNotFoundError"
  | .alreadyThere _ => "FileExistsError"
  | .notDirectory _ | .notRemovable _ => "NotADirectoryError"
  | .isDirectory _ => "IsADirectoryError"
  | .nameTooLong _ => "OSError"
  | .nullCharacter => "ValueError"

/-- Installs charts below a directory of a file tree. -/
def directoryInstaller (root : Path) : Installer FileTree := fun chart config t =>
  let (t, fault) := chart.exportTo root config t
  (t, fault.map fun f => .foreign ⟨f.kind, some f.text⟩)

/-- Why an application is not deployed. -/
inductive DeployProblem where
  | templates (problem : TemplateProblem)
  | compile (problem : CompileProblem)
  /-- The installer refused the chart with a report of its own. -/
  | refused (report : Report)
  /-- The installer failed for a reason of its own. -/
  | installFailed (app : String) (error : ForeignError)
deriving DecidableEq, Repr

/-- The report of a problem; templates that cannot be decoded have none. -/
def DeployProblem.report? : DeployProblem → Option Report
  | .templates problem => problem.report?
  | .compile problem => some problem.report
  | .refused report => some report
  | .installFailed app error =>
    let text := (AnyError.foreign error).text
    let report := Report.ofKind .install
      ("failed to install chart " ++ Text.quoted app ++ ": " ++ text)
    some { report.withContext [("app", .text app)] with cause := some text }

/-- The record of a failed installation. -/
def installFailedRecord (app : String) (error : ForeignError) : LogRecord where
  level := .warning
  event := "chart_install_failed"
  fields := [("app", .text app), ("error", .text (AnyError.foreign error).text)]

/-- The record of an installation. -/
def installedRecord (app : String) (config : ChartConfig) : LogRecord where
  level := .info
  event := "chart_installed"
  fields := [("app", .text app), ("chart_version", .text config.chartVersion)]

/-- Installs a compiled chart. -/
def installChart {σ : Type} (install : Installer σ) (settings : Settings) (chart : Chart)
    (state : σ) : Logged (σ × Except DeployProblem Chart) :=
  let app := chart.app.name
  let config := ChartConfig.ofApplication chart.app settings
  match install chart config state with
  | (state, none) => do
    Logged.write (installedRecord app config)
    return (state, .ok chart)
  | (state, some (.report report)) => return (state, .error (.refused report))
  | (state, some (.foreign error)) => do
    Logged.write (installFailedRecord app error)
    return (state, .error (.installFailed app error))

/-- Deploys an application. -/
def deploy {σ : Type} (app : ApplicationSpec) (environment : EnvironmentSpec)
    (read : String → Except TemplateProblem Templates) (install : Installer σ)
    (settings : Settings) (state : σ) : Logged (σ × Except DeployProblem Chart) :=
  match read environment.templatesName with
  | .error problem => return (state, .error (.templates problem))
  | .ok templates => do
    match ← compileLogged ⟨app, environment, templates, [], settings⟩ with
    | .error problem => return (state, .error (.compile problem))
    | .ok chart => installChart install settings chart state

end Chartwright
