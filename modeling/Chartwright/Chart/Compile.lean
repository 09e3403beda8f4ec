import Chartwright.Chart.Basic
import Chartwright.Log.Context

/-!
# Compilation

From an application and an environment to a chart. The keys of all rules are checked first, then
the ingress is resolved, then the deployments in order; the first problem ends it.
-/

namespace Chartwright

/-- Ports of images by version, which replace those of the deployments. -/
abbrev PortOverrides := Dict Int (List ExposedPort)

/-- The ports of the image of a deployment. -/
def DeploymentSpec.effectivePorts (d : DeploymentSpec) (overrides : PortOverrides) :
    List ExposedPort := (Dict.get? overrides d.version).getD d.exposedPorts

/-- Compiles a deployment. -/
def DeploymentSpec.compile (app : ApplicationSpec) (settings : Settings) (overrides : PortOverrides)
    (d : DeploymentSpec) : Except CompileProblem CompiledDeployment := do
  let procfile ← (Procfile.ofSpecs d.processes).mapError
    fun _ => .emptyDefinition app.name d.version
  let ports : PortSource :=
    ⟨d.manifest.bind (·.ports), d.effectivePorts overrides, settings⟩
  let processes ← d.processes.mapM fun spec =>
    spec.resolve app d ports (procfile.isRoutable spec.name)
  return {
    image := d.image
    version := d.version
    processes
    labels := d.labels
    weight := d.weight
    volumes := d.processes.flatMap (·.volumes)
    imagePullSecrets := d.imagePullSecrets }

/-- What an application is compiled with. -/
structure CompileInput where
  app : ApplicationSpec
  environment : EnvironmentSpec
  templates : Dict String String
  overrides : PortOverrides
  settings : Settings
deriving DecidableEq, Repr

/-- Compiles an application. -/
def compile (input : CompileInput) : Except CompileProblem Chart := do
  let app := input.app
  MetadataRule.checkAll (app.labels ++ app.annotations)
  let ingress ← app.resolveIngress input.environment input.settings
  let deployments ← app.deployments.mapM (·.compile app input.settings input.overrides)
  return ⟨app, input.environment, deployments, ingress, input.templates⟩

/-- The record of a compiled chart. -/
def Chart.compiledRecord (c : Chart) : LogRecord where
  level := .debug
  event := "application_compiled"
  fields := [
    ("deployments", .int c.deployments.length),
    ("processes", .int (c.deployments.flatMap (·.processes)).length),
    ("accessible", .bool c.isAccessible)]

/-- Compiles an application with its name and that of the environment bound to the records. -/
def compileLogged (input : CompileInput) : Logged (Except CompileProblem Chart) :=
  Logged.within
    [("app", .text input.app.name), ("environment", .text input.environment.name)] do
      match compile input with
      | .ok chart =>
        Logged.write chart.compiledRecord
        return .ok chart
      | .error problem => return .error problem

end Chartwright
