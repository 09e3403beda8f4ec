import Chartwright.Network.Ingress
import Chartwright.Process.Definition
import Chartwright.Text.Bytes
import Chartwright.Yaml.Printer

/-!
# Charts

A compiled application: its deployments and entry points as a tree of values, and the templates
that the values fill.
-/

namespace Chartwright

/-- A compiled deployment. -/
structure CompiledDeployment where
  image : String
  version : Int
  processes : List ProcessDefinition
  labels : List Binding
  weight : Int
  volumes : List Extension
  imagePullSecrets : List String
deriving DecidableEq, Repr

namespace CompiledDeployment

/-- The routable process. -/
def routableProcess? (d : CompiledDeployment) : Option ProcessDefinition :=
  d.processes.find? (·.routable)

/-- The document of a deployment. -/
def toDocument (d : CompiledDeployment) : Document :=
  .object (
    [("image", .text d.image), ("version", .int d.version),
      ("processes", .list (d.processes.map (·.toDocument))),
      ("labels", .list (d.labels.map (·.toDocument))),
      ("routingSettings", .object [("weight", .int d.weight)]),
      ("extra", .object
        (if d.volumes = [] then [] else [("volumes", .list (d.volumes.map .object))]))] ++
    (if d.imagePullSecrets = [] then []
      else [("imagePullSecrets",
        .list (d.imagePullSecrets.map fun name => .object [("name", .text name)]))]))

end CompiledDeployment

/-- A compiled application. -/
structure Chart where
  app : ApplicationSpec
  environment : EnvironmentSpec
  deployments : List CompiledDeployment
  ingress : Ingress
  templates : Dict String String
deriving DecidableEq, Repr

namespace Chart

/-- Whether traffic can come in: there is an entry point and a process to receive it. -/
def isAccessible (c : Chart) : Bool :=
  (c.ingress.http ≠ [] || c.ingress.https ≠ []) &&
    c.deployments.any fun d => d.routableProcess?.isSome

/-- The tree of values. -/
def values (c : Chart) : Document :=
  let controller := c.environment.controller
  .object [
    ("app", .object [
      ("name", .text c.app.name),
      ("id", .text (if c.app.id = "" then c.app.name else c.app.id)),
      ("deployments", .list (c.deployments.map (·.toDocument))),
      ("env", .list (c.app.env.map (·.toDocument))),
      ("ingress", c.ingress.toDocument),
      ("isAccessible", .bool c.isAccessible),
      ("serviceAccountName", .text c.app.serviceAccount)]),
    ("dockerRegistry", .object [("imagePullSecret", .text c.app.registrySecret)]),
    ("ingressController", .object [
      ("className", .text controller.className),
      ("serviceEndpoint", .text controller.serviceEndpoint),
      ("type", .text controller.type.name),
      ("clusterIssuer", .text controller.clusterIssuer)])]

/-- The values in YAML. -/
def valuesYaml (c : Chart) : String := Yaml.print c.values

end Chart

/-- What a chart says about itself. -/
structure ChartConfig where
  appName : String
  chartVersion : String
  appVersion : String
  description : String
deriving DecidableEq, Repr

namespace ChartConfig

/-- The chart configuration of an application. -/
def ofApplication (app : ApplicationSpec) (settings : Settings) : ChartConfig where
  appName := app.name
  chartVersion := settings.chartVersion
  appVersion := app.version.getD ""
  description := if app.description = "" then settings.chartDescription else app.description

/-- The chart configuration in YAML. -/
def yaml (c : ChartConfig) : String :=
  Yaml.print (.object (
    [("apiVersion", .text "v2"), ("name", .text c.appName), ("description", .text c.description),
      ("type", .text "application"), ("version", .text c.chartVersion)] ++
    if c.appVersion = "" then [] else [("appVersion", .text c.appVersion)]))

end ChartConfig

/-- The files of a chart: its templates by name, then the values and the configuration. -/
def Chart.files (c : Chart) (config : ChartConfig) : Dict String String :=
  let templates := (c.templates.mergeSort fun a b => a.1 ≤ b.1).map fun (name, text) =>
    ("templates/" ++ name, text)
  Dict.merge templates [("values.yaml", c.valuesYaml), ("Chart.yaml", config.yaml)]

/-- The files of a chart with their bytes. -/
def Chart.buffered (c : Chart) (config : ChartConfig) : List (String × ByteArray) :=
  (c.files config).map fun (path, text) => (path, Text.encode text)

end Chartwright
