import Chartwright.Metadata.Rule
import Chartwright.Network.Port
import Chartwright.Process.Hook
import Chartwright.Process.Probe

/-!
# Process definitions

A process with everything resolved: its command, ports, variables, probes and metadata.
-/

namespace Chartwright

/-- What a process passes on to its pods. -/
structure PodExtra where
  securityContext : Option Extension
  resources : Option Extension
  volumeMounts : List Extension
  readiness : Option Extension
  liveness : Option Extension
  startup : Option Extension
  lifecycle : Option Extension
deriving DecidableEq, Repr

namespace PodExtra

/-- Nothing to pass on. -/
def empty : PodExtra := ⟨none, none, [], none, none, none, none⟩

/-- An entry for a mapping, unless it is absent or empty. -/
def entry (key : String) (value : Option Extension) : Dict String Document :=
  match value with
  | none | some [] => []
  | some fields => [(key, .object fields)]

/-- The document of the extras; what is absent or empty has no key. -/
def toDocument (x : PodExtra) : Document :=
  .object (
    entry "securityContext" x.securityContext ++
    entry "resourceRequirements" x.resources ++
    (if x.volumeMounts = [] then [] else [("volumeMounts", .list (x.volumeMounts.map .object))]) ++
    entry "readinessProbe" x.readiness ++
    entry "livenessProbe" x.liveness ++
    entry "startupProbe" x.startup ++
    entry "lifecycle" x.lifecycle)

end PodExtra

/-- A process with everything resolved. -/
structure ProcessDefinition where
  name : String
  command : List String
  units : Int
  routable : Bool
  containerPorts : List Int
  servicePorts : List ServicePort
  publicPort : Option Int
  env : List Binding
  extra : PodExtra
  labels : Buckets
  annotations : Buckets
deriving DecidableEq, Repr

namespace ProcessDefinition

/-- Whether the process can be reached. -/
def hasOpenPort (p : ProcessDefinition) : Bool := p.containerPorts ≠ [] && p.servicePorts ≠ []

/-- The document of a process. -/
def toDocument (p : ProcessDefinition) : Document :=
  .object (
    [("name", .text p.name), ("cmd", .texts p.command), ("units", .int p.units),
      ("routable", .bool p.routable),
      ("containerPorts", .list (p.containerPorts.map containerPortDocument)),
      ("servicePorts", .list (p.servicePorts.map (·.toDocument))),
      ("env", .list (p.env.map (·.toDocument))),
      ("extra", p.extra.toDocument),
      ("labels", p.labels.toDocument),
      ("annotations", p.annotations.toDocument)] ++
    (p.publicPort.map fun port => ("publicServicePort", .int port)).toList)

end ProcessDefinition

/-- The number of units of a process that asks for none. -/
def defaultUnits : Int := 1

/-- Resolves a process of a deployment. -/
def ProcessSpec.resolve (app : ApplicationSpec) (deployment : DeploymentSpec) (ports : PortSource)
    (routable : Bool) (spec : ProcessSpec) : Except CompileProblem ProcessDefinition := do
  let hooks := deployment.manifest.bind (·.hooks)
  let containerPorts := ports.containerPorts spec.name
  let servicePorts := ports.servicePorts spec.name
  let probes ← resolveProbes (deployment.manifest.bind (·.healthcheck))
    (containerPorts.head?.getD ports.settings.defaultPort)
  let labels ← MetadataRule.resolve app.labels deployment.version spec.name
  let annotations ← MetadataRule.resolve app.annotations deployment.version spec.name
  let process : ProcessDefinition := {
    name := spec.name
    command := Hooks.command hooks spec.command
    units := spec.units.getD defaultUnits
    routable
    containerPorts
    servicePorts
    publicPort := publicPort servicePorts
    env := portVariables spec.name containerPorts ++ spec.env
    extra := {
      securityContext := spec.securityContext
      resources := spec.resources
      volumeMounts := spec.volumeMounts
      readiness := probes.readiness
      liveness := probes.liveness
      startup := probes.startup
      lifecycle := Hooks.lifecycle hooks }
    labels
    annotations }
  if routable && !process.hasOpenPort then
    throw (.portsNotFound app.name deployment.version spec.name)
  return process

end Chartwright
