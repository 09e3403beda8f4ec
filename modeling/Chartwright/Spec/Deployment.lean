import Chartwright.Spec.Manifest
import Chartwright.Text.Quoted

/-!
# Deployments

A deployment is one revision of an application: an image, a version and a set of processes with
distinct names.
-/

namespace Chartwright

open Schema

/-- A name with a value: an environment variable or a label. -/
structure Binding where
  name : String
  value : String
deriving DecidableEq, Repr

/-- The shape of a name with a value. -/
def Binding.shape (title : String) : Shape Binding :=
  .record title true
    (.required "name" (.text .nonEmpty) <| .withDefault "value" (.text .any) "" .done)
    (fun (name, value, ()) => .ok ⟨name, value⟩) (fun b => (b.name, b.value, ()))

/-- The shape of an environment variable. -/
def Binding.variableShape : Shape Binding := Binding.shape "Env"

/-- The shape of a label. -/
def Binding.labelShape : Shape Binding := Binding.shape "Label"

/-- The document of a binding. -/
def Binding.toDocument (b : Binding) : Document :=
  .object [("name", .text b.name), ("value", .text b.value)]

/-- What one process of a deployment should be. -/
structure ProcessSpec where
  name : String
  command : List String
  units : Option Int
  env : List Binding
  resources : Option Extension
  volumes : List Extension
  volumeMounts : List Extension
  securityContext : Option Extension
deriving DecidableEq, Repr

/-- The shape of a process. -/
def ProcessSpec.shape : Shape ProcessSpec :=
  .record "ProcessSpec" true
    (.required "name" (.text .nonEmpty) <|
      .withDefault "cmd" (.list (.text .any)) [] <|
      .withDefault "units" (.optional (.integer [.atLeast 0])) none <|
      .withDefault "env" (.list Binding.variableShape) [] <|
      .withDefault "resources" (.optional .free) none <|
      .withDefault "volumes" (.list .free) [] <|
      .aliased "volume_mounts" "volumeMounts" (.list .free) [] <|
      .aliased "security_context" "securityContext" (.optional .free) none .done)
    (fun (name, command, units, env, resources, volumes, volumeMounts, securityContext, ()) =>
      .ok ⟨name, command, units, env, resources, volumes, volumeMounts, securityContext⟩)
    (fun p => (p.name, p.command, p.units, p.env, p.resources, p.volumes, p.volumeMounts,
      p.securityContext, ()))

/-- The shape of the share of traffic, in percent. -/
def weightShape : Shape Int :=
  .record "RoutingSettings" true
    (.withDefault "weight" (.integer [.atLeast 0, .atMost 100]) 0 .done)
    (fun (weight, ()) => .ok weight) (fun weight => (weight, ()))

/-- One revision of an application. -/
structure DeploymentSpec where
  image : String
  version : Int
  processes : List ProcessSpec
  manifest : Option Manifest
  labels : List Binding
  weight : Int
  exposedPorts : List ExposedPort
  imagePullSecrets : List String
deriving DecidableEq, Repr

/-- The first name that has occurred before. -/
def firstRepeated? (seen : List String) : List String → Option String
  | [] => none
  | name :: names => if name ∈ seen then some name else firstRepeated? (name :: seen) names

/-- Refuses a deployment in which two processes have one name. -/
def DeploymentSpec.checkNames (d : DeploymentSpec) : Except String DeploymentSpec :=
  match firstRepeated? [] (d.processes.map (·.name)) with
  | some name =>
    .error ("duplicate process name " ++ Text.quoted name ++ " in deployment " ++
      toString d.version)
  | none => .ok d

/-- The shape of a deployment. -/
def DeploymentSpec.shape : Shape DeploymentSpec :=
  .record "DeploymentSpec" true
    (.required "image" (.text .nonEmpty) <|
      .required "version" (.integer [.above 0]) <|
      .withDefault "processes" (.list ProcessSpec.shape) [] <|
      .withDefault "manifest" (.optional Manifest.shape) none <|
      .withDefault "labels" (.list Binding.labelShape) [] <|
      .aliased "routing_settings" "routingSettings" weightShape 0 <|
      .aliased "exposed_ports" "exposedPorts" (.list ExposedPort.shape) [] <|
      .aliased "image_pull_secrets" "imagePullSecrets" (.list (.text .any)) [] .done)
    (fun (image, version, processes, manifest, labels, weight, exposed, secrets, ()) =>
      DeploymentSpec.checkNames
        ⟨image, version, processes, manifest, labels, weight, exposed, secrets⟩)
    (fun d => (d.image, d.version, d.processes, d.manifest, d.labels, d.weight, d.exposedPorts,
      d.imagePullSecrets, ()))

end Chartwright
