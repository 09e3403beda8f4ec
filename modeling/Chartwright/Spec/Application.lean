import Chartwright.Spec.Deployment

/-!
# Applications

The desired state of an application across its deployments: ingress domains, rules for labels and
annotations, and the progress of a canary rollout.
-/

namespace Chartwright

open Schema

/-- A domain name that is routed to the application. -/
structure Domain where
  name : String
  secure : Bool
  secretName : String
deriving DecidableEq, Repr

/-- The shape of a domain. -/
def Domain.shape : Shape Domain :=
  .record "CustomDomain" true
    (.required "name" (.text .nonEmpty) <|
      .withDefault "secure" .flag false <|
      .aliased "secret_name" "secretName" (.text .any) "" .done)
    (fun (name, secure, secretName, ()) => .ok ⟨name, secure, secretName⟩)
    (fun d => (d.name, d.secure, d.secretName, ()))

/-- The domains of an application. -/
structure IngressSpec where
  generateDefaultDomain : Bool
  domains : List Domain
deriving DecidableEq, Repr

/-- The shape of the domains of an application. -/
def IngressSpec.shape : Shape IngressSpec :=
  .record "IngressSpec" true
    (.aliased "generate_default_domain" "generateDefaultCname" .flag false <|
      .aliased "domains" "cnames" (.list Domain.shape) [] .done)
    (fun (generate, domains, ()) => .ok ⟨generate, domains⟩)
    (fun i => (i.generateDefaultDomain, i.domains, ()))

/-- The kinds of objects that a rule can be about. -/
inductive TargetKind where
  | deployment | service | pod
deriving DecidableEq, Repr

/-- All kinds of objects. -/
def TargetKind.all : List TargetKind := [.deployment, .service, .pod]

/-- The name of a kind of objects. -/
def TargetKind.name : TargetKind → String
  | .deployment => "Deployment"
  | .service => "Service"
  | .pod => "Pod"

/-- The version of the interface that a kind of objects belongs to. -/
def TargetKind.apiVersion : TargetKind → String
  | .deployment => "apps/v1"
  | .service | .pod => "v1"

/-- The kind of object that a rule names. -/
structure RuleTarget where
  apiVersion : String
  kind : String
deriving DecidableEq, Repr

/-- The shape of the target of a rule. -/
def RuleTarget.shape : Shape RuleTarget :=
  .record "MetadataTarget" true
    (.aliased "api_version" "apiVersion" (.text .any) "" <|
      .withDefault "kind" (.text .any) "" .done)
    (fun (apiVersion, kind, ()) => .ok ⟨apiVersion, kind⟩)
    (fun t => (t.apiVersion, t.kind, ()))

/-- The target that names a kind. -/
def RuleTarget.of (kind : TargetKind) : RuleTarget := ⟨kind.apiVersion, kind.name⟩

/-- The kind that a target names, if it is one of the known kinds. -/
def RuleTarget.kind? (t : RuleTarget) : Option TargetKind :=
  TargetKind.all.find? fun kind => t = .of kind

/-- Labels or annotations for the objects of a kind; version zero and the empty process name stand
for all. -/
structure MetadataRule where
  target : RuleTarget
  apply : Dict String String
  version : Int
  process : String
deriving DecidableEq, Repr

/-- The shape of a rule. -/
def MetadataRule.shape : Shape MetadataRule :=
  .record "MetadataRule" true
    (.withDefault "target" RuleTarget.shape ⟨"", ""⟩ <|
      .withDefault "apply" (.table (.text .any)) [] <|
      .aliased "deployment_version" "deploymentVersion" (.integer [.atLeast 0]) 0 <|
      .aliased "process_name" "processName" (.text .any) "" .done)
    (fun (target, apply, version, process, ()) => .ok ⟨target, apply, version, process⟩)
    (fun r => (r.target, r.apply, r.version, r.process, ()))

/-- The settings and the progress of a canary rollout. -/
structure CanarySpec where
  steps : Int
  stepWeight : Int
  stepInterval : Duration
  nextScheduledTime : Option Moment
  currentStep : Int
  active : Bool
  started : Option Moment
  target : Dict String Int
deriving DecidableEq, Repr

/-- No canary. -/
def CanarySpec.none : CanarySpec := ⟨0, 0, ⟨0⟩, .none, 0, false, .none, []⟩

/-- The shape of a canary rollout. -/
def CanarySpec.shape : Shape CanarySpec :=
  .record "CanarySpec" true
    (.withDefault "steps" (.integer [.atLeast 0, .atMost 100]) 0 <|
      .aliased "step_weight" "stepWeight" (.integer [.atLeast 0, .atMost 100]) 0 <|
      .aliased "step_interval" "stepTimeInterval" .duration ⟨0⟩ <|
      .aliased "next_scheduled_time" "nextScheduledTime" (.optional .moment) Option.none <|
      .aliased "current_step" "currentStep" (.integer [.atLeast 0]) 0 <|
      .withDefault "active" .flag false <|
      .withDefault "started" (.optional .moment) Option.none <|
      .withDefault "target" (.table (.integer [])) [] .done)
    (fun (steps, weight, interval, next, current, active, started, target, ()) =>
      .ok ⟨steps, weight, interval, next, current, active, started, target⟩)
    (fun c => (c.steps, c.stepWeight, c.stepInterval, c.nextScheduledTime, c.currentStep, c.active,
      c.started, c.target, ()))

/-- An application: its deployments in order, the older first. -/
structure ApplicationSpec where
  name : String
  id : String
  version : Option String
  description : String
  deployments : List DeploymentSpec
  env : List Binding
  ingress : IngressSpec
  registrySecret : String
  labels : List MetadataRule
  annotations : List MetadataRule
  serviceAccount : String
  canary : CanarySpec
deriving DecidableEq, Repr

/-- Lower-case letters of ASCII. -/
def isLower (c : Char) : Bool := 'a' ≤ c && c ≤ 'z'

/-- The pattern of application names. -/
def applicationNamePattern : Pattern where
  source := "^[a-z][a-z0-9-]*$"
  accepts
    | [] => false
    | c :: rest => isLower c && rest.all fun c => isLower c || Text.isDigit c || c = '-'

/-- The shape of an application. -/
def ApplicationSpec.shape : Shape ApplicationSpec :=
  .record "ApplicationSpec" true
    (.required "name" (.text ⟨1, some 40, some applicationNamePattern⟩) <|
      .withDefault "id" (.text .any) "" <|
      .withDefault "version" (.optional (.text .any)) none <|
      .withDefault "description" (.text ⟨0, some 140, none⟩) "" <|
      .withDefault "deployments" (.list DeploymentSpec.shape) [] <|
      .withDefault "env" (.list Binding.variableShape) [] <|
      .withDefault "ingress" IngressSpec.shape ⟨false, []⟩ <|
      .aliased "docker_registry_secret" "dockerRegistrySecret" (.text .any) "" <|
      .withDefault "labels" (.list MetadataRule.shape) [] <|
      .withDefault "annotations" (.list MetadataRule.shape) [] <|
      .aliased "service_account_name" "serviceAccountName" (.text .any) "" <|
      .withDefault "canary" CanarySpec.shape .none .done)
    (fun (name, id, version, description, deployments, env, ingress, secret, labels, annotations,
        account, canary, ()) =>
      .ok ⟨name, id, version, description, deployments, env, ingress, secret, labels, annotations,
        account, canary⟩)
    (fun a => (a.name, a.id, a.version, a.description, a.deployments, a.env, a.ingress,
      a.registrySecret, a.labels, a.annotations, a.serviceAccount, a.canary, ()))

/-- The first deployment of a version. -/
def ApplicationSpec.deployment? (app : ApplicationSpec) (version : Int) : Option DeploymentSpec :=
  app.deployments.find? (·.version = version)

end Chartwright
