import Chartwright.Document.Basic
import Chartwright.Text.Quoted

/-!
# Reports

How a failure is reported: a kind with a category and a hint whether a second attempt can help, a
message, and the context in which it happened.
-/

namespace Chartwright

/-- Broad classes of failures. -/
inductive Category where
  | validation | config | notFound | install | rollout | internal
deriving DecidableEq, Repr

namespace Category

/-- All categories. -/
def all : List Category := [.validation, .config, .notFound, .install, .rollout, .internal]

/-- The word for a category. -/
def name : Category → String
  | .validation => "VALIDATION"
  | .config => "CONFIG"
  | .notFound => "NOT_FOUND"
  | .install => "INSTALL"
  | .rollout => "ROLLOUT"
  | .internal => "INTERNAL"

/-- The category of a word. -/
def ofName? (s : String) : Option Category := all.find? (·.name = s)

end Category

/-- The kinds of failures. -/
inductive FailureKind where
  | general
  | validation
  | emptyDefinition
  | malformedKey
  | portsNotFound
  | healthcheck
  | config
  | missingIssuer
  | notFound
  | templatesNotFound
  | install
  | canary
deriving DecidableEq, Repr

namespace FailureKind

/-- All kinds. -/
def all : List FailureKind := [
  .general, .validation, .emptyDefinition, .malformedKey, .portsNotFound, .healthcheck, .config,
  .missingIssuer, .notFound, .templatesNotFound, .install, .canary]

/-- The name of a kind. -/
def name : FailureKind → String
  | .general => "AppChartError"
  | .validation => "ValidationError"
  | .emptyDefinition => "EmptyDefinitionError"
  | .malformedKey => "MalformedMetadataKeyError"
  | .portsNotFound => "PortsNotFoundError"
  | .healthcheck => "HealthcheckError"
  | .config => "ConfigError"
  | .missingIssuer => "MissingClusterIssuerError"
  | .notFound => "NotFoundError"
  | .templatesNotFound => "TemplatesNotFoundError"
  | .install => "InstallError"
  | .canary => "CanaryError"

/-- The kind of a name. -/
def ofName? (s : String) : Option FailureKind := all.find? (·.name = s)

/-- The kinds that a kind belongs to, itself first. -/
def lineage : FailureKind → List FailureKind
  | .general => [.general]
  | .emptyDefinition => [.emptyDefinition, .validation, .general]
  | .malformedKey => [.malformedKey, .validation, .general]
  | .portsNotFound => [.portsNotFound, .validation, .general]
  | .healthcheck => [.healthcheck, .validation, .general]
  | .missingIssuer => [.missingIssuer, .config, .general]
  | .templatesNotFound => [.templatesNotFound, .notFound, .general]
  | kind => [kind, .general]

/-- The category of a kind, unless a report says otherwise. -/
def category : FailureKind → Category
  | .general => .internal
  | .validation | .emptyDefinition | .malformedKey | .portsNotFound | .healthcheck => .validation
  | .config | .missingIssuer => .config
  | .notFound | .templatesNotFound => .notFound
  | .install => .install
  | .canary => .rollout

/-- Whether a second attempt can help: only a failed installation is worth one. -/
def retryable (kind : FailureKind) : Bool := kind = .install

/-- The message of a kind, unless a report says otherwise. -/
def message : FailureKind → String
  | .general => "appchart error"
  | .validation => "invalid application specification"
  | .emptyDefinition => "procfile should contain at least one process name with a command"
  | .malformedKey => "malformed metadata key"
  | .portsNotFound =>
    "routable process should have at least one container port and one service port"
  | .healthcheck => "healthcheck: only GET method is supported with use_in_router set"
  | .config => "invalid environment configuration"
  | .missingIssuer => "secure cnames require a framework.Ingress.ClusterIssuer to be specified"
  | .notFound => "not found"
  | .templatesNotFound => "templates not found"
  | .install => "chart installation failed"
  | .canary => "canary rollout error"

end FailureKind

/-- What was being worked on when something failed. -/
structure FailureContext where
  app : Option Document
  version : Option Document
  process : Option Document
  domain : Option Document
  metadata : Dict String Document
deriving DecidableEq, Repr

namespace FailureContext

/-- Nothing known. -/
def none : FailureContext := ⟨.none, .none, .none, .none, []⟩

/-- A value that is there unless it is null. -/
def present (d : Document) : Option Document := if d = .null then .none else some d

/-- Records a value: under its field if the key has one, else beside the fields. -/
def set (c : FailureContext) (key : String) (value : Document) : FailureContext :=
  match key with
  | "app" => { c with app := present value }
  | "deployment_version" => { c with version := present value }
  | "process" => { c with process := present value }
  | "domain" => { c with domain := present value }
  | _ => { c with metadata := Dict.put c.metadata key value }

/-- The fields that are known, and all other values, which win over the fields. -/
def toDict (c : FailureContext) : Dict String Document :=
  let fields : Dict String Document :=
    [("app", c.app), ("deployment_version", c.version), ("process", c.process),
      ("domain", c.domain)].filterMap fun (key, value) => value.map (key, ·)
  fields.merge c.metadata

end FailureContext

/-- A reported failure. -/
structure Report where
  kind : FailureKind
  message : String
  category : Category
  retryable : Bool
  context : FailureContext
  /-- The text of the error behind the failure. -/
  cause : Option String
deriving DecidableEq, Repr

namespace Report

/-- A report with the defaults of its kind; an empty message stands for the default. -/
def ofKind (kind : FailureKind) (message : String) : Report where
  kind
  message := if message = "" then kind.message else message
  category := kind.category
  retryable := kind.retryable
  context := .none
  cause := none

/-- Adds values to the context. -/
def withContext (r : Report) (values : List (String × Document)) : Report :=
  { r with context := values.foldl (fun c (key, value) => c.set key value) r.context }

/-- The report as a document. -/
def toDocument (r : Report) : Document :=
  let context := r.context.toDict
  .object (
    [("error_type", .text r.kind.name), ("message", .text r.message),
      ("category", .text r.category.name), ("retryable", .bool r.retryable)] ++
    (if context = [] then [] else [("context", .object context)]) ++
    (r.cause.map fun text => ("cause", .text text)).toList)

/-- A report on one line. -/
def summary (r : Report) : String :=
  r.kind.name ++ "(" ++ Text.quoted r.message ++ ", category=" ++ r.category.name ++ ")"

end Report

/-- An error of a collaborator, with its kind and its text. -/
structure ForeignError where
  kind : String
  text : Option String
deriving DecidableEq, Repr

/-- An error of either sort. -/
inductive AnyError where
  | report (r : Report)
  | foreign (e : ForeignError)
deriving DecidableEq, Repr

namespace AnyError

/-- The text of an error. -/
def text : AnyError → String
  | .report r => r.message
  | .foreign e => e.text.getD ""

/-- An error on one line. -/
def summary : AnyError → String
  | .report r => r.summary
  | .foreign e => e.kind ++ "(" ++ (e.text.elim "" Text.quoted) ++ ")"

/-- Whether a second attempt can help; never known of a foreign error. -/
def retryable : AnyError → Bool
  | .report r => r.retryable
  | .foreign _ => false

/-- The category of an error; a foreign one is internal. -/
def category : AnyError → Category
  | .report r => r.category
  | .foreign _ => .internal

/-- The names of all kinds that an error belongs to. -/
def lineage : AnyError → List String
  | .report r => r.kind.lineage.map (·.name)
  | .foreign e => [e.kind]

end AnyError

end Chartwright
