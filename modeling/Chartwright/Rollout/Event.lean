import Chartwright.Log.Context
import Chartwright.Spec.Application

/-!
# Canary events

What happens during a canary rollout, as the recorder of events is told. Numbers are told with all
their digits, however many there are.
-/

namespace Chartwright

/-- What can happen. -/
inductive CanaryEventName where
  | notActive | started | nextStep | stepTarget | finished | rolledBack
deriving DecidableEq, Repr

/-- The name of an event. -/
def CanaryEventName.text : CanaryEventName → String
  | .notActive => "CanaryNotActive"
  | .started => "CanaryStarted"
  | .nextStep => "CanaryNextStep"
  | .stepTarget => "CanaryStepTarget"
  | .finished => "CanaryFinished"
  | .rolledBack => "CanaryRolledBack"

/-- The description of an event. -/
def CanaryEventName.description : CanaryEventName → String
  | .notActive => "error - canary triggered, but not active"
  | .started => "started"
  | .nextStep => "weight change"
  | .stepTarget => "units change"
  | .finished => "finished"
  | .rolledBack => "rolled back"

/-- An event. -/
structure CanaryEvent where
  app : String
  version : Int
  name : CanaryEventName
  annotations : Dict String String
deriving DecidableEq, Repr

namespace CanaryEvent

/-- The key of an annotation. -/
def annotationKey (name : String) : String := "canary.appchart.io/" ++ name

/-- An event on one line. -/
def message (e : CanaryEvent) : String :=
  e.name.text ++ " - Canary for app " ++ e.app ++ " | version " ++ toString e.version ++ " - " ++
    e.name.description

/-- An event of an application, about its last deployment, with further annotations. -/
def of (app : ApplicationSpec) (name : CanaryEventName) (extra : List (String × String)) :
    CanaryEvent :=
  let version := (app.deployments.getLast?.map (·.version)).getD 0
  let annotations := [
    ("app-name", app.name), ("deployment-version", toString version), ("event-name", name.text),
    ("description", name.description)] ++ extra
  ⟨app.name, version, name, annotations.map fun (k, v) => (annotationKey k, v)⟩

/-- The event of a step. -/
def ofStep (app : ApplicationSpec) (source dest : DeploymentSpec) : CanaryEvent :=
  of app .nextStep [
    ("step", toString app.canary.currentStep), ("version-source", toString source.version),
    ("version-dest", toString dest.version), ("weight-source", toString source.weight),
    ("weight-dest", toString dest.weight)]

/-- The event of a change of units. -/
def ofUnits (app : ApplicationSpec) (process : String) (source dest : Int) : CanaryEvent :=
  of app .stepTarget [
    ("process-name", process), ("source-process-units", toString source),
    ("dest-process-units", toString dest)]

/-- The record of an event. -/
def record (e : CanaryEvent) : LogRecord where
  level := .info
  event := "canary_event"
  fields := [("event_name", .text e.name.text), ("app", .text e.app), ("message", .text e.message)]

/-- Records an event and passes it on. -/
def emit (e : CanaryEvent) : Logged CanaryEvent := do
  Logged.write e.record
  return e

end CanaryEvent

end Chartwright
