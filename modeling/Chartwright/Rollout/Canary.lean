import Chartwright.Report
import Chartwright.Rollout.Event
import Chartwright.Rollout.Units

/-!
# Canary rollouts

Traffic moves from the old deployment, the first one, to the new one, the second, in steps that
are due at fixed intervals. A rollout is inactive, stepping or complete; each operation takes the
application and a reading of the clock and gives the application back as it is then.
-/

namespace Chartwright

/-- Where a rollout stands. -/
inductive CanaryPhase where
  | inactive | stepping | complete
deriving DecidableEq, Repr

/-- The word for a phase. -/
def CanaryPhase.name : CanaryPhase → String
  | .inactive => "inactive"
  | .stepping => "stepping"
  | .complete => "complete"

/-- The phase of a rollout. -/
def CanarySpec.phase (c : CanarySpec) : CanaryPhase :=
  if c.active then .stepping
  else if 0 < c.steps ∧ c.steps ≤ c.currentStep then .complete
  else .inactive

/-- Why an operation on a rollout is refused. -/
inductive CanaryProblem where
  | notInactive (app : String) (phase : CanaryPhase)
  | notTwoDeployments (app : String) (count : Nat)
  | stepsOutOfRange (app : String)
  | intervalNotPositive (app : String)
  | stepWeightOutOfRange (app : String)
  | tooFewDeployments (app : String)
  | notScheduled (app : String)
  | nothingToRollBack (app : String)
  | stillStepping (app : String)
  /-- A moment lies behind the last year, or a number of units is too large. -/
  | overflow
  /-- The target of a rollout is no mapping to integers. -/
  | unreadableTarget (issues : List Schema.Issue)
deriving DecidableEq, Repr

/-- The report of a problem; an overflow and an unreadable target have none. -/
def CanaryProblem.report? : CanaryProblem → Option Report
  | .notInactive app phase =>
    about app ("canary is " ++ phase.name ++ "; it must be inactive to start") []
  | .notTwoDeployments app count =>
    about app "canary deployment requires exactly two deployments" [("deployments", .int count)]
  | .stepsOutOfRange app => about app "steps must be within the range 2 to 100" []
  | .intervalNotPositive app => about app "step interval must be positive" []
  | .stepWeightOutOfRange app => about app "step weight must be within the range 1 to 100" []
  | .tooFewDeployments app => about app "canary needs more than 1 deployment to run" []
  | .notScheduled app => about app "canary is active but the next step is not scheduled" []
  | .nothingToRollBack app => about app "nothing to roll back: fewer than two deployments" []
  | .stillStepping app => about app "canary is still stepping; roll it back first" []
  | .overflow | .unreadableTarget _ => none
where
  /-- A report about an application. -/
  about (app message : String) (values : List (String × Document)) : Option Report :=
    some ((Report.ofKind .canary message).withContext (("app", .text app) :: values))

namespace Canary

/-- The least number of steps. -/
def minimumSteps : Int := 2

/-- The greatest number of steps. -/
def maximumSteps : Int := 100

/-- How a rollout is started; without a weight the steps share the traffic evenly. -/
structure Activation where
  steps : Int
  interval : Duration
  stepWeight : Option Int
  target : Dict String Int
deriving DecidableEq, Repr

/-- The weight of a step. -/
def Activation.effectiveWeight (a : Activation) : Int := a.stepWeight.getD (fullWeight / a.steps)

/-- Refuses an activation that the application or its own numbers do not allow. -/
def checkActivation (app : ApplicationSpec) (a : Activation) : Except CanaryProblem Unit := do
  if app.canary.phase ≠ .inactive then throw (.notInactive app.name app.canary.phase)
  if app.deployments.length ≠ 2 then throw (.notTwoDeployments app.name app.deployments.length)
  if a.steps < minimumSteps ∨ maximumSteps < a.steps then throw (.stepsOutOfRange app.name)
  if a.interval.microseconds ≤ 0 then throw (.intervalNotPositive app.name)
  if a.effectiveWeight ≤ 0 ∨ fullWeight < a.effectiveWeight then
    throw (.stepWeightOutOfRange app.name)

/-- Gives all traffic to the first deployment and none to the second. -/
def resetWeights : List DeploymentSpec → List DeploymentSpec
  | source :: dest :: rest => { source with weight := fullWeight } :: { dest with weight := 0 } :: rest
  | ds => ds

/-- Starts a rollout at a reading of the clock. -/
def start (app : ApplicationSpec) (now : Moment) (a : Activation) :
    Except CanaryProblem ApplicationSpec := do
  checkActivation app a
  let started := now.inUtc
  match started.add? a.interval with
  | none => throw .overflow
  | some due => return { app with
      deployments := resetWeights app.deployments
      canary := {
        steps := a.steps
        stepWeight := a.effectiveWeight
        stepInterval := a.interval
        nextScheduledTime := some due
        currentStep := 0
        active := true
        started := some started
        target := a.target } }

/-- The version of a deployment by its position. -/
def versionAt (app : ApplicationSpec) (index : Nat) : Int :=
  (app.deployments[index]?.map (·.version)).getD 0

/-- The record of a started rollout. -/
def startRecord (app : ApplicationSpec) (a : Activation) : LogRecord where
  level := .info
  event := "canary_activated"
  fields := [("app", .text app.name), ("steps", .int a.steps),
    ("step_weight", .int a.effectiveWeight), ("source", .int (versionAt app 0)),
    ("dest", .int (versionAt app 1))]

/-- Starts a rollout and records it. -/
def activate (app : ApplicationSpec) (now : Moment) (a : Activation) :
    Logged (Except CanaryProblem ApplicationSpec) :=
  match start app now a with
  | .error problem => return .error problem
  | .ok app => do
    Logged.write (startRecord app a)
    return .ok app

/-- Starts a rollout whose target comes as a document. It is read last, so any other problem comes
before those of the target. -/
def activateReading (app : ApplicationSpec) (now : Moment) (a : Activation) (target : Document) :
    Logged (Except CanaryProblem ApplicationSpec) :=
  let target := if target.isEmpty then .mapping [] else target
  match (Schema.Shape.table (.integer [])).decode target with
  | .ok target => activate app now { a with target }
  | .error issues =>
    match start app now { a with target := [] } with
    | .error problem => return .error problem
    | .ok _ => return .error (.unreadableTarget (issues.map (·.under (.key (.text "target")))))

/-- Sets the units of the first process of a name. -/
def setUnits (name : String) (units : Int) : List ProcessSpec → List ProcessSpec
  | [] => []
  | p :: ps => if p.name = name then { p with units := some units } :: ps else p :: setUnits name units ps

/-- Whether a deployment has a process of a name. -/
def hasProcess (d : DeploymentSpec) (name : String) : Bool := d.processes.any (·.name = name)

/-- The record of a process that a deployment does not have. -/
def missingRecord (name : String) (version : Int) : LogRecord where
  level := .info
  event := "canary_process_missing"
  fields := [("process", .text name), ("version", .int version)]

/-- The old and the new deployment of a rollout. -/
structure Pair where
  source : DeploymentSpec
  dest : DeploymentSpec
deriving DecidableEq, Repr

/-- Sets the units of a process in both deployments. -/
def Pair.setUnits (p : Pair) (name : String) (units : Int × Int) : Pair where
  source := { p.source with processes := Canary.setUnits name units.1 p.source.processes }
  dest := { p.dest with processes := Canary.setUnits name units.2 p.dest.processes }

/-- The records of a target process that is missing in either deployment. -/
def Pair.missingRecords (p : Pair) (name : String) : List LogRecord :=
  [p.source, p.dest].filterMap fun d =>
    if hasProcess d name then none else some (missingRecord name d.version)

/-- Shares out the units of the target processes, one after the other. -/
def scaleTargets (app : ApplicationSpec) :
    Pair → List (String × Int) → Logged (Except CanaryProblem (Pair × List CanaryEvent))
  | pair, [] => return .ok (pair, [])
  | pair, (name, units) :: rest =>
    match splitUnits? pair.source.weight units with
    | none => return .error .overflow
    | some split => do
      Logged.writeAll (pair.missingRecords name)
      let event ← (CanaryEvent.ofUnits app name split.1 split.2).emit
      match ← scaleTargets app (pair.setUnits name split) rest with
      | .error problem => return .error problem
      | .ok (pair, events) => return .ok (pair, event :: events)

/-- Gives every process outside the target one unit. -/
def singleUnits (target : Dict String Int) (ps : List ProcessSpec) : List ProcessSpec :=
  ps.map fun p => if Dict.contains target p.name then p else { p with units := some 1 }

/-- Gives every process of the target all its units. -/
def fullUnits (target : Dict String Int) (ps : List ProcessSpec) : List ProcessSpec :=
  ps.map fun p =>
    match Dict.get? target p.name with
    | some units => { p with units := some units }
    | none => p

/-- The target by process name. -/
def sortedTarget (target : Dict String Int) : List (String × Int) :=
  target.mergeSort fun a b => a.1 ≤ b.1

/-- The units of both deployments after a step; without a target none changes. -/
def scale (app : ApplicationSpec) (pair : Pair) :
    Logged (Except CanaryProblem (Pair × List CanaryEvent)) :=
  if app.canary.target = [] then return .ok (pair, [])
  else do
    match ← scaleTargets app pair (sortedTarget app.canary.target) with
    | .error problem => return .error problem
    | .ok (pair, events) =>
      let dest :=
        { pair.dest with processes := singleUnits app.canary.target pair.dest.processes }
      return .ok ({ pair with dest }, events)

/-- Moves the weight of a step from the old to the new deployment. -/
def Pair.shift (p : Pair) (weight : Int) : Pair where
  source := { p.source with weight := max 0 (p.source.weight - weight) }
  dest := { p.dest with weight := min fullWeight (p.dest.weight + weight) }

/-- Whether a rollout ends with the step that was made. -/
def isLast (canary : CanarySpec) (dest : DeploymentSpec) : Bool :=
  canary.steps ≤ canary.currentStep || fullWeight ≤ dest.weight

/-- The application when its rollout is done: only the new deployment is left. -/
def finish (app : ApplicationSpec) (dest : DeploymentSpec) : ApplicationSpec :=
  { app with
    deployments := [{ dest with
      processes := fullUnits app.canary.target dest.processes
      weight := fullWeight }]
    canary := { app.canary with
      active := false
      currentStep := app.canary.steps
      nextScheduledTime := none } }

/-- The outcome of a tick. -/
structure Tick where
  app : ApplicationSpec
  advanced : Bool
  phase : CanaryPhase
  events : List CanaryEvent
deriving DecidableEq, Repr

/-- Makes a step that is due. -/
def advance (app : ApplicationSpec) (pair : Pair) (rest : List DeploymentSpec) (due : Moment) :
    Logged (Except CanaryProblem Tick) := do
  let started ←
    if app.canary.currentStep = 0 then
      (fun e => [e]) <$> (CanaryEvent.of app .started []).emit
    else pure []
  match due.inUtc.add? app.canary.stepInterval with
  | none => return .error .overflow
  | some next =>
    let canary := { app.canary with
      currentStep := app.canary.currentStep + 1
      nextScheduledTime := some next }
    let pair := pair.shift canary.stepWeight
    let app := { app with canary, deployments := pair.source :: pair.dest :: rest }
    let step ← (CanaryEvent.ofStep app pair.source pair.dest).emit
    match ← scale app pair with
    | .error problem => return .error problem
    | .ok (pair, changes) =>
      let app := { app with deployments := pair.source :: pair.dest :: rest }
      let events := started ++ step :: changes
      if isLast canary pair.dest then
        let app := finish app pair.dest
        let finished ← (CanaryEvent.of app .finished []).emit
        return .ok ⟨app, true, app.canary.phase, events ++ [finished]⟩
      else return .ok ⟨app, true, app.canary.phase, events⟩

/-- Makes the next step if it is due at a reading of the clock. -/
def tick (app : ApplicationSpec) (now : Moment) : Logged (Except CanaryProblem Tick) :=
  if !app.canary.active then do
    let event ← (CanaryEvent.of app .notActive []).emit
    return .ok ⟨app, false, app.canary.phase, [event]⟩
  else
    match app.deployments, app.canary.nextScheduledTime with
    | source :: dest :: rest, some due =>
      if now.inUtc.instant < due.inUtc.instant then return .ok ⟨app, false, .stepping, []⟩
      else advance app ⟨source, dest⟩ rest due
    | _ :: _ :: _, none => return .error (.notScheduled app.name)
    | _, _ => return .error (.tooFewDeployments app.name)

/-- Sends all traffic back to the old deployment and ends the rollout. -/
def rollback (app : ApplicationSpec) : Logged (Except CanaryProblem ApplicationSpec) :=
  if app.deployments.length < 2 then return .error (.nothingToRollBack app.name)
  else do
    let app := { app with
      deployments := resetWeights app.deployments
      canary := { app.canary with active := false, currentStep := 0, nextScheduledTime := none } }
    let _ ← (CanaryEvent.of app .rolledBack []).emit
    return .ok app

/-- Forgets a rollout that is not stepping, so that another can start. -/
def reset (app : ApplicationSpec) : Except CanaryProblem ApplicationSpec :=
  if app.canary.phase = .stepping then .error (.stillStepping app.name)
  else .ok { app with canary := .none }

end Canary

end Chartwright
