import Mathlib.Tactic.Lemma
import Chartwright.Proofs.Log.Value
import Chartwright.Proofs.Outcome
import Chartwright.Rollout.Canary

/-!
# Inversion of operations on rollouts

What each operation on a rollout does when it succeeds. A tick is the only one with more than one
way to go: `Ticks` has one constructor for each, and `tick_ok_iff` says that these are all. What
holds along a run of operations is proved from these statements alone.
-/

namespace Chartwright

/-- An explicit offset does not change the instant. -/
@[simp]
lemma Moment.instant_inUtc (m : Moment) : m.inUtc.instant = m.instant := by
  simp [Moment.instant, Moment.inUtc]

/-- A moment later by a duration shows the sum, and lies in the years that there are. -/
lemma Moment.add?_eq_some {m m' : Moment} {d} :
    m.add? d = some m' ↔
      (0 ≤ m.wall + d.microseconds ∧ m.wall + d.microseconds < Moment.wallLimit) ∧
        m' = { m with wall := m.wall + d.microseconds } := by
  simp only [Moment.add?]
  split
  case isTrue h => simp [h, eq_comm]
  case isFalse h => simp [h]

/-- A moment later by a duration is an instant later by it. -/
lemma Moment.instant_of_add? {m m' : Moment} {d} (e : m.add? d = some m') :
    m'.instant = m.instant + d.microseconds := by
  obtain ⟨_, rfl⟩ := Moment.add?_eq_some.1 e
  simp only [Moment.instant]
  omega

namespace Canary

/-- Emitting an event gives the event. -/
lemma gives_emit (e : CanaryEvent) : e.emit.Gives e :=
  (Logged.gives_write e.record).bind (Logged.gives_pure e)

/-! ## Sharing out units -/

/-- How the units of some processes are split where the old deployment has a weight. -/
def splits? (weight : Int) (targets : List (String × Int)) : Option (List (String × Int × Int)) :=
  targets.mapM fun (name, units) => (splitUnits? weight units).map (name, ·)

/-- A pair of deployments with splits put in force, one after the other. -/
def Pair.setAll (p : Pair) (splits : List (String × Int × Int)) : Pair :=
  splits.foldl (fun p s => p.setUnits s.1 s.2) p

/-- A pair of deployments with the units of a step, and the splits that were made. -/
def Pair.scaled? (p : Pair) (target : Dict String Int) :
    Option (Pair × List (String × Int × Int)) :=
  if target = [] then some (p, [])
  else (splits? p.source.weight (sortedTarget target)).map fun splits =>
    let q := p.setAll splits
    ({ q with dest := { q.dest with processes := singleUnits target q.dest.processes } }, splits)

/-- The outcome of sharing out units, with an event for each split. -/
def scaling (app : ApplicationSpec) :
    Option (Pair × List (String × Int × Int)) → Except CanaryProblem (Pair × List CanaryEvent)
  | none => .error .overflow
  | some (pair, splits) => .ok (pair, splits.map fun s => .ofUnits app s.1 s.2.1 s.2.2)

/-- Splits of one more process. -/
lemma splits?_cons (weight : Int) (name : String) (units : Int) (rest) :
    splits? weight ((name, units) :: rest) =
      (splitUnits? weight units).bind fun s => (splits? weight rest).map ((name, s) :: ·) := by
  have e : splits? weight ((name, units) :: rest) =
      ((splitUnits? weight units).map (name, ·)).bind fun s =>
        (splits? weight rest).bind fun ss => some (s :: ss) := List.mapM_cons
  rw [e]
  cases splitUnits? weight units with
  | none => rfl
  | some s =>
    cases splits? weight rest with
    | none => rfl
    | some ss => rfl

/-- Setting the units of a process leaves the weight of the old deployment as it is. -/
@[simp]
lemma Pair.setUnits_source_weight (p : Pair) (name units) :
    (p.setUnits name units).source.weight = p.source.weight := rfl

/-- Sharing out units process by process. -/
lemma scaleTargets_gives (app : ApplicationSpec) (pair : Pair) (targets) :
    (scaleTargets app pair targets).Gives
      (scaling app ((splits? pair.source.weight targets).map fun ss => (pair.setAll ss, ss))) := by
  -- each split goes by the weight of the old deployment, which no split changes
  induction targets generalizing pair with
  | nil => exact Logged.gives_pure _
  | cons t rest ih =>
    obtain ⟨name, units⟩ := t
    rw [splits?_cons, scaleTargets]
    cases hs : splitUnits? pair.source.weight units with
    | none => exact Logged.gives_pure _
    | some split =>
      apply (Logged.gives_writeAll _).bind
      apply (gives_emit _).bind
      apply (ih (pair.setUnits name split)).bind
      cases hr : splits? pair.source.weight rest with
      | none => simpa [hr, scaling] using Logged.gives_pure _
      | some ss => simpa [hr, scaling, Pair.setAll] using Logged.gives_pure _

/-- Sharing out the units of a step. -/
lemma scale_gives (app : ApplicationSpec) (pair : Pair) :
    (scale app pair).Gives (scaling app (pair.scaled? app.canary.target)) := by
  unfold scale Pair.scaled?
  split
  case isTrue => exact Logged.gives_pure _
  case isFalse =>
    apply (scaleTargets_gives app pair _).bind
    cases splits? pair.source.weight (sortedTarget app.canary.target) with
    | none => exact Logged.gives_pure _
    | some ss => exact Logged.gives_pure _

/-! ## Ticks -/

/-- An application whose rollout is one step further, with the deployments of the step in front. -/
def stepped (app : ApplicationSpec) (pair : Pair) (rest : List DeploymentSpec) (next : Moment) :
    ApplicationSpec :=
  { app with
    deployments := pair.source :: pair.dest :: rest
    canary := { app.canary with
      currentStep := app.canary.currentStep + 1
      nextScheduledTime := some next } }

/-- An application behind a step, which may have been the last. -/
def settle (app : ApplicationSpec) (dest : DeploymentSpec) : ApplicationSpec :=
  if isLast app.canary dest then finish app dest else app

/-- A step is the last where no further ones are left, or the new deployment has all the traffic. -/
lemma isLast_iff {c : CanarySpec} {dest : DeploymentSpec} :
    isLast c dest = true ↔ c.steps ≤ c.currentStep ∨ fullWeight ≤ dest.weight := by
  simp [isLast]

/-- The event at the first step. -/
def startEvents (app : ApplicationSpec) : List CanaryEvent :=
  if app.canary.currentStep = 0 then [.of app .started []] else []

/-- The events of a step up to its end. -/
def stepEvents (app : ApplicationSpec) (pair : Pair) (splits : List (String × Int × Int)) :
    List CanaryEvent :=
  .ofStep app pair.source pair.dest :: splits.map fun s => .ofUnits app s.1 s.2.1 s.2.2

/-- The event at the last step. -/
def endEvents (app : ApplicationSpec) (dest : DeploymentSpec) : List CanaryEvent :=
  if isLast app.canary dest then [.of (finish app dest) .finished []] else []

/-- The outcome of a step: the deployments as they are with the weights moved, and then with the
units shared out. -/
def stepTick (app : ApplicationSpec) (moved scaled : Pair) (rest : List DeploymentSpec)
    (next : Moment) (splits : List (String × Int × Int)) : Tick where
  app := settle (stepped app scaled rest next) scaled.dest
  advanced := true
  phase := (settle (stepped app scaled rest next) scaled.dest).canary.phase
  events := startEvents app ++ stepEvents (stepped app moved rest next) moved splits ++
    endEvents (stepped app scaled rest next) scaled.dest

/-- What a tick at a reading of the clock comes to. -/
inductive Ticks (app : ApplicationSpec) (now : Moment) : Tick → Prop where
  | idle :
    app.canary.active = false →
    Ticks app now ⟨app, false, app.canary.phase, [.of app .notActive []]⟩
  | early {source dest rest due} :
    app.canary.active = true →
    app.deployments = source :: dest :: rest →
    app.canary.nextScheduledTime = some due →
    now.instant < due.instant →
    Ticks app now ⟨app, false, .stepping, []⟩
  | step {source dest rest due next pair splits} :
    app.canary.active = true →
    app.deployments = source :: dest :: rest →
    app.canary.nextScheduledTime = some due →
    due.instant ≤ now.instant →
    due.inUtc.add? app.canary.stepInterval = some next →
    (Pair.shift ⟨source, dest⟩ app.canary.stepWeight).scaled? app.canary.target =
      some (pair, splits) →
    Ticks app now
      (stepTick app (Pair.shift ⟨source, dest⟩ app.canary.stepWeight) pair rest next splits)

/-- The event at the first step is recorded. -/
lemma startEvents_gives (app : ApplicationSpec) :
    (if app.canary.currentStep = 0 then
        (fun e => [e]) <$> (CanaryEvent.of app .started []).emit
      else Pure.pure []).Gives (startEvents app) := by
  unfold startEvents
  split
  case isTrue => exact (gives_emit _).map _
  case isFalse => exact Logged.gives_pure _

/-- A step fails behind the last year and where units are too large, and nowhere else. -/
lemma advance_gives (app : ApplicationSpec) (pair : Pair) (rest) (due : Moment) :
    (advance app pair rest due).Gives
      (match due.inUtc.add? app.canary.stepInterval,
          (pair.shift app.canary.stepWeight).scaled? app.canary.target with
        | some next, some (scaled, splits) =>
          .ok (stepTick app (pair.shift app.canary.stepWeight) scaled rest next splits)
        | _, _ => .error .overflow) := by
  unfold advance
  -- the event at the first step is recorded before anything can fail
  apply Logged.Gives.ite_bind (startEvents_gives app)
  cases due.inUtc.add? app.canary.stepInterval with
  | none => exact Logged.gives_pure _
  | some next =>
    apply (gives_emit _).bind
    apply (scale_gives _ _).bind
    cases hs : (pair.shift app.canary.stepWeight).scaled? app.canary.target with
    | none => simpa [hs, scaling] using Logged.gives_pure _
    | some s =>
      obtain ⟨scaled, splits⟩ := s
      simp only [scaling]
      split
      case isTrue hl =>
        apply (gives_emit _).bind
        simpa [stepTick, settle, endEvents, stepped, stepEvents, hl] using Logged.gives_pure _
      case isFalse hl =>
        simpa [stepTick, settle, endEvents, stepped, stepEvents, hl] using Logged.gives_pure _

/-- A tick of a rollout that is not active. -/
lemma tick_of_not_active {app : ApplicationSpec} (now : Moment) (h : app.canary.active = false) :
    (tick app now).value = .ok ⟨app, false, app.canary.phase, [.of app .notActive []]⟩ := by
  have hg : (tick app now).Gives (.ok ⟨app, false, app.canary.phase, [.of app .notActive []]⟩) := by
    unfold tick
    rw [h]
    exact (gives_emit _).bind (Logged.gives_pure _)
  exact hg.value_eq

/-- A tick of an active rollout with a scheduled step. -/
lemma tick_of_scheduled {app : ApplicationSpec} {source dest rest due} (now : Moment)
    (ha : app.canary.active = true) (hd : app.deployments = source :: dest :: rest)
    (hs : app.canary.nextScheduledTime = some due) :
    (tick app now).value =
      if now.instant < due.instant then .ok ⟨app, false, .stepping, []⟩
      else (advance app ⟨source, dest⟩ rest due).value := by
  unfold tick
  simp only [ha, hd, hs, Moment.instant_inUtc, Bool.not_true, Bool.false_eq_true, if_false]
  by_cases he : now.instant < due.instant
  · rw [if_pos he, if_pos he, Logged.value_pure]
  · rw [if_neg he, if_neg he]

/-- A tick of an active rollout without a scheduled step. -/
lemma tick_of_unscheduled {app : ApplicationSpec} {source dest rest} (now : Moment)
    (ha : app.canary.active = true) (hd : app.deployments = source :: dest :: rest)
    (hs : app.canary.nextScheduledTime = none) :
    (tick app now).value = .error (.notScheduled app.name) := by
  simp [tick, ha, hd, hs]

/-- A tick of an active rollout that has not two deployments. -/
lemma tick_of_few {app : ApplicationSpec} (now : Moment)
    (ha : app.canary.active = true) (hd : app.deployments.length < 2) :
    (tick app now).value = .error (.tooFewDeployments app.name) := by
  match h : app.deployments with
  | [] => simp [tick, ha, h]
  | [_] => simp [tick, ha, h]
  | _ :: _ :: _ => simp only [h, List.length_cons] at hd; omega

/-- A tick succeeds in the ways that are listed, and in no other. -/
theorem tick_ok_iff {app : ApplicationSpec} {now : Moment} {t} :
    (tick app now).value = .ok t ↔ Ticks app now t := by
  constructor
  · intro h
    cases ha : app.canary.active with
    | false =>
      rw [tick_of_not_active now ha] at h
      cases h
      exact .idle ha
    | true =>
      match hd : app.deployments, hs : app.canary.nextScheduledTime with
      | [], _ => rw [tick_of_few now ha (by simp [hd])] at h; cases h
      | [_], _ => rw [tick_of_few now ha (by simp [hd])] at h; cases h
      | _ :: _ :: _, none => rw [tick_of_unscheduled now ha hd hs] at h; cases h
      | source :: dest :: rest, some due =>
        rw [tick_of_scheduled now ha hd hs] at h
        split at h
        case isTrue he =>
          cases h
          exact .early ha hd hs he
        case isFalse he =>
          rw [(advance_gives app ⟨source, dest⟩ rest due).value_eq] at h
          split at h
          next hn hp =>
            cases h
            exact .step ha hd hs (by omega) hn hp
          next => cases h
  · intro h
    cases h with
    | idle ha => exact tick_of_not_active now ha
    | early ha hd hs he => rw [tick_of_scheduled now ha hd hs, if_pos he]
    | @step source dest rest due _ _ _ ha hd hs hdue hn hp =>
      have hv := (advance_gives app ⟨source, dest⟩ rest due).value_eq
      rw [tick_of_scheduled now ha hd hs, if_neg (by omega), hv, hn, hp]

/-! ## The other operations -/

/-- What an application and an activation have to be like for a rollout to start. -/
structure Activation.Admissible (app : ApplicationSpec) (a : Activation) : Prop where
  inactive : app.canary.phase = .inactive
  two : app.deployments.length = 2
  least : minimumSteps ≤ a.steps
  most : a.steps ≤ maximumSteps
  positive : 0 < a.interval.microseconds
  weight_pos : 0 < a.effectiveWeight
  weight_le : a.effectiveWeight ≤ fullWeight

/-- The application with a rollout that has just started. -/
def begun (app : ApplicationSpec) (now due : Moment) (a : Activation) : ApplicationSpec :=
  { app with
    deployments := resetWeights app.deployments
    canary := {
      steps := a.steps
      stepWeight := a.effectiveWeight
      stepInterval := a.interval
      nextScheduledTime := some due
      currentStep := 0
      active := true
      started := some now.inUtc
      target := a.target } }

/-- An activation is checked for being admissible. -/
lemma checkActivation_ok_iff {app : ApplicationSpec} {a : Activation} :
    checkActivation app a = .ok () ↔ a.Admissible app := by
  unfold checkActivation
  simp only [Outcome.guard_bind_ok_iff, Outcome.guard_ok_iff]
  constructor
  · rintro ⟨h1, h2, h3, h4, h5, -⟩
    exact ⟨by simpa using h1, by simpa using h2, by omega, by omega, by omega, by omega, by omega⟩
  · rintro ⟨h1, h2, h3, h4, h5, h6, h7⟩
    exact ⟨by simp [h1], by simp [h2], by omega, by omega, by omega, rfl⟩

/-- A rollout starts where the activation is admissible and the first step is due in time. -/
lemma start_ok_iff {app : ApplicationSpec} {now : Moment} {a : Activation} {app'} :
    start app now a = .ok app' ↔
      a.Admissible app ∧
        ∃ due, now.inUtc.add? a.interval = some due ∧ app' = begun app now due a := by
  rw [← checkActivation_ok_iff]
  unfold start
  cases checkActivation app a with
  | error p => simp [bind, Except.bind]
  | ok u =>
    cases h : now.inUtc.add? a.interval with
    | none => simp [bind, Except.bind, h, throw, throwThe, MonadExceptOf.throw]
    | some due => simp [bind, Except.bind, h, begun, pure, Except.pure, eq_comm]

/-- Starting a rollout and recording it. -/
lemma activate_gives (app : ApplicationSpec) (now : Moment) (a : Activation) :
    (activate app now a).Gives (start app now a) := by
  unfold activate
  cases start app now a with
  | error p => exact Logged.gives_pure _
  | ok app' => exact (Logged.gives_write _).bind (Logged.gives_pure _)

/-- The target that a document stands for; what is empty stands for none. -/
def readTarget (target : Document) : Except (List Schema.Issue) (Dict String Int) :=
  (Schema.Shape.table (.integer [])).decode (if target.isEmpty then .mapping [] else target)

/-- A rollout with a target in a document starts where the target can be read and the rollout
starts with it. -/
lemma activateReading_ok_iff {app : ApplicationSpec} {now : Moment} {a : Activation}
    {target : Document} {app'} :
    (activateReading app now a target).value = .ok app' ↔
      ∃ units, readTarget target = .ok units ∧
        start app now { a with target := units } = .ok app' := by
  unfold activateReading readTarget
  simp only
  cases (Schema.Shape.table (.integer [])).decode
      (if target.isEmpty then .mapping [] else target) with
  | ok units => simp [(activate_gives app now { a with target := units }).value_eq]
  | error issues =>
    cases start app now { a with target := [] } with
    | error p => simp
    | ok app => simp

/-- The application behind a rollback. -/
def rolledBack (app : ApplicationSpec) : ApplicationSpec :=
  { app with
    deployments := resetWeights app.deployments
    canary := { app.canary with active := false, currentStep := 0, nextScheduledTime := none } }

/-- Rolling back needs two deployments, and nothing else. -/
lemma rollback_gives (app : ApplicationSpec) :
    (rollback app).Gives
      (if app.deployments.length < 2 then .error (.nothingToRollBack app.name)
        else .ok (rolledBack app)) := by
  unfold rollback
  split
  · exact Logged.gives_pure _
  · exact (gives_emit _).bind (Logged.gives_pure _)

/-- A rollback succeeds where there are two deployments. -/
lemma rollback_ok_iff {app app' : ApplicationSpec} :
    (rollback app).value = .ok app' ↔ 2 ≤ app.deployments.length ∧ app' = rolledBack app := by
  rw [(rollback_gives app).value_eq]
  split
  case isTrue h =>
    simp only [reduceCtorEq, false_iff, not_and]
    omega
  case isFalse h =>
    have h2 : 2 ≤ app.deployments.length := Nat.le_of_not_lt h
    simp [h2, eq_comm]

/-- A rollout that is not stepping can be forgotten. -/
lemma reset_ok_iff {app app' : ApplicationSpec} :
    reset app = .ok app' ↔ app.canary.phase ≠ .stepping ∧ app' = { app with canary := .none } := by
  unfold reset
  split
  case isTrue h => simp [h]
  case isFalse h => simp [h, eq_comm]

end Canary

end Chartwright
