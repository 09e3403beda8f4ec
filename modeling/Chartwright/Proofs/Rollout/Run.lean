import Chartwright.Proofs.Rollout.Inversion

/-!
# Runs of operations on rollouts

An operation that fails leaves the application as it was, so a run is a fold over operations. What
every successful operation preserves, a run preserves. Runs of ticks are those of a driver that does
nothing but poll, at any readings of the clock; `poll` keeps the outcome of each tick as well.
-/

namespace Chartwright

/-- A rollout is stepping where it is active. -/
lemma CanarySpec.phase_eq_stepping_iff {c : CanarySpec} :
    c.phase = .stepping ↔ c.active = true := by
  unfold CanarySpec.phase
  split
  case isTrue h => simp [h]
  case isFalse h => split <;> simp [h]

/-- A rollout is complete where it is not active and all steps are made. -/
lemma CanarySpec.phase_eq_complete_iff {c : CanarySpec} :
    c.phase = .complete ↔ c.active = false ∧ 0 < c.steps ∧ c.steps ≤ c.currentStep := by
  unfold CanarySpec.phase
  split
  case isTrue h => simp [h]
  case isFalse h => split <;> simp_all

/-- A rollout is inactive where it is not active and a step is left, or there is none at all. -/
lemma CanarySpec.phase_eq_inactive_iff {c : CanarySpec} :
    c.phase = .inactive ↔ c.active = false ∧ ¬ (0 < c.steps ∧ c.steps ≤ c.currentStep) := by
  unfold CanarySpec.phase
  split
  case isTrue h => simp [h]
  case isFalse h => split <;> simp_all

namespace Canary

/-- The operations on a rollout, with all that they are given. The target of an activation is a
document, which may be no mapping to integers. -/
inductive Operation where
  | activate (now : Moment) (a : Activation) (target : Document)
  | tick (now : Moment)
  | rollback
  | reset

/-- The application behind an operation, if it succeeds. -/
def Operation.perform (app : ApplicationSpec) : Operation → Except CanaryProblem ApplicationSpec
  | .activate now a target => (activateReading app now a target).value
  | .tick now => (Canary.tick app now).value.map (·.app)
  | .rollback => (Canary.rollback app).value
  | .reset => Canary.reset app

/-- The application behind an operation; one that fails changes nothing. -/
def Operation.apply (app : ApplicationSpec) (op : Operation) : ApplicationSpec :=
  match op.perform app with
  | .ok app' => app'
  | .error _ => app

/-- The application behind a sequence of operations. -/
def run (app : ApplicationSpec) (ops : List Operation) : ApplicationSpec :=
  ops.foldl Operation.apply app

/-- One sequence of operations behind another. -/
lemma run_append (app : ApplicationSpec) (before after : List Operation) :
    run app (before ++ after) = run (run app before) after :=
  List.foldl_append

/-- A sequence of operations behind one that succeeds. -/
lemma run_cons_of_ok {app app' : ApplicationSpec} {op : Operation}
    (h : op.perform app = .ok app') (ops : List Operation) :
    run app (op :: ops) = run app' ops := by
  simp only [run, List.foldl_cons, Operation.apply, h]

/-- An activation that succeeds starts an admissible rollout with the target that was read. -/
lemma Operation.activate_inv {app app' : ApplicationSpec} {now a target}
    (h : (Operation.activate now a target).perform app = .ok app') :
    ∃ units due, Activation.Admissible app { a with target := units } ∧
      now.inUtc.add? a.interval = some due ∧
      app' = begun app now due { a with target := units } := by
  obtain ⟨units, _, hs⟩ := activateReading_ok_iff.1 h
  obtain ⟨adm, due, hd, e⟩ := start_ok_iff.1 hs
  exact ⟨units, due, adm, hd, e⟩

/-- A tick that succeeds has one of the outcomes of ticks. -/
lemma Operation.tick_inv {app app' : ApplicationSpec} {now}
    (h : (Operation.tick now).perform app = .ok app') : ∃ t, Ticks app now t ∧ t.app = app' := by
  simp only [Operation.perform] at h
  cases ht : (Canary.tick app now).value with
  | error p => simp [ht, Except.map] at h
  | ok t =>
    rw [ht] at h
    cases h
    exact ⟨t, tick_ok_iff.1 ht, rfl⟩

/-- A rollout that is rolled back is inactive. -/
lemma rolledBack_phase {app : ApplicationSpec} : (rolledBack app).canary.phase = .inactive := by
  apply CanarySpec.phase_eq_inactive_iff.2
  refine ⟨rfl, ?_⟩
  simp only [rolledBack]
  omega

/-- A rollout that is finished is complete if it has steps. -/
lemma finish_phase {app : ApplicationSpec} (dest : DeploymentSpec) :
    (finish app dest).canary.phase = if 0 < app.canary.steps then .complete else .inactive := by
  simp [finish, CanarySpec.phase]

/-- What an operation that succeeds comes to. -/
inductive Performs (app : ApplicationSpec) : Operation → ApplicationSpec → Prop where
  | begun {now a target units due} :
    readTarget target = .ok units →
    Activation.Admissible app { a with target := units } →
    now.inUtc.add? a.interval = some due →
    Performs app (.activate now a target) (begun app now due { a with target := units })
  | ticked {now t} :
    Ticks app now t →
    Performs app (.tick now) t.app
  | rolledBack :
    2 ≤ app.deployments.length →
    Performs app .rollback (rolledBack app)
  | reset :
    app.canary.phase ≠ .stepping →
    Performs app .reset { app with canary := .none }

/-- An operation that succeeds comes to one of its outcomes. -/
lemma Operation.performs {app app' : ApplicationSpec} {op : Operation}
    (performed : op.perform app = .ok app') : Performs app op app' := by
  cases op with
  | activate now a target =>
    obtain ⟨units, read, started⟩ := activateReading_ok_iff.1 performed
    obtain ⟨adm, due, hd, rfl⟩ := start_ok_iff.1 started
    exact .begun read adm hd
  | tick now =>
    obtain ⟨t, tk, rfl⟩ := Operation.tick_inv performed
    exact .ticked tk
  | rollback =>
    obtain ⟨h2, rfl⟩ := rollback_ok_iff.1 performed
    exact .rolledBack h2
  | reset =>
    obtain ⟨hp, rfl⟩ := reset_ok_iff.1 performed
    exact .reset hp

/-- What every successful operation of a kind preserves, a run of such operations preserves. -/
lemma run_preserves_of {P : ApplicationSpec → Prop} {K : Operation → Prop}
    (hstep : ∀ {app app'} (op : Operation), K op → P app → op.perform app = .ok app' → P app')
    (ops : List Operation) (hk : ∀ op ∈ ops, K op) {app} (h : P app) : P (run app ops) := by
  induction ops generalizing app with
  | nil => exact h
  | cons op ops ih =>
    obtain ⟨hop, hops⟩ := List.forall_mem_cons.1 hk
    apply ih hops
    unfold Operation.apply
    cases ho : op.perform app with
    -- an operation that fails leaves the application as it is
    | error p => exact h
    | ok app' => exact hstep op hop h ho

/-- What every successful operation preserves, a run preserves. -/
lemma run_preserves {P : ApplicationSpec → Prop}
    (hstep : ∀ {app app'} (op : Operation), P app → op.perform app = .ok app' → P app')
    (ops : List Operation) {app} (h : P app) : P (run app ops) :=
  run_preserves_of (fun op (_ : True) => hstep op) ops (fun _ _ => trivial) h

/-! ## Runs of ticks -/

/-- The application behind the outcome of a tick; one that fails changes nothing. -/
def behind (app : ApplicationSpec) : Except CanaryProblem Tick → ApplicationSpec
  | .ok t => t.app
  | .error _ => app

/-- The outcomes of ticks at readings of the clock, one after the other. -/
def poll (app : ApplicationSpec) : List Moment → List (Except CanaryProblem Tick)
  | [] => []
  | now :: readings =>
    (Canary.tick app now).value :: poll (behind app (Canary.tick app now).value) readings

/-- The application behind ticks at readings of the clock. -/
def polled (app : ApplicationSpec) (readings : List Moment) : ApplicationSpec :=
  run app (readings.map .tick)

/-- Whether a tick made a step. -/
def madeStep : Except CanaryProblem Tick → Bool
  | .ok t => t.advanced
  | .error _ => false

/-- How many ticks at readings of the clock make a step. -/
def stepsMade (app : ApplicationSpec) (readings : List Moment) : Nat :=
  (poll app readings).countP madeStep

lemma polled_cons (app : ApplicationSpec) (now : Moment) (readings : List Moment) :
    polled app (now :: readings) = polled (behind app (Canary.tick app now).value) readings := by
  have same : Operation.apply app (.tick now) = behind app (Canary.tick app now).value := by
    simp only [Operation.apply, Operation.perform]
    cases (Canary.tick app now).value with
    | error p => rfl
    | ok t => rfl
  rw [polled, List.map_cons, run, List.foldl_cons, same]
  rfl

lemma stepsMade_cons (app : ApplicationSpec) (now : Moment) (readings : List Moment) :
    stepsMade app (now :: readings) =
      (if madeStep (Canary.tick app now).value then 1 else 0) +
        stepsMade (behind app (Canary.tick app now).value) readings := by
  rw [stepsMade, poll, List.countP_cons, Nat.add_comm]
  rfl

lemma stepsMade_concat (app : ApplicationSpec) (readings : List Moment) (now : Moment) :
    stepsMade app (readings ++ [now]) =
      stepsMade app readings +
        if madeStep (Canary.tick (polled app readings) now).value then 1 else 0 := by
  induction readings generalizing app with
  | nil => rw [List.nil_append, stepsMade_cons, Nat.add_comm]; rfl
  | cons first readings ih =>
    rw [List.cons_append, stepsMade_cons, stepsMade_cons, polled_cons, ih, Nat.add_assoc]

/-- What every tick that succeeds preserves, by the number of steps that were made, ticks at any
readings preserve. -/
lemma polled_preserves {P : Nat → ApplicationSpec → Prop}
    (hstep : ∀ {k app now t}, P k app → Ticks app now t →
      P (k + if t.advanced then 1 else 0) t.app)
    (readings : List Moment) {k app} (h : P k app) :
    P (k + stepsMade app readings) (polled app readings) := by
  induction readings generalizing k app with
  | nil => exact h
  | cons now readings ih =>
    have next : P (k + if madeStep (Canary.tick app now).value then 1 else 0)
        (behind app (Canary.tick app now).value) := by
      cases ht : (Canary.tick app now).value with
      | error p => exact h
      | ok t => exact hstep h (tick_ok_iff.1 ht)
    rw [polled_cons, stepsMade_cons, ← Nat.add_assoc]
    exact ih next

/-! ## A shop -/

/-- A deployment of the shop with some processes. -/
def shopDeployment (version : Int) (processes : List String) : DeploymentSpec where
  image := "shop"
  version
  processes := processes.map fun name => ⟨name, [], none, [], none, [], [], none⟩
  manifest := none
  labels := []
  weight := 0
  exposedPorts := []
  imagePullSecrets := []

/-- A shop whose second deployment has a process more than the first. -/
def shop : ApplicationSpec where
  name := "shop"
  id := ""
  version := none
  description := ""
  deployments := [shopDeployment 1 ["web"], shopDeployment 2 ["web", "worker"]]
  env := []
  ingress := ⟨false, []⟩
  registrySecret := ""
  labels := []
  annotations := []
  serviceAccount := ""
  canary := .none

/-- The clock of the shop, in minutes, without an offset. -/
def shopClock (minutes : Int) : Moment := ⟨minutes * 60000000, none⟩

/-- Four steps of 30 percent, one in a minute: the last of them overshoots. -/
def shopActivation : Activation := ⟨4, ⟨60000000⟩, some 30, []⟩

/-- The shop with a rollout that was not started by an activation: each step moves half of the
traffic, and the next one is due at the start of the clock. -/
def shopMidway (steps currentStep : Int) (target : Dict String Int) : ApplicationSpec :=
  { shop with
    canary := {
      steps
      stepWeight := 50
      stepInterval := ⟨60000000⟩
      nextScheduledTime := some (shopClock 0)
      currentStep
      active := true
      started := none
      target } }

/-- Four units of the process that both deployments of the shop have. -/
def shopTarget : Document := .object [("web", .int 4)]

end Canary

end Chartwright
