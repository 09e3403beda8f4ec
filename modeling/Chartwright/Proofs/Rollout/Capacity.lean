import Chartwright.Proofs.Rollout.Assignment
import Chartwright.Proofs.Rollout.Events

/-!
# Capacity during a rollout

While a rollout is stepping, both deployments together have all units of each process of its target,
and never more than one in addition: the one that the old deployment is left with at least. Units
move to the new deployment and never back. `Supplied` is the invariant of a rollout that has not
ended; it adds the units of the processes to what `Midway` says of the traffic.
-/

namespace Chartwright.Canary

/-- Every process of a target that a deployment has is given its share of the units. -/
def HasShares (target : Dict String Int) (share : Int → Int) (d : DeploymentSpec) : Prop :=
  ∀ name units, Dict.get? target name = some units → hasProcess d name = true →
    unitsOf? d.processes name = some (share units)

/-- What the old deployment has after some steps of the units of a process. -/
def Activation.oldUnits (a : Activation) (k : Nat) (units : Int) : Int :=
  max 1 (keptUnits (a.sourceWeight k) units)

/-- What the new deployment has after some steps of the units of a process. -/
def Activation.newUnits (a : Activation) (k : Nat) (units : Int) : Int :=
  units - keptUnits (a.sourceWeight k) units

/-- The units of a process in the old and the new deployment, by the number of steps: together they
are all units, or one more where the old deployment has its last one. -/
structure KeepsCapacity (units : Int) (old new : Nat → Int) : Prop where
  old_pos : ∀ k, 1 ≤ old k
  new_nonneg : ∀ k, 0 ≤ new k
  new_le : ∀ k, new k ≤ units
  total : ∀ k, old k + new k = units ∨ old k + new k = units + 1 ∧ old k = 1
  old_antitone : ∀ {j k}, j ≤ k → old k ≤ old j
  new_monotone : ∀ {j k}, j ≤ k → new j ≤ new k

/-- The deployments of a rollout after some steps, against those that it was started with. -/
structure MidCapacity (a : Activation) (old new : DeploymentSpec) (k : Nat) (pair : Pair) :
    Prop where
  source_revision : pair.source.revision = old.revision
  dest_revision : pair.dest.revision = new.revision
  unchanged : k = 0 ∨ a.target = [] →
    pair.source.processes = old.processes ∧ pair.dest.processes = new.processes
  source_shares : 0 < k → HasShares a.target (a.oldUnits k) pair.source
  dest_shares : 0 < k → HasShares a.target (a.newUnits k) pair.dest
  source_outside : outside a.target pair.source.processes = outside a.target old.processes
  dest_outside : 0 < k → a.target ≠ [] →
    ∀ p ∈ outside a.target pair.dest.processes, p.units = some 1

/-- The deployment that is left of a rollout, against the new one that it was started with. -/
structure EndCapacity (target : Dict String Int) (new dest : DeploymentSpec) : Prop where
  revision : dest.revision = new.revision
  unchanged : target = [] → dest.processes = new.processes
  shares : HasShares target id dest
  outside : target ≠ [] → ∀ p ∈ outside target dest.processes, p.units = some 1

/-- The capacity of an application whose rollout has made some steps. -/
inductive Capacity (a : Activation) (old new : DeploymentSpec) (k : Nat) (app : ApplicationSpec) :
    Prop where
  | stepping {pair : Pair} :
    app.canary.phase = .stepping →
    app.deployments = [pair.source, pair.dest] →
    MidCapacity a old new k pair →
    Capacity a old new k app
  | complete {dest : DeploymentSpec} :
    app.canary.phase = .complete →
    app.deployments = [dest] →
    EndCapacity a.target new dest →
    Capacity a old new k app

/-- What a rollout is given whose units can be shared out: every process of its target is there once,
and has units of a size that is shared exactly enough. -/
structure Activation.Shareable (a : Activation) : Prop where
  steps_pos : 0 < a.steps
  distinct : (Dict.keys a.target).Nodup
  countable : Countable a.target

/-- The moment behind the next step of a rollout lies behind the last year. -/
def OutOfYears (app : ApplicationSpec) : Prop :=
  ∃ due ∈ app.canary.nextScheduledTime, due.inUtc.add? app.canary.stepInterval = none

/-! ## Shares of units -/

lemma Activation.sourceWeight_nonneg (a : Activation) (k : Nat) : 0 ≤ a.sourceWeight k :=
  Int.le_max_left _ _

lemma Activation.sourceWeight_antitone {a : Activation} (hw : 0 < a.effectiveWeight) {j k : Nat}
    (h : j ≤ k) : a.sourceWeight k ≤ a.sourceWeight j := by
  have moved : (j : Int) * a.effectiveWeight ≤ k * a.effectiveWeight :=
    Int.mul_le_mul_of_nonneg_right (by exact_mod_cast h) hw.le
  unfold Activation.sourceWeight
  omega

/-- The shares of a process keep its capacity. -/
lemma Activation.keepsCapacity {a : Activation} (hw : 0 < a.effectiveWeight) {units : Int}
    (hu : 0 ≤ units) (small : units < 2 ^ 53) :
    KeepsCapacity units (a.oldUnits · units) (a.newUnits · units) := by
  have nonneg k := keptUnits_nonneg (a.sourceWeight_nonneg k) hu
  have le k := keptUnits_le (a.sourceWeight_nonneg k) hu small
  have antitone {j k} (h : j ≤ k) :
      keptUnits (a.sourceWeight k) units ≤ keptUnits (a.sourceWeight j) units :=
    keptUnits_mono (a.sourceWeight_nonneg k) (sourceWeight_antitone hw h) hu
  simp only [oldUnits, newUnits]
  exact {
    old_pos k := Int.le_max_left _ _
    new_nonneg k := Int.sub_nonneg_of_le (le k)
    new_le k := Int.sub_le_self _ (nonneg k)
    total k := by
      have := nonneg k
      omega
    old_antitone h := max_le_max_left 1 (antitone h)
    new_monotone h := Int.sub_le_sub_left (antitone h) units }

/-! ## One step -/

section

variable {a : Activation} {old new : DeploymentSpec} {k : Nat} {pair q : Pair} {weight : Int}
  {splits : List (String × Int × Int)}

/-- A step gives the processes of the target their shares, and those of the new deployment outside
the target one unit. -/
lemma MidCapacity.step (capacity : MidCapacity a old new k pair) (s : a.Shareable)
    (moved : (pair.shift weight).source.weight = a.sourceWeight (k + 1))
    (hq : (pair.shift weight).scaled? a.target = some (q, splits)) :
    MidCapacity a old new (k + 1) q := by
  obtain ⟨es, ed⟩ := Pair.scaled?_withoutUnits hq
  have source_revision : q.source.revision = old.revision :=
    (DeploymentSpec.revision_of_withoutUnits es).trans capacity.source_revision
  have dest_revision : q.dest.revision = new.revision :=
    (DeploymentSpec.revision_of_withoutUnits ed).trans capacity.dest_revision
  -- without a target a step moves the traffic and nothing else
  by_cases ht : a.target = []
  · rw [Pair.scaled?, if_pos ht] at hq
    cases hq
    have none (name) : Dict.get? a.target name = none := by
      rw [ht]
      rfl
    exact {
      source_revision, dest_revision
      unchanged _ := capacity.unchanged (.inr ht)
      source_shares _ name units h := by simp [none] at h
      dest_shares _ name units h := by simp [none] at h
      source_outside := capacity.source_outside
      dest_outside _ h := absurd ht h }
  · have hw : 0 ≤ (pair.shift weight).source.weight := Int.le_max_left _ _
    obtain ⟨source, dest⟩ := Pair.scaled?_processes hq ht hw s.countable
    rw [moved] at source dest
    refine ⟨source_revision, dest_revision, ?_, ?_, ?_, ?_, ?_⟩
    · rintro (h | h)
      · exact absurd h (Nat.succ_ne_zero k)
      · exact absurd h ht
    · intro _ name units h has
      have has : hasProcess pair.source name = true := by
        rwa [hasProcess_of_revision (source_revision.trans capacity.source_revision.symm)] at has
      rw [source]
      exact unitsOf?_assign_given s.distinct h has (a.oldUnits (k + 1))
    · intro _ name units h has
      have has : hasProcess pair.dest name = true := by
        rwa [hasProcess_of_revision (dest_revision.trans capacity.dest_revision.symm)] at has
      have inside : Dict.contains a.target name = true := by
        rw [Dict.contains, h, Option.isSome_some]
      rw [dest, unitsOf?_singleUnits inside]
      exact unitsOf?_assign_given s.distinct h has (a.newUnits (k + 1))
    · rw [source, outside_assign fun g => contains_of_mem_given]
      exact capacity.source_outside
    · intro _ _ p mem
      rw [dest] at mem
      exact units_of_mem_outside_singleUnits mem

/-- With full units for the target, the new deployment has the capacity of the end. -/
lemma MidCapacity.finish (capacity : MidCapacity a old new (k + 1) pair) (full : Int) :
    EndCapacity a.target new { pair.dest with
      processes := fullUnits a.target pair.dest.processes, weight := full } where
  revision := (revision_full pair.dest a.target full).trans capacity.dest_revision
  unchanged ht := by
    rw [ht, fullUnits_nil]
    exact (capacity.unchanged (.inr ht)).2
  shares name units h has := by
    have same : DeploymentSpec.revision _ = DeploymentSpec.revision _ :=
      revision_full pair.dest a.target full
    exact unitsOf?_fullUnits h (by rwa [hasProcess_of_revision same] at has)
  outside ht := by
    rw [outside_fullUnits]
    exact capacity.dest_outside k.succ_pos ht

end

/-! ## All ticks -/

/-- A rollout that has made some steps, and has not ended, with the units of its processes. -/
structure Supplied (r : Rollout) (old new : DeploymentSpec) (k : Nat) (app : ApplicationSpec)
    (pair : Pair) : Prop where
  midway : Midway r k app pair
  scheduled : app.canary.nextScheduledTime.isSome
  capacity : MidCapacity r.activation old new k pair

/-- A rollout that is under way, or has ended. -/
inductive Place (r : Rollout) (old new : DeploymentSpec) (k : Nat) (app : ApplicationSpec) :
    Prop where
  | underway {pair} : Supplied r old new k app pair → Place r old new k app
  | ended {dest} :
    app.canary.active = false →
    app.canary.phase = .complete →
    app.deployments = [dest] →
    EndCapacity r.activation.target new dest →
    Place r old new k app

section

variable {r : Rollout} {old new : DeploymentSpec} {k : Nat} {app : ApplicationSpec}
  {pair q : Pair} {now next : Moment} {t : Tick} {splits : List (String × Int × Int)}

lemma Place.capacity (place : Place r old new k app) : Capacity r.activation old new k app := by
  cases place with
  | underway u =>
    exact .stepping (CanarySpec.phase_eq_stepping_iff.2 u.midway.active) u.midway.deployments
      u.capacity
  | ended _ complete only capacity => exact .complete complete only capacity

/-- A step leads on, or to the end. -/
lemma Supplied.settle (u : Supplied r old new k app pair) (s : r.activation.Shareable)
    (hq : (pair.shift app.canary.stepWeight).scaled? app.canary.target = some (q, splits)) :
    Place r old new (k + 1) (settle (stepped app q [] next) q.dest) := by
  have moved := u.midway.moved next
  have midway := moved.scaled hq
  rw [u.midway.target] at hq
  have capacity := u.capacity.step s moved.source_weight hq
  unfold Canary.settle
  split
  case isTrue =>
    have stepping : 0 < (stepped app q [] next).canary.steps := by
      rw [midway.steps]
      exact s.steps_pos
    have complete : (finish (stepped app q [] next) q.dest).canary.phase = .complete :=
      CanarySpec.phase_eq_complete_iff.2 ⟨rfl, stepping, Int.le_refl _⟩
    refine .ended rfl complete rfl ?_
    rw [midway.target]
    exact capacity.finish fullWeight
  case isFalse => exact .underway ⟨midway, rfl, capacity⟩

/-- A tick of a rollout leads on by a step if it makes one. -/
lemma Place.tick_ok (place : Place r old new k app) (s : r.activation.Shareable)
    (tk : Ticks app now t) : Place r old new (k + if t.advanced then 1 else 0) t.app := by
  cases place with
  | underway u =>
    cases tk with
    | idle inactive =>
      rw [u.midway.active] at inactive
      cases inactive
    | early => exact .underway u
    | step _ hd _ _ _ hq =>
      cases hd.symm.trans u.midway.deployments
      exact u.settle s hq
  | ended inactive complete only capacity =>
    cases tk with
    | idle => exact .ended inactive complete only capacity
    | early active =>
      rw [inactive] at active
      cases active
    | step active =>
      rw [inactive] at active
      cases active

/-- A tick of a rollout fails only where the years end. -/
lemma Place.tick_error (place : Place r old new k app) (s : r.activation.Shareable)
    {problem : CanaryProblem} (failed : (tick app now).value = .error problem) :
    problem = .overflow ∧ OutOfYears app := by
  cases place with
  | @underway pair u =>
    obtain ⟨due, hs⟩ := Option.isSome_iff_exists.1 u.scheduled
    have hw : 0 ≤ (pair.shift app.canary.stepWeight).source.weight := Int.le_max_left _ _
    obtain ⟨q, splits, hq⟩ := Pair.exists_scaled? hw s.countable
    rw [← u.midway.target] at hq
    rw [tick_of_scheduled now u.midway.active u.midway.deployments hs] at failed
    split at failed
    case isTrue => cases failed
    case isFalse =>
      rw [(advance_gives app pair [] due).value_eq, hq] at failed
      cases hn : due.inUtc.add? app.canary.stepInterval with
      | none =>
        rw [hn] at failed
        cases failed
        exact ⟨rfl, due, hs, hn⟩
      | some next =>
        rw [hn] at failed
        cases failed
  | ended inactive =>
    rw [tick_of_not_active now inactive] at failed
    cases failed

/-- Ticks of a rollout lead on by as many steps as they make. -/
lemma Place.ticks_ok {readings : List Moment} {ts : List Tick} (place : Place r old new k app)
    (s : r.activation.Shareable) (ticked : ticks app readings = .ok ts) :
    Place r old new (k + advances ts) (reached app ts) :=
  ticks_preserve (fun place ht => place.tick_ok s (tick_ok_iff.1 ht)) place ticked

/-- Ticks of a rollout that fail have led to where the years end. -/
lemma Place.ticks_error {readings : List Moment} {problem : CanaryProblem}
    (place : Place r old new k app) (s : r.activation.Shareable)
    (failed : ticks app readings = .error problem) :
    problem = .overflow ∧ ∃ before ts, before <+: readings ∧ ticks app before = .ok ts ∧
      OutOfYears (reached app ts) := by
  induction readings generalizing app k with
  | nil => cases failed
  | cons now readings ih =>
    rcases Outcome.bind_error_iff.1 failed with failed | ⟨t, ht, failed⟩
    · obtain ⟨overflow, out⟩ := place.tick_error s failed
      exact ⟨overflow, [], [], List.nil_prefix, rfl, out⟩
    · have later : ticks t.app readings = .error problem := by
        rcases Outcome.bind_error_iff.1 failed with failed | ⟨_, _, failed⟩
        · exact failed
        · cases failed
      have next := place.tick_ok s (tick_ok_iff.1 ht)
      obtain ⟨overflow, before, ts, first, hts, out⟩ := ih next later
      have ticked : Canary.ticks app (now :: before) = .ok (t :: ts) :=
        Outcome.bind_ok_iff.2 ⟨t, ht, Outcome.bind_ok_iff.2 ⟨ts, hts, rfl⟩⟩
      exact ⟨overflow, now :: before, t :: ts, List.cons_prefix_cons.2 ⟨rfl, first⟩, ticked, out⟩

end

/-- While a rollout is stepping, both deployments together keep the capacity of every process of its
target, whenever the clock is read, and units only ever move to the new deployment; it has all of
them at the end. Ticks fail nowhere but where the years end. -/
theorem capacity_kept {app started : ApplicationSpec} {old new : DeploymentSpec} {now : Moment}
    {a : Activation} {target : Document} (two : app.deployments = [old, new])
    (activated : (Operation.activate now a target).perform app = .ok started)
    (distinct : (Dict.keys started.canary.target).Nodup)
    (countable : Countable started.canary.target) :
    let b : Activation := { a with target := started.canary.target }
    (∀ t ∈ b.target, KeepsCapacity t.2 (b.oldUnits · t.2) (b.newUnits · t.2)) ∧
      ∀ readings,
        (∀ ts, ticks started readings = .ok ts →
          Capacity b old new (advances ts) (reached started ts)) ∧
        ∀ problem, ticks started readings = .error problem →
          problem = .overflow ∧ ∃ before ts, before <+: readings ∧
            ticks started before = .ok ts ∧ OutOfYears (reached started ts) := by
  intro b
  obtain ⟨units, due, adm, -, rfl⟩ := Operation.activate_inv activated
  have s : b.Shareable := ⟨Int.lt_of_lt_of_le (by decide) adm.least, distinct, countable⟩
  have place : Place ⟨app.name, old.version, new.version, b⟩ old new 0 (begun app now due b) :=
    .underway
      { midway := adm.midway two now due
        scheduled := rfl
        capacity := {
          source_revision := rfl
          dest_revision := rfl
          unchanged _ := ⟨rfl, rfl⟩
          source_shares h := absurd h (Nat.lt_irrefl 0)
          dest_shares h := absurd h (Nat.lt_irrefl 0)
          source_outside := rfl
          dest_outside h := absurd h (Nat.lt_irrefl 0) } }
  refine ⟨fun t mem => ?_, fun readings => ⟨fun ts ticked => ?_, fun problem failed => ?_⟩⟩
  · obtain ⟨hu, small⟩ := countable t mem
    exact Activation.keepsCapacity adm.weight_pos hu small
  · have reached := place.ticks_ok s ticked
    rw [Nat.zero_add] at reached
    exact reached.capacity
  · exact place.ticks_error s failed

/-- The units of the shop when the second step is made. -/
theorem shop_capacity : ∃ ts,
    (Operation.activate (shopClock 0) shopActivation shopTarget).perform shop = .ok shopStarted ∧
      ticks shopStarted [shopClock 1, shopClock 1, shopClock 2] = .ok ts ∧ advances ts = 2 ∧
      Capacity { shopActivation with target := [("web", 4)] } (shopDeployment 1 ["web"])
        (shopDeployment 2 ["web", "worker"]) (advances ts) (reached shopStarted ts) ∧
      ((reached shopStarted ts).deployments.map fun d =>
          d.processes.map fun p => (p.name, p.units)) =
        [[("web", some 1)], [("web", some 3), ("worker", some 1)]] := by
  have activated : (Operation.activate (shopClock 0) shopActivation shopTarget).perform shop =
      .ok shopStarted := by decide +kernel
  have countable : Countable shopStarted.canary.target := by
    unfold Countable
    decide +kernel
  obtain ⟨ts, ticked, e⟩ := Outcome.map_ok_iff.1 (show
    (ticks shopStarted [shopClock 1, shopClock 1, shopClock 2]).map (fun ts => (advances ts,
        (reached shopStarted ts).deployments.map fun d =>
          d.processes.map fun p => (p.name, p.units))) =
      .ok (2, [[("web", some 1)], [("web", some 3), ("worker", some 1)]]) by decide +kernel)
  obtain ⟨count, units⟩ := Prod.mk.inj e
  have two : shop.deployments = [shopDeployment 1 ["web"], shopDeployment 2 ["web", "worker"]] :=
    rfl
  have kept := capacity_kept two activated (by decide) countable
  exact ⟨ts, activated, ticked, count, (kept.2 _).1 ts ticked, units⟩

end Chartwright.Canary
