import Chartwright.Proofs.Rollout.Run
import Chartwright.Proofs.Rollout.Units

/-!
# Traffic along a run

From the first activation that succeeds on, all traffic is shared out, whatever operations follow
and whichever of them fail. `Placed` is the invariant: it has one case for each place that a rollout
can be in, and every operation leads from these places to these places.
-/

namespace Chartwright.Canary

/-- A rollout from an old to a new deployment is under way: the weights are those of the steps that
were made, and the next step is due one interval later for each of them. -/
structure Stepping (old new : DeploymentSpec) (app : ApplicationSpec)
    (source dest : DeploymentSpec) (started due : Moment) : Prop where
  deployments : app.deployments = [source, dest]
  source_revision : source.revision = old.revision
  dest_revision : dest.revision = new.revision
  step_nonneg : 0 ≤ app.canary.currentStep
  step_lt : app.canary.currentStep < app.canary.steps
  dest_weight : dest.weight = app.canary.currentStep * app.canary.stepWeight
  dest_lt : dest.weight < fullWeight
  source_weight : source.weight = fullWeight - app.canary.currentStep * app.canary.stepWeight
  recorded : app.canary.started = some started
  scheduled : app.canary.nextScheduledTime = some due
  due_instant : due.instant =
    started.instant + (app.canary.currentStep + 1) * app.canary.stepInterval.microseconds

/-- A rollout to a new deployment is done: nothing else is left, and it has all the traffic. -/
structure Completed (new : DeploymentSpec) (app : ApplicationSpec) (dest : DeploymentSpec) :
    Prop where
  deployments : app.deployments = [dest]
  revision : dest.revision = new.revision
  weight : dest.weight = fullWeight
  not_active : app.canary.active = false
  all_steps : app.canary.currentStep = app.canary.steps
  not_scheduled : app.canary.nextScheduledTime = none

/-- The traffic of an application that was moving, or is moving, to a new deployment. -/
structure Balanced (old new : DeploymentSpec) (app : ApplicationSpec) : Prop where
  total : (app.deployments.map (·.weight)).sum = fullWeight
  stepping : app.canary.phase = .stepping →
    ∃ source dest started due, Stepping old new app source dest started due
  complete : app.canary.phase = .complete → ∃ dest, Completed new app dest

/-- The deployments of an application are an old and a new one, or the new one alone. -/
inductive Lineage (old new : DeploymentSpec) (app : ApplicationSpec) : Prop where
  | two {source dest} :
    app.deployments = [source, dest] →
    source.revision = old.revision →
    dest.revision = new.revision →
    Lineage old new app
  | one {dest} :
    app.deployments = [dest] →
    dest.revision = new.revision →
    Lineage old new app

/-- The places of a rollout that was started: it is stepping or complete, it was rolled back, or it
was complete and is forgotten. -/
inductive Placed (old new : DeploymentSpec) (app : ApplicationSpec) : Prop where
  | stepping {source dest started due} :
    app.canary.active = true →
    Stepping old new app source dest started due →
    Placed old new app
  | complete {dest} :
    app.canary.phase = .complete →
    Completed new app dest →
    Placed old new app
  | returned {source dest} :
    app.canary.phase = .inactive →
    app.deployments = [source, dest] →
    source.revision = old.revision →
    dest.revision = new.revision →
    source.weight = fullWeight →
    dest.weight = 0 →
    Placed old new app
  | alone {dest} :
    app.canary.phase = .inactive →
    app.deployments = [dest] →
    dest.revision = new.revision →
    dest.weight = fullWeight →
    Placed old new app

variable {old new : DeploymentSpec} {app app' : ApplicationSpec}

/-- All traffic goes to the first of two deployments. -/
lemma resetWeights_pair (source dest : DeploymentSpec) :
    resetWeights [source, dest] =
      [{ source with weight := fullWeight }, { dest with weight := 0 }] := rfl

/-- A placed rollout has the deployments that it should have. -/
lemma Placed.lineage (h : Placed old new app) : Lineage old new app := by
  cases h with
  | stepping _ st => exact .two st.deployments st.source_revision st.dest_revision
  | complete _ co => exact .one co.deployments co.revision
  | returned _ hd hs hn _ _ => exact .two hd hs hn
  | alone _ hd hn _ => exact .one hd hn

/-- The traffic of a placed rollout. -/
lemma Placed.balanced (h : Placed old new app) : Balanced old new app := by
  cases h with
  | @stepping source dest started due ha st =>
    have hp : app.canary.phase = .stepping := CanarySpec.phase_eq_stepping_iff.2 ha
    refine ⟨?_, fun _ => ⟨source, dest, started, due, st⟩, fun hc => ?_⟩
    · simp only [st.deployments, List.map_cons, List.map_nil, List.sum_cons, List.sum_nil,
        st.source_weight, st.dest_weight]
      omega
    · rw [hp] at hc
      cases hc
  | @complete dest hp co =>
    refine ⟨?_, fun hc => ?_, fun _ => ⟨dest, co⟩⟩
    · simp [co.deployments, co.weight]
    · rw [hp] at hc
      cases hc
  | returned hp hd _ _ hw hz =>
    refine ⟨by simp [hd, hw, hz], fun hc => ?_, fun hc => ?_⟩
    · rw [hp] at hc
      cases hc
    · rw [hp] at hc
      cases hc
  | alone hp hd _ hw =>
    refine ⟨by simp [hd, hw], fun hc => ?_, fun hc => ?_⟩
    · rw [hp] at hc
      cases hc
    · rw [hp] at hc
      cases hc

/-- An admissible rollout of the deployments that there should be starts at its first place. -/
lemma Lineage.begun {now due : Moment} {a : Activation} (h : Lineage old new app)
    (adm : a.Admissible app) (hd : now.inUtc.add? a.interval = some due) :
    Placed old new (begun app now due a) := by
  cases h with
  | one e _ =>
    have h2 := adm.two
    rw [e] at h2
    cases h2
  | @two source dest e hs hn =>
    have hm := adm.least
    have hi := Moment.instant_of_add? hd
    have st : Stepping old new (Canary.begun app now due a) { source with weight := fullWeight }
        { dest with weight := 0 } now.inUtc due :=
      { deployments := by rw [Canary.begun, e, resetWeights_pair]
        source_revision := hs
        dest_revision := hn
        step_nonneg := by simp [Canary.begun]
        step_lt := by simp only [Canary.begun, minimumSteps] at hm ⊢; omega
        dest_weight := by simp [Canary.begun]
        dest_lt := by simp [fullWeight]
        source_weight := by simp [Canary.begun]
        recorded := rfl
        scheduled := rfl
        due_instant := by simpa [Canary.begun] using hi }
    exact .stepping rfl st

/-- A step of a rollout that is under way leads to its next place, or to its end. -/
lemma Stepping.settle {source dest : DeploymentSpec} {started due next : Moment} {pair : Pair}
    {splits} (st : Stepping old new app source dest started due) (ha : app.canary.active = true)
    (hn : due.inUtc.add? app.canary.stepInterval = some next)
    (hp : (Pair.shift ⟨source, dest⟩ app.canary.stepWeight).scaled? app.canary.target =
      some (pair, splits)) :
    Placed old new (settle (stepped app pair [] next) pair.dest) := by
  obtain ⟨es, ed⟩ := Pair.scaled?_withoutUnits hp
  have ws : pair.source.weight = max 0 (source.weight - app.canary.stepWeight) :=
    (Pair.weights_of_step hp).1
  have wd : pair.dest.weight = min fullWeight (dest.weight + app.canary.stepWeight) :=
    (Pair.weights_of_step hp).2
  have rs : pair.source.revision = old.revision :=
    (DeploymentSpec.revision_of_withoutUnits es).trans st.source_revision
  have rd : pair.dest.revision = new.revision :=
    (DeploymentSpec.revision_of_withoutUnits ed).trans st.dest_revision
  have hs := st.source_weight
  have hd := st.dest_weight
  have h0 := st.step_nonneg
  have h1 := st.step_lt
  -- the weight after one more step
  have hk : (app.canary.currentStep + 1) * app.canary.stepWeight =
      app.canary.currentStep * app.canary.stepWeight + app.canary.stepWeight := by
    rw [Int.add_mul, Int.one_mul]
  unfold Canary.settle
  split
  case isTrue hl =>
    have hc : (finish (stepped app pair [] next) pair.dest).canary.phase = .complete := by
      apply CanarySpec.phase_eq_complete_iff.2
      refine ⟨rfl, ?_, ?_⟩
      · simp only [finish, stepped]
        omega
      · simp only [finish, stepped]
        omega
    exact .complete hc
      { deployments := rfl
        revision := (revision_full _ _ _).trans rd
        weight := rfl
        not_active := rfl
        all_steps := rfl
        not_scheduled := rfl }
  case isFalse hl =>
    obtain ⟨hl1, hl2⟩ := not_or.1 (mt isLast_iff.2 hl)
    have hi := Moment.instant_of_add? hn
    have hdue := st.due_instant
    have hx : (app.canary.currentStep + 1 + 1) * app.canary.stepInterval.microseconds =
        (app.canary.currentStep + 1) * app.canary.stepInterval.microseconds +
          app.canary.stepInterval.microseconds := by
      rw [Int.add_mul, Int.one_mul]
    have st' : Stepping old new (stepped app pair [] next) pair.source pair.dest started next :=
      { deployments := rfl
        source_revision := rs
        dest_revision := rd
        step_nonneg := by simp only [stepped]; omega
        step_lt := Int.not_le.1 hl1
        dest_weight := by simp only [stepped]; omega
        dest_lt := Int.not_le.1 hl2
        source_weight := by simp only [stepped]; omega
        recorded := st.recorded
        scheduled := rfl
        due_instant := by
          rw [Moment.instant_inUtc] at hi
          simp only [stepped]
          omega }
    exact .stepping ha st'

/-- Every tick leads from the places of a rollout to these places. -/
lemma Placed.tick {now t} (h : Placed old new app) (tk : Ticks app now t) :
    Placed old new t.app := by
  cases tk with
  | idle => exact h
  | early => exact h
  | step ha hd hs hdue hn hp =>
    -- of all places, an active rollout can be in the first one only
    cases h with
    | stepping _ st =>
      cases hd.symm.trans st.deployments
      cases hs.symm.trans st.scheduled
      exact st.settle ha hn hp
    | complete _ co => rw [co.not_active] at ha; cases ha
    | returned hi => rw [(CanarySpec.phase_eq_inactive_iff.1 hi).1] at ha; cases ha
    | alone hi => rw [(CanarySpec.phase_eq_inactive_iff.1 hi).1] at ha; cases ha

/-- A rollback leads back to the old deployment. -/
lemma Lineage.rolledBack (h : Lineage old new app) (h2 : 2 ≤ app.deployments.length) :
    Placed old new (rolledBack app) := by
  cases h with
  | one e _ =>
    rw [e] at h2
    cases h2 with | step h2 => cases h2
  | @two source dest e hs hn =>
    have hd : (Canary.rolledBack app).deployments =
        [{ source with weight := fullWeight }, { dest with weight := 0 }] := by
      rw [Canary.rolledBack, e, resetWeights_pair]
    exact .returned rolledBack_phase hd hs hn rfl rfl

/-- Forgetting a rollout that is not stepping leaves the weights as they are. -/
lemma Placed.reset (h : Placed old new app) (hp : app.canary.phase ≠ .stepping) :
    Placed old new { app with canary := .none } := by
  cases h with
  | stepping ha => exact absurd (CanarySpec.phase_eq_stepping_iff.2 ha) hp
  | complete _ co => exact .alone rfl co.deployments co.revision co.weight
  | returned _ hd hs hn hw hz => exact .returned rfl hd hs hn hw hz
  | alone _ hd hn hw => exact .alone rfl hd hn hw

/-- Every operation leads from the places of a rollout to these places. -/
lemma Placed.perform (op : Operation) (h : Placed old new app) (ho : op.perform app = .ok app') :
    Placed old new app' := by
  cases Operation.performs ho with
  | begun _ adm hd => exact h.lineage.begun adm hd
  | ticked tk => exact h.tick tk
  | rolledBack h2 => exact h.lineage.rolledBack h2
  | reset hp => exact h.reset hp

/-- A tick keeps the deployments of a rollout. -/
lemma Lineage.tick {now t} (h : Lineage old new app) (tk : Ticks app now t) :
    Lineage old new t.app := by
  cases tk with
  | idle => exact h
  | early => exact h
  | step ha hd hs hdue hn hp =>
    cases h with
    | one e _ => cases e.symm.trans hd
    | two e rs rd =>
      cases e.symm.trans hd
      obtain ⟨es, ed⟩ := Pair.scaled?_withoutUnits hp
      have rs' := (DeploymentSpec.revision_of_withoutUnits es).trans rs
      have rd' := (DeploymentSpec.revision_of_withoutUnits ed).trans rd
      simp only [stepTick, Canary.settle]
      split
      · exact .one rfl ((revision_full _ _ _).trans rd')
      · exact .two rfl rs' rd'

/-- Every operation keeps the deployments of a rollout. -/
lemma Lineage.perform (op : Operation) (h : Lineage old new app) (ho : op.perform app = .ok app') :
    Lineage old new app' := by
  cases Operation.performs ho with
  | begun _ adm hd => exact (h.begun adm hd).lineage
  | ticked tk => exact h.tick tk
  | rolledBack h2 => exact (h.rolledBack h2).lineage
  | reset =>
    cases h with
    | two hd hs hn => exact .two hd hs hn
    | one hd hn => exact .one hd hn

/-- From the first activation that succeeds on, the traffic between two deployments is balanced:
whatever was done to the application before, and whatever is done to it after. -/
theorem run_balanced {now : Moment} {a : Activation} {target : Document} {started}
    (before after : List Operation) (two : app.deployments = [old, new])
    (activated : (Operation.activate now a target).perform (run app before) = .ok started) :
    Balanced old new (run app (before ++ .activate now a target :: after)) := by
  have hl : Lineage old new (run app before) :=
    run_preserves (fun op h ho => h.perform op ho) before (.two two rfl rfl)
  have hp : Placed old new started := by
    obtain ⟨units, due, adm, hd, e⟩ := Operation.activate_inv activated
    rw [e]
    exact hl.begun adm hd
  rw [run_append, run_cons_of_ok activated]
  exact (run_preserves (fun op h ho => h.perform op ho) after hp).balanced

/-- A first attempt of the shop, which is rolled back after a step. -/
def shopAttempt : List Operation :=
  [.activate (shopClock 0) shopActivation shopTarget, .tick (shopClock 1), .rollback]

/-- The traffic of the shop, which is activated for a second time; a third time fails. -/
theorem shop_balanced : ∃ started,
    (Operation.activate (shopClock 5) shopActivation shopTarget).perform (run shop shopAttempt) =
        .ok started ∧
      Balanced (shopDeployment 1 ["web"]) (shopDeployment 2 ["web", "worker"])
        (run shop (shopAttempt ++ .activate (shopClock 5) shopActivation shopTarget ::
          [.tick (shopClock 6), .activate (shopClock 7) shopActivation shopTarget,
            .tick (shopClock 7), .tick (shopClock 8), .tick (shopClock 9)])) := by
  obtain ⟨started, h⟩ := Outcome.exists_ok_of_toBool (x :=
    (Operation.activate (shopClock 5) shopActivation shopTarget).perform (run shop shopAttempt))
    (by decide +kernel)
  exact ⟨started, h, run_balanced shopAttempt _ rfl h⟩

end Chartwright.Canary
