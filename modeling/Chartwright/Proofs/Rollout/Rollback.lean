import Chartwright.Proofs.Rollout.Validity

/-!
# Rolling back

An attempt that is rolled back leaves nothing behind that another activation could see, but for the
units of processes. An activation sees no more of an inactive application than is left when the
weights are reset and the rollout is forgotten, and nothing on the way changes that: `Attempt` is
the invariant.
-/

namespace Chartwright.Canary

/-- An application with its weights reset, as if there had never been a rollout. -/
def pristine (app : ApplicationSpec) : ApplicationSpec :=
  { app with deployments := resetWeights app.deployments, canary := .none }

/-- What a rollback changes: the weights of two deployments, and where the rollout stands. -/
structure Reverted (before back : ApplicationSpec) : Prop where
  weights_only : List.Forall₂ (fun d e => e = { d with weight := e.weight })
    before.deployments back.deployments
  first_two : back.deployments.drop 2 = before.deployments.drop 2
  otherwise : back = { before with
    deployments := back.deployments
    canary := { before.canary with active := false, currentStep := 0, nextScheduledTime := none } }

/-- A rollout of an application to a target, which is under way or complete. -/
inductive Attempt (original : ApplicationSpec) (target : Dict String Int) (app : ApplicationSpec) :
    Prop where
  | underway :
    app.canary.active = true →
    0 < app.canary.steps →
    app.canary.target = target →
    pristine app.withoutUnits = pristine original.withoutUnits →
    (target = [] → pristine app = pristine original) →
    Attempt original target app
  | complete :
    app.canary.phase = .complete →
    Attempt original target app

section

variable {app app' original : ApplicationSpec} {now next due : Moment} {a : Activation}
  {source dest : DeploymentSpec} {rest : List DeploymentSpec} {pair : Pair}
  {target : Dict String Int} {splits : List (String × Int × Int)}

/-! ## Weights -/

@[simp]
lemma length_resetWeights (ds : List DeploymentSpec) :
    (resetWeights ds).length = ds.length := by
  match ds with
  | [] => rfl
  | [_] => rfl
  | _ :: _ :: _ => rfl

@[simp]
lemma resetWeights_resetWeights (ds : List DeploymentSpec) :
    resetWeights (resetWeights ds) = resetWeights ds := by
  match ds with
  | [] => rfl
  | [_] => rfl
  | _ :: _ :: _ => rfl

lemma map_withoutUnits_resetWeights (ds : List DeploymentSpec) :
    (resetWeights ds).map (·.withoutUnits) = resetWeights (ds.map (·.withoutUnits)) := by
  match ds with
  | [] => rfl
  | [_] => rfl
  | _ :: _ :: _ => rfl

lemma reverted_rolledBack (app : ApplicationSpec) : Reverted app (rolledBack app) := by
  have same (ds : List DeploymentSpec) :
      List.Forall₂ (fun d e => e = { d with weight := e.weight }) ds ds :=
    List.forall₂_same.2 fun _ _ => rfl
  suffices weights : List.Forall₂ (fun d e => e = { d with weight := e.weight })
        app.deployments (resetWeights app.deployments) ∧
      (resetWeights app.deployments).drop 2 = app.deployments.drop 2 from
    ⟨weights.1, weights.2, rfl⟩
  match app.deployments with
  | [] => exact ⟨same [], rfl⟩
  | [d] => exact ⟨same [d], rfl⟩
  | _ :: _ :: rest => exact ⟨.cons rfl (.cons rfl (same rest)), rfl⟩

/-! ## What an activation sees -/

lemma checkActivation_congr (name : app.name = app'.name)
    (phase : app.canary.phase = app'.canary.phase)
    (length : app.deployments.length = app'.deployments.length) :
    checkActivation app a = checkActivation app' a := by
  simp only [checkActivation, name, phase, length]

lemma start_pristine (inactive : app.canary.phase = .inactive) :
    start (pristine app) now a = start app now a := by
  have checked : checkActivation (pristine app) a = checkActivation app a :=
    checkActivation_congr rfl inactive.symm (length_resetWeights _)
  rw [start, start, checked]
  simp only [pristine, resetWeights_resetWeights]

lemma start_withoutUnits :
    start app.withoutUnits now a = (start app now a).map (·.withoutUnits) := by
  have checked : checkActivation app.withoutUnits a = checkActivation app a :=
    checkActivation_congr rfl rfl (List.length_map _)
  rw [start, start, checked]
  cases checkActivation app a with
  | error p => rfl
  | ok u =>
    cases h : now.inUtc.add? a.interval with
    | none =>
      simp only [h]
      rfl
    | some due =>
      simp only [h, ApplicationSpec.withoutUnits, ← map_withoutUnits_resetWeights]
      rfl

/-- Applications that start alike are activated alike, with the same records. -/
lemma activateReading_congr (h : ∀ a, start app now a = start app' now a) (target : Document) :
    activateReading app now a target = activateReading app' now a target := by
  simp only [activateReading, activate, h]

lemma activateReading_pristine (inactive : app.canary.phase = .inactive) (target : Document) :
    activateReading (pristine app) now a target = activateReading app now a target :=
  activateReading_congr (fun _ => start_pristine inactive) target

lemma activateReading_withoutUnits (target : Document) :
    (activateReading app.withoutUnits now a target).value =
      (activateReading app now a target).value.map (·.withoutUnits) := by
  simp only [activateReading]
  split
  · rw [(activate_gives _ _ _).value_eq, (activate_gives _ _ _).value_eq, start_withoutUnits]
  · rw [start_withoutUnits]
    cases start app now { a with target := [] } with
    | error p => rfl
    | ok app => rfl

/-! ## Attempts -/

lemma pristine_withoutUnits : pristine app.withoutUnits = (pristine app).withoutUnits := by
  simp only [pristine, ApplicationSpec.withoutUnits, map_withoutUnits_resetWeights]

/-- A step changes no more of two deployments than their weights and what becomes of them. -/
lemma pristine_stepped (two : app.deployments = source :: dest :: rest)
    (hs : { pair.source with weight := fullWeight } = { source with weight := fullWeight })
    (hd : { pair.dest with weight := 0 } = { dest with weight := 0 }) :
    pristine (stepped app pair rest next) = pristine app := by
  simp only [pristine, stepped, two, resetWeights, hs, hd]

/-- A step without a target leaves the units alone. -/
lemma Pair.scaled?_nil {p q : Pair} (h : p.scaled? [] = some (q, splits)) : q = p := by
  rw [Pair.scaled?, if_pos rfl] at h
  cases h
  rfl

lemma Activation.Admissible.attempt (adm : a.Admissible app) :
    Attempt app a.target (begun app now due a) := by
  have steps : 0 < a.steps := Int.lt_of_lt_of_le (by decide) adm.least
  have same : pristine (begun app now due a) = pristine app := by
    simp only [pristine, begun, resetWeights_resetWeights]
  refine .underway rfl steps rfl ?_ fun _ => same
  rw [pristine_withoutUnits, pristine_withoutUnits, same]

lemma Attempt.tick {t : Tick} (attempt : Attempt original target app) (tk : Ticks app now t) :
    Attempt original target t.app := by
  cases tk with
  | idle => exact attempt
  | early => exact attempt
  | @step source dest rest due next pair splits active two _ _ _ scaled =>
    cases attempt with
    | complete phase =>
      rw [(CanarySpec.phase_eq_complete_iff.1 phase).1] at active
      cases active
    | underway _ steps aim units whole =>
      simp only [stepTick, settle]
      split
      case isTrue => exact .complete ((finish_phase pair.dest).trans (if_pos steps))
      case isFalse =>
        refine .underway active steps aim ?_ fun none => ?_
        -- the units are shared out anew, so what is kept is seen once they are forgotten
        · obtain ⟨es, ed⟩ := Pair.scaled?_withoutUnits scaled
          have two' : app.withoutUnits.deployments = source.withoutUnits :: dest.withoutUnits ::
              rest.map (·.withoutUnits) := by
            rw [ApplicationSpec.withoutUnits, two, List.map_cons, List.map_cons]
          have same : pristine (stepped app.withoutUnits
              ⟨pair.source.withoutUnits, pair.dest.withoutUnits⟩ (rest.map (·.withoutUnits)) next) =
              pristine app.withoutUnits :=
            pristine_stepped two' (congrArg (fun d => { d with weight := fullWeight }) es)
              (congrArg (fun d => { d with weight := 0 }) ed)
          exact same.trans units
        · rw [aim, none] at scaled
          rw [Pair.scaled?_nil scaled, pristine_stepped two rfl rfl, whole none]

lemma pristine_rolledBack : pristine (rolledBack app) = pristine app := by
  simp only [pristine, rolledBack, resetWeights_resetWeights]

/-- Inactive applications that differ in their weights and past rollouts are activated alike. -/
lemma activateReading_of_pristine (inactive : app.canary.phase = .inactive)
    (inactive' : app'.canary.phase = .inactive) (same : pristine app = pristine app')
    (units : Document) : activateReading app now a units = activateReading app' now a units := by
  rw [← activateReading_pristine inactive, same, activateReading_pristine inactive']

lemma activateReading_of_withoutUnits (inactive : app.canary.phase = .inactive)
    (inactive' : app'.canary.phase = .inactive)
    (same : pristine app.withoutUnits = pristine app'.withoutUnits) (units : Document) :
    (activateReading app now a units).value.map (·.withoutUnits) =
      (activateReading app' now a units).value.map (·.withoutUnits) := by
  have here : app.withoutUnits.canary.phase = .inactive := inactive
  have there : app'.withoutUnits.canary.phase = .inactive := inactive'
  rw [← activateReading_withoutUnits, ← activateReading_withoutUnits,
    activateReading_of_pristine here there same]

lemma Attempt.polled (attempt : Attempt original target app) (readings : List Moment) :
    Attempt original target (polled app readings) :=
  polled_preserves (P := fun _ => Attempt original target) (k := 0) (fun h tk => h.tick tk)
    readings attempt

/-- A rollback of an attempt that is not complete gives back what it found, but for units. -/
lemma Attempt.rolledBack (attempt : Attempt original target app)
    (two : original.deployments.length = 2) (incomplete : app.canary.phase ≠ .complete) :
    (rollback app).value = .ok (rolledBack app) ∧
      pristine (rolledBack app).withoutUnits = pristine original.withoutUnits ∧
      (target = [] → pristine (Canary.rolledBack app) = pristine original) := by
  cases attempt with
  | complete phase => exact absurd phase incomplete
  | underway _ _ _ units whole =>
    have count : app.deployments.length = original.deployments.length := by
      have lengths := congrArg (·.deployments.length) units
      simpa only [pristine, ApplicationSpec.withoutUnits, length_resetWeights, List.length_map]
        using lengths
    refine ⟨rollback_ok_iff.2 ⟨count.trans two |>.ge, rfl⟩, ?_, fun none => ?_⟩
    · rw [pristine_withoutUnits, pristine_rolledBack, ← pristine_withoutUnits, units]
    · rw [pristine_rolledBack, whole none]

end

/-- A rollout that is rolled back before it is complete is as if it had never been: whatever the
readings of the clock were, and whichever ticks failed, each further activation comes to what it
would have come to at first. Only the units of processes can be others, and only if there was a
target. -/
theorem rollback_forgets {app started : ApplicationSpec} {now : Moment} {a : Activation}
    {target : Document} (activated : (Operation.activate now a target).perform app = .ok started)
    (readings : List Moment) (incomplete : (polled started readings).canary.phase ≠ .complete) :
    ∃ back, (rollback (polled started readings)).value = .ok back ∧
      Reverted (polled started readings) back ∧
      (started.canary.target = [] → ∀ now' a' target',
        activateReading back now' a' target' = activateReading app now' a' target') ∧
      ∀ now' a' target', (activateReading back now' a' target').value.map (·.withoutUnits) =
        (activateReading app now' a' target').value.map (·.withoutUnits) := by
  obtain ⟨units, due, adm, -, rfl⟩ := Operation.activate_inv activated
  obtain ⟨returned, kept, whole⟩ := (adm.attempt.polled readings).rolledBack adm.two incomplete
  refine ⟨_, returned, reverted_rolledBack _, fun none _ _ => ?_, fun _ _ => ?_⟩
  · exact activateReading_of_pristine rolledBack_phase adm.inactive (whole none)
  · exact activateReading_of_withoutUnits rolledBack_phase adm.inactive kept

/-- The shop is rolled back behind two of four steps without a target. -/
theorem shop_forgets : ∃ started back,
    (Operation.activate (shopClock 0) shopActivation (.object [])).perform shop = .ok started ∧
      (polled started [shopClock 1, shopClock 2]).canary.currentStep = 2 ∧
      (rollback (polled started [shopClock 1, shopClock 2])).value = .ok back ∧
      ∀ now a target, activateReading back now a target = activateReading shop now a target := by
  obtain ⟨started, activated, e⟩ := Outcome.map_ok_iff.1 (show
    ((Operation.activate (shopClock 0) shopActivation (.object [])).perform shop).map
        (fun app => (app.canary.target, (polled app [shopClock 1, shopClock 2]).canary.phase,
          (polled app [shopClock 1, shopClock 2]).canary.currentStep)) =
      .ok ([], .stepping, 2) by decide +kernel)
  obtain ⟨none, e⟩ := Prod.mk.inj e
  obtain ⟨stepping, two⟩ := Prod.mk.inj e
  have incomplete : (polled started [shopClock 1, shopClock 2]).canary.phase ≠ .complete := by
    rw [stepping]
    decide
  obtain ⟨back, returned, -, same, -⟩ :=
    rollback_forgets activated [shopClock 1, shopClock 2] incomplete
  exact ⟨started, back, activated, two, returned, same none⟩

end Chartwright.Canary
