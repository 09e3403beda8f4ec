import Chartwright.Proofs.Rollout.Validity

/-!
# Phases

How operations move the phase of a rollout. It is not stored, but read off the rollout, so a tick
that ends a rollout without steps leads back to the inactive phase. No run leads to such a rollout
from one that is not active: a rollout that is started has steps.
-/

namespace Chartwright

/-- The name of an event. -/
@[simp]
lemma CanaryEvent.of_name (app : ApplicationSpec) (name extra) :
    (CanaryEvent.of app name extra).name = name := rfl

/-- The name of the event of a step. -/
@[simp]
lemma CanaryEvent.ofStep_name (app : ApplicationSpec) (source dest) :
    (CanaryEvent.ofStep app source dest).name = .nextStep := rfl

/-- The name of the event of a change of units. -/
@[simp]
lemma CanaryEvent.ofUnits_name (app : ApplicationSpec) (process source dest) :
    (CanaryEvent.ofUnits app process source dest).name = .stepTarget := rfl

namespace Canary

variable {app app' : ApplicationSpec} {op : Operation} {now : Moment} {t : Tick}

/-! ## The end of a rollout -/

/-- A tick has ended its rollout, as its events tell. -/
def Tick.Finished (t : Tick) : Prop := ∃ e ∈ t.events, e.name = .finished

/-- A rollout has ended where the names of the events say so. -/
lemma Tick.finished_iff : t.Finished ↔ .finished ∈ t.events.map (·.name) := List.mem_map.symm

/-- A step ends a rollout where it is the last. -/
lemma stepTick_finished_iff {moved scaled : Pair} {rest next splits} :
    (stepTick app moved scaled rest next splits).Finished ↔
      isLast (stepped app scaled rest next).canary scaled.dest = true := by
  have starts : ∀ e ∈ startEvents app, e.name ≠ .finished := by
    unfold startEvents
    split
    · simp
    · simp
  have steps : ∀ e ∈ stepEvents (stepped app moved rest next) moved splits,
      e.name ≠ .finished := by
    simp only [stepEvents, List.forall_mem_cons, List.forall_mem_map]
    exact ⟨by simp, fun s _ => by simp⟩
  constructor
  · rintro ⟨e, he, hn⟩
    simp only [stepTick, List.mem_append] at he
    rcases he with (he | he) | he
    · exact absurd hn (starts e he)
    · exact absurd hn (steps e he)
    · by_contra hl
      simp [endEvents, hl] at he
  · intro hl
    have he : CanaryEvent.of (finish (stepped app scaled rest next) scaled.dest) .finished [] ∈
        endEvents (stepped app scaled rest next) scaled.dest := by
      rw [endEvents, if_pos hl]
      exact List.mem_singleton_self _
    exact ⟨_, List.mem_append_right _ he, rfl⟩

/-- A rollout has steps where it is active. -/
def HasSteps (app : ApplicationSpec) : Prop := app.canary.active = true → 0 < app.canary.steps

/-- The phase of a tick and of the rollout behind it. A tick that does not end the rollout leaves the
phase as it is; one that does completes the rollout if it has steps. -/
structure TickMoves (app : ApplicationSpec) (t : Tick) : Prop where
  reported : t.phase = t.app.canary.phase
  unfinished : ¬ t.Finished → t.app.canary.phase = app.canary.phase
  finished : t.Finished → app.canary.phase = .stepping ∧
    t.app.canary.phase = if 0 < app.canary.steps then .complete else .inactive

/-- A tick completes a rollout with steps exactly where it says that it has finished. -/
lemma TickMoves.finished_iff (m : TickMoves app t) (h : HasSteps app) :
    t.Finished ↔ app.canary.phase = .stepping ∧ t.app.canary.phase = .complete := by
  constructor
  · intro hf
    obtain ⟨hp, hc⟩ := m.finished hf
    rw [if_pos (h (CanarySpec.phase_eq_stepping_iff.1 hp))] at hc
    exact ⟨hp, hc⟩
  · rintro ⟨hp, hc⟩
    by_contra hf
    rw [m.unfinished hf, hp] at hc
    cases hc

/-- The phase of every tick. -/
lemma Ticks.moves (tk : Ticks app now t) : TickMoves app t := by
  cases tk with
  | idle =>
    have hf : ¬ (⟨app, false, app.canary.phase, [.of app .notActive []]⟩ : Tick).Finished := by
      simp [Tick.Finished]
    exact ⟨rfl, fun _ => rfl, fun h => absurd h hf⟩
  | early ha =>
    have hf : ¬ (⟨app, false, .stepping, []⟩ : Tick).Finished := by simp [Tick.Finished]
    exact ⟨(CanarySpec.phase_eq_stepping_iff.2 ha).symm, fun _ => rfl, fun h => absurd h hf⟩
  | @step _ _ rest _ next pair _ ha =>
    have hp : app.canary.phase = .stepping := CanarySpec.phase_eq_stepping_iff.2 ha
    have hs : (stepped app pair rest next).canary.phase = .stepping :=
      CanarySpec.phase_eq_stepping_iff.2 ha
    refine ⟨rfl, fun hf => ?_, fun hf => ⟨hp, ?_⟩⟩
    · rw [stepTick_finished_iff] at hf
      rw [stepTick, settle, if_neg hf, hs, hp]
    · rw [stepTick_finished_iff] at hf
      rw [stepTick, settle, if_pos hf, finish_phase, stepped]

/-! ## Operations -/

/-- How an operation moves the phase of a rollout. -/
inductive Moves (app : ApplicationSpec) : Operation → ApplicationSpec → Prop where
  | activate {now a target} {app' : ApplicationSpec} :
    app.canary.phase = .inactive →
    app'.canary.phase = .stepping →
    Moves app (.activate now a target) app'
  | tick {now : Moment} {t : Tick} :
    (Canary.tick app now).value = .ok t →
    TickMoves app t →
    (HasSteps app → (t.Finished ↔ app.canary.phase = .stepping ∧ t.app.canary.phase = .complete)) →
    Moves app (.tick now) t.app
  | rollback {app' : ApplicationSpec} :
    app'.canary.phase = .inactive →
    Moves app .rollback app'
  | reset {app' : ApplicationSpec} :
    app.canary.phase ≠ .stepping →
    app'.canary.phase = .inactive →
    Moves app .reset app'

/-- Every operation moves the phase in its way. -/
lemma Operation.moves (performed : op.perform app = .ok app') : Moves app op app' := by
  cases Operation.performs performed with
  | begun _ adm => exact .activate adm.inactive (CanarySpec.phase_eq_stepping_iff.2 rfl)
  | ticked tk => exact .tick (tick_ok_iff.2 tk) tk.moves tk.moves.finished_iff
  | rolledBack => exact .rollback rolledBack_phase
  | reset hp => exact .reset hp rfl

/-- A tick leaves the number of steps as it is, and activates no rollout. -/
lemma Ticks.hasSteps (tk : Ticks app now t) (h : HasSteps app) : HasSteps t.app := by
  cases tk with
  | idle => exact h
  | early => exact h
  | step =>
    simp only [stepTick, settle]
    split
    · exact fun ha => absurd ha Bool.false_ne_true
    · exact h

/-- Every operation leaves an active rollout with steps. -/
lemma Operation.hasSteps (op : Operation) (h : HasSteps app)
    (performed : op.perform app = .ok app') : HasSteps app' := by
  cases Operation.performs performed with
  | begun _ adm => exact fun _ => Int.lt_of_lt_of_le (by decide) adm.least
  | ticked tk => exact tk.hasSteps h
  | rolledBack => exact fun ha => absurd ha Bool.false_ne_true
  | reset => exact fun ha => absurd ha Bool.false_ne_true

/-- Behind any others, every operation moves the phase in its way; and a rollout has steps where it
is active if it was so at first. -/
theorem run_moves (before : List Operation) (performed : op.perform (run app before) = .ok app') :
    Moves (run app before) op app' ∧ (HasSteps app → HasSteps (run app before)) :=
  ⟨Operation.moves performed, run_preserves Operation.hasSteps before⟩

/-- The phase of the shop when its first step is made. -/
theorem shop_moves :
    let before := [.activate (shopClock 0) shopActivation shopTarget]
    ∃ app', (Operation.tick (shopClock 1)).perform (run shop before) = .ok app' ∧
      Moves (run shop before) (.tick (shopClock 1)) app' ∧ HasSteps (run shop before) := by
  intro before
  obtain ⟨app', performed⟩ := Outcome.exists_ok_of_toBool (show
    ((Operation.tick (shopClock 1)).perform (run shop before)).toBool = true by decide +kernel)
  obtain ⟨moves, steps⟩ := run_moves before performed
  exact ⟨app', performed, moves, steps fun active => absurd active Bool.false_ne_true⟩

/-- An active rollout without steps is admitted, and the tick that finishes it leaves it inactive. -/
theorem shop_without_steps :
    ApplicationSpec.shape.Admits (shopMidway 0 0 []) ∧ ∃ t,
      (tick (shopMidway 0 0 []) (shopClock 0)).value = .ok t ∧ t.Finished ∧
        (shopMidway 0 0 []).canary.phase = .stepping ∧ t.app.canary.phase = .inactive := by
  obtain ⟨t, ticked, e⟩ := Outcome.map_ok_iff.1 (show
    (tick (shopMidway 0 0 []) (shopClock 0)).value.map
        (fun t => (t.events.map (·.name), t.app.canary.phase)) =
      .ok ([.started, .nextStep, .finished], .inactive) by decide +kernel)
  obtain ⟨names, phase⟩ := Prod.mk.inj e
  have finished : t.Finished := by
    rw [Tick.finished_iff, names]
    decide
  exact ⟨shopMidway_admits (by decide) (by decide) [], t, ticked, finished, rfl, phase⟩

end Canary

end Chartwright
