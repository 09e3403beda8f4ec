import Chartwright.Proofs.Rollout.Pacing

/-!
# Steps that share the traffic evenly

Without a weight of its own each step moves the whole part of an even share, and what is left of the
traffic comes with the last. That rest is smaller than the number of steps, but not always smaller
than a step: then the last step moves more traffic than two others.
-/

namespace Chartwright.Canary

/-- The traffic of the newest deployment. -/
def newestWeight (app : ApplicationSpec) : Int :=
  (app.deployments.map (·.weight)).getLast?.getD 0

/-- By how much a tick raises the traffic of the newest deployment. -/
def rise (app : ApplicationSpec) (t : Tick) : Int := newestWeight t.app - newestWeight app

/-- No tick that advances moves the traffic of two steps, whatever the readings of the clock are. -/
def Gradual (started : ApplicationSpec) : Prop :=
  ∀ readings reading t, (tick (polled started readings) reading).value = .ok t →
    t.advanced = true → rise (polled started readings) t < 2 * started.canary.stepWeight

section

variable {r : Rollout} {a : Activation} {started now : Moment} {k : Nat} {app : ApplicationSpec}
  {t : Tick}

/-! ## Weights -/

lemma Activation.effectiveWeight_of_even (even : a.stepWeight = none) :
    a.effectiveWeight = fullWeight / a.steps := by
  rw [Activation.effectiveWeight, even, Option.getD_none]

/-- Even steps never overshoot. -/
lemma Activation.destWeight_of_even (even : a.stepWeight = none) (positive : 0 < a.steps)
    (hk : k ≤ a.steps) : a.destWeight k = k * (fullWeight / a.steps) := by
  have share : 0 ≤ fullWeight / a.steps := Int.ediv_nonneg (by decide) positive.le
  have all : a.steps * (fullWeight / a.steps) ≤ fullWeight := Int.mul_ediv_self_le positive.ne'
  have some : k * (fullWeight / a.steps) ≤ a.steps * (fullWeight / a.steps) :=
    Int.mul_le_mul_of_nonneg_right hk share
  rw [Activation.destWeight, Activation.effectiveWeight_of_even even]
  exact min_eq_right (some.trans all)

/-- The rise of a tick that advances: an even share, and the rest with the last. -/
lemma Course.rise_of_even (c : Course r started k app) (even : r.activation.stepWeight = none)
    (least : minimumSteps ≤ r.activation.steps) (ticked : (Canary.tick app now).value = .ok t)
    (advanced : t.advanced = true) :
    rise app t = fullWeight / r.activation.steps +
      if t.app.canary.phase = .complete then fullWeight % r.activation.steps else 0 := by
  have positive : 0 < r.activation.steps := Int.lt_of_lt_of_le (by decide) least
  cases c with
  | ended inactive =>
    rw [tick_of_not_active now inactive] at ticked
    cases ticked
    cases advanced
  | @underway pair s =>
    have even_last := Activation.lastStep_of_even least s.midway.weight_pos even
    have before : newestWeight app = r.activation.destWeight k := by
      rw [newestWeight, s.midway.deployments]
      exact s.midway.dest_weight
    cases (s.one_step (tick_ok_iff.1 ticked) advanced).2 with
    | next hk stepping _ weights =>
      have behind : newestWeight t.app = r.activation.destWeight (k + 1) := by
        rw [newestWeight, weights]
        rfl
      rw [rise, before, behind, if_neg (by rw [stepping]; decide),
        Activation.destWeight_of_even even positive (by omega),
        Activation.destWeight_of_even even positive (by omega)]
      push_cast
      ring
    | last hk complete weights =>
      have behind : newestWeight t.app = fullWeight := by
        rw [newestWeight, weights]
        rfl
      have division := Int.mul_ediv_add_emod fullWeight r.activation.steps
      rw [rise, before, behind, if_pos complete,
        Activation.destWeight_of_even even positive (by omega)]
      rw [even_last] at hk
      rw [← hk] at division ⊢
      linarith

/-! ## Runs to the end -/

/-- Where the years last up to an interval behind some step, they last at all steps before. -/
lemma Activation.inYears_of_le {n : Int}
    (years : (started.inUtc.add? ⟨(n + 1) * a.interval.microseconds⟩).isSome)
    (positive : 0 < a.interval.microseconds)
    (first : 0 ≤ started.wall + a.interval.microseconds) (hk : k + 1 ≤ n) :
    a.InYears started k := by
  obtain ⟨m, hm⟩ := Option.isSome_iff_exists.1 years
  obtain ⟨⟨-, upper⟩, -⟩ := Moment.add?_eq_some.1 hm
  have least : a.interval.microseconds ≤ (k + 2) * a.interval.microseconds :=
    le_mul_of_one_le_left positive.le (by omega)
  have most : ((k : Int) + 2) * a.interval.microseconds ≤ (n + 1) * a.interval.microseconds :=
    Int.mul_le_mul_of_nonneg_right (by omega) positive.le
  simp only [Moment.inUtc] at upper
  refine Option.isSome_iff_exists.2 ⟨_, Moment.add?_eq_some.2 ⟨⟨?_, ?_⟩, rfl⟩⟩
  · simp only [Moment.inUtc]
    omega
  · simp only [Moment.inUtc]
    omega

/-- A due tick makes the next step if there is one. -/
lemma Course.exists_advance (c : Course r started k app) (before : k < r.last)
    (years : r.activation.InYears started k) (splittable : Splittable r.activation.target) :
    ∃ reading t, (Canary.tick app reading).value = .ok t ∧ t.advanced = true := by
  cases c with
  | ended _ _ last => exact absurd last before.ne
  | underway s =>
    rw [← s.midway.target] at splittable
    have due := (instant_dueAfter_inUtc r.activation started k).ge
    exact ⟨_, s.advances_iff.2 ⟨due, years, splittable⟩⟩

lemma Course.complete_of_last (c : Course r started r.last app) :
    app.canary.phase = .complete := by
  cases c with
  | underway s => exact absurd s.before (Nat.lt_irrefl r.last)
  | ended _ complete => exact complete

/-- Every number of steps is made at some readings of the clock, up to the last step. -/
lemma Course.exists_stepsMade (c : Course r started 0 app)
    (years : ∀ k < r.last, r.activation.InYears started k)
    (splittable : Splittable r.activation.target) (hk : k ≤ r.last) :
    ∃ readings, stepsMade app readings = k := by
  induction k with
  | zero => exact ⟨[], rfl⟩
  | succ k ih =>
    -- one more reading, when the next step is due
    obtain ⟨readings, made⟩ := ih (by omega)
    have here := c.polled readings
    rw [made] at here
    obtain ⟨reading, t, ticked, advanced⟩ := here.exists_advance hk (years k hk) splittable
    refine ⟨readings ++ [reading], ?_⟩
    rw [stepsMade_concat, made, ticked, madeStep, advanced]
    rfl

/-- Some tick makes the last step. -/
lemma Course.exists_complete (c : Course r started 0 app) (some : 0 < r.last)
    (years : ∀ k < r.last, r.activation.InYears started k)
    (splittable : Splittable r.activation.target) :
    ∃ readings reading t, (Canary.tick (Canary.polled app readings) reading).value = .ok t ∧
      t.advanced = true ∧ t.app.canary.phase = .complete := by
  obtain ⟨k, hk⟩ : ∃ k, r.last = k + 1 := Nat.exists_eq_add_one.2 some
  have before : k < r.last := by omega
  obtain ⟨readings, made⟩ := c.exists_stepsMade years splittable before.le
  have here := c.polled readings
  rw [made] at here
  obtain ⟨reading, t, ticked, advanced⟩ := here.exists_advance before (years k before) splittable
  have behind := here.tick (tick_ok_iff.1 ticked)
  rw [advanced, if_pos rfl, ← hk] at behind
  exact ⟨readings, reading, t, ticked, advanced, behind.complete_of_last⟩

/-- No tick moves the traffic of two steps where the rest is smaller than a step. -/
lemma Course.gradual (c : Course r started 0 app) (even : r.activation.stepWeight = none)
    (least : minimumSteps ≤ r.activation.steps)
    (weight : app.canary.stepWeight = fullWeight / r.activation.steps)
    (less : fullWeight % r.activation.steps < app.canary.stepWeight) : Gradual app := by
  have positive : 0 < r.activation.steps := Int.lt_of_lt_of_le (by decide) least
  have rest_nonneg : 0 ≤ fullWeight % r.activation.steps := Int.emod_nonneg _ positive.ne'
  intro readings reading t ticked advanced
  rw [(c.polled readings).rise_of_even even least ticked advanced, ← weight]
  split <;> omega

/-- Where no tick moves the traffic of two steps, the rest is smaller than a step: the last tick
moves both. -/
lemma Course.rest_lt (c : Course r started 0 app) (even : r.activation.stepWeight = none)
    (least : minimumSteps ≤ r.activation.steps)
    (weight : app.canary.stepWeight = fullWeight / r.activation.steps) (some : 0 < r.last)
    (years : ∀ k < r.last, r.activation.InYears started k)
    (splittable : Splittable r.activation.target) (gradual : Gradual app) :
    fullWeight % r.activation.steps < app.canary.stepWeight := by
  obtain ⟨readings, reading, t, ticked, advanced, complete⟩ :=
    c.exists_complete some years splittable
  have small := gradual readings reading t ticked advanced
  rw [(c.polled readings).rise_of_even even least ticked advanced, if_pos complete,
    ← weight] at small
  omega

end

/-- Every tick that advances raises the traffic of the new deployment by the weight of a step, and
the last by the rest as well. None of them moves the traffic of two steps where that rest is smaller
than a step; and where the rollout can run to its end, only there. -/
theorem even_steps_rise {app started : ApplicationSpec} {now : Moment} {a : Activation}
    {target : Document} (activated : (Operation.activate now a target).perform app = .ok started)
    (even : a.stepWeight = none) :
    started.canary.stepWeight = fullWeight / a.steps ∧
      (∀ readings reading t, (tick (polled started readings) reading).value = .ok t →
        t.advanced = true →
        rise (polled started readings) t = started.canary.stepWeight +
          if t.app.canary.phase = .complete then fullWeight % a.steps else 0) ∧
      (fullWeight % a.steps < started.canary.stepWeight → Gradual started) ∧
      ((now.inUtc.add? ⟨(a.steps + 1) * a.interval.microseconds⟩).isSome →
        Splittable started.canary.target → Gradual started →
        fullWeight % a.steps < started.canary.stepWeight) := by
  obtain ⟨units, due, adm, hn, rfl⟩ := Operation.activate_inv activated
  obtain ⟨old, new, two⟩ := List.length_eq_two.1 adm.two
  have course := adm.course two hn
  have weight : (begun app now due { a with target := units }).canary.stepWeight =
      fullWeight / a.steps := Activation.effectiveWeight_of_even even
  refine ⟨weight, fun readings _ _ ticked advanced => ?_, course.gradual even adm.least weight,
    fun years => course.rest_lt even adm.least weight (Int.lt_toNat.2 adm.lastStep_pos) ?_⟩
  · rw [weight]
    exact (course.polled readings).rise_of_even even adm.least ticked advanced
  · intro k hk
    have all := Activation.lastStep_of_even adm.least adm.weight_pos even
    have before := Int.lt_toNat.1 hk
    rw [all] at before
    exact Activation.inYears_of_le years adm.positive (Moment.add?_eq_some.1 hn).1.1 before

/-- The numbers of steps with a rest that is smaller than a step. -/
example : (List.range' 2 99).filter (fun n : Nat => fullWeight % (n : Int) < fullWeight / n) =
    [2, 3, 4, 5, 6, 7, 8, 9, 10, 11, 12, 14, 16, 20, 25, 33, 50, 100] := by decide

/-- Even steps, one in a minute. -/
def evenActivation (steps : Int) : Activation := ⟨steps, ⟨60000000⟩, none, []⟩

/-- The shop when it has started even steps to the target. -/
def evenStarted (steps : Int) : ApplicationSpec :=
  begun shop (shopClock 0).inUtc (shopClock 1).inUtc
    { evenActivation steps with target := [("web", 4)] }

/-- The last of three steps moves one percent more than the others. -/
theorem three_steps_rise : ∃ t,
    (Operation.activate (shopClock 0) (evenActivation 3) shopTarget).perform shop =
        .ok (evenStarted 3) ∧
      (tick (polled (evenStarted 3) [shopClock 1, shopClock 2]) (shopClock 3)).value = .ok t ∧
      rise (polled (evenStarted 3) [shopClock 1, shopClock 2]) t = 34 ∧
      Gradual (evenStarted 3) := by
  have activated : (Operation.activate (shopClock 0) (evenActivation 3) shopTarget).perform shop =
      .ok (evenStarted 3) := by decide +kernel
  obtain ⟨t, ticked, e⟩ := Outcome.map_ok_iff.1 (show
    (tick (polled (evenStarted 3) [shopClock 1, shopClock 2]) (shopClock 3)).value.map
        (fun t => (t.advanced, t.app.canary.phase)) = .ok (true, .complete) by decide +kernel)
  obtain ⟨advanced, complete⟩ := Prod.mk.inj e
  obtain ⟨weight, rises, gradual, -⟩ := even_steps_rise activated rfl
  have last := rises [shopClock 1, shopClock 2] (shopClock 3) t ticked advanced
  rw [if_pos complete, weight] at last
  exact ⟨t, activated, ticked, last, gradual (by decide)⟩

/-- The last of thirteen steps of seven percent moves sixteen. -/
theorem thirteen_steps_jump :
    (Operation.activate (shopClock 0) (evenActivation 13) shopTarget).perform shop =
        .ok (evenStarted 13) ∧
      (evenStarted 13).canary.stepWeight = 7 ∧
      (∃ t, (tick (polled (evenStarted 13) ((List.range' 1 12).map fun k => shopClock k))
            (shopClock 13)).value = .ok t ∧
        t.advanced = true ∧ t.app.canary.phase = .complete ∧
        rise (polled (evenStarted 13) ((List.range' 1 12).map fun k => shopClock k)) t = 16) ∧
      ¬ Gradual (evenStarted 13) := by
  have activated : (Operation.activate (shopClock 0) (evenActivation 13) shopTarget).perform shop =
      .ok (evenStarted 13) := by decide +kernel
  obtain ⟨t, ticked, e⟩ := Outcome.map_ok_iff.1 (show
    (tick (polled (evenStarted 13) ((List.range' 1 12).map fun k => shopClock k))
        (shopClock 13)).value.map (fun t => (t.advanced, t.app.canary.phase,
          rise (polled (evenStarted 13) ((List.range' 1 12).map fun k => shopClock k)) t)) =
      .ok (true, .complete, 16) by decide +kernel)
  obtain ⟨advanced, e⟩ := Prod.mk.inj e
  obtain ⟨complete, jump⟩ := Prod.mk.inj e
  refine ⟨activated, by decide, ⟨t, ticked, advanced, complete, jump⟩, fun gradual => ?_⟩
  have small := gradual _ _ t ticked advanced
  rw [jump] at small
  exact absurd small (by decide)

end Chartwright.Canary
