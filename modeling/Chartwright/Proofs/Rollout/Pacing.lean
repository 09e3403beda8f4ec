import Chartwright.Proofs.Rollout.Events

/-!
# Pacing

The steps of a rollout are due at fixed intervals from its start, and each due tick makes one of
them, however late it comes: the schedule is carried on from the last due time and not from the
clock. `Course` is the invariant; it adds the schedule to what `Midway` says of the traffic.
-/

namespace Chartwright.Canary

/-- The instant at which a step of a rollout is due, by its number. -/
def Activation.stepDue (a : Activation) (started : Moment) (k : Nat) : Int :=
  started.instant + k * a.interval.microseconds

/-- Whether the years last up to the step behind the next one. -/
def Activation.InYears (a : Activation) (started : Moment) (k : Nat) : Prop :=
  (started.inUtc.add? ⟨(k + 2) * a.interval.microseconds⟩).isSome

/-- What one more step of a rollout leads to: to the step behind it, which is due an interval later,
or to the end. -/
inductive OneStep (a : Activation) (started : Moment) (k : Nat) (app : ApplicationSpec) : Prop where
  | next {due : Moment} :
    k + 1 < a.lastStep →
    app.canary.phase = .stepping →
    app.canary.currentStep = k + 1 →
    app.deployments.map (·.weight) = [a.sourceWeight (k + 1), a.destWeight (k + 1)] →
    app.canary.nextScheduledTime = some due →
    due.instant = a.stepDue started (k + 2) →
    OneStep a started k app
  | last :
    k + 1 = a.lastStep →
    app.canary.phase = .complete →
    app.deployments.map (·.weight) = [fullWeight] →
    OneStep a started k app

/-- What ticks do to a rollout that has made some steps, by the reading of the clock. -/
structure Paced (a : Activation) (started : Moment) (k : Nat) (app : ApplicationSpec) : Prop where
  scheduled : ∃ due ∈ app.canary.nextScheduledTime, due.instant = a.stepDue started (k + 1)
  waits : ∀ now, now.instant < a.stepDue started (k + 1) →
    (tick app now).value = .ok ⟨app, false, .stepping, []⟩
  advances_iff : ∀ now, (∃ t, (tick app now).value = .ok t ∧ t.advanced = true) ↔
    a.stepDue started (k + 1) ≤ now.instant ∧ a.InYears started k ∧ Splittable app.canary.target
  one_step : ∀ now t, (tick app now).value = .ok t → t.advanced = true →
    t.events.countP (·.name = .nextStep) = 1 ∧ OneStep a started k t.app
  /-- How late a tick comes makes no difference. -/
  whenever : ∀ now later, a.stepDue started (k + 1) ≤ now.instant →
    a.stepDue started (k + 1) ≤ later.instant → (tick app now).value = (tick app later).value

/-- A rollout that has made some steps, and has not ended, with its schedule. -/
structure Timely (r : Rollout) (started : Moment) (k : Nat) (app : ApplicationSpec) (pair : Pair) :
    Prop where
  midway : Midway r k app pair
  before : k < r.last
  interval : app.canary.stepInterval = r.activation.interval
  scheduled : app.canary.nextScheduledTime = some (dueAfter started.inUtc r.activation k)

/-- A rollout that is under way, or has made its last step. -/
inductive Course (r : Rollout) (started : Moment) (k : Nat) (app : ApplicationSpec) : Prop where
  | underway {pair} :
    Timely r started k app pair →
    Course r started k app
  | ended :
    app.canary.active = false →
    app.canary.phase = .complete →
    k = r.last →
    app.deployments.map (·.weight) = [fullWeight] →
    Course r started k app

section

variable {r : Rollout} {started now : Moment} {k : Nat} {app : ApplicationSpec} {pair q : Pair}
  {t : Tick} {splits : List (String × Int × Int)}

/-! ## The schedule -/

lemma instant_dueAfter_inUtc (a : Activation) (started : Moment) (k : Nat) :
    (dueAfter started.inUtc a k).instant = a.stepDue started (k + 1) := by
  rw [instant_dueAfter, Moment.instant_inUtc, Activation.stepDue]
  push_cast
  rfl

/-- The step behind the next one is due an interval later, if the years last. -/
lemma add?_dueAfter (a : Activation) (started : Moment) (k : Nat) :
    (dueAfter started.inUtc a k).inUtc.add? a.interval =
      started.inUtc.add? ⟨(k + 2) * a.interval.microseconds⟩ := by
  have wall : started.wall + (k + 1) * a.interval.microseconds + a.interval.microseconds =
      started.wall + (k + 2) * a.interval.microseconds := by
    ring
  refine Option.ext fun next => ?_
  rw [Moment.add?_eq_some, Moment.add?_eq_some]
  simp only [Moment.inUtc, dueAfter, wall, Option.getD_some]

lemma eq_dueAfter_of_add? {a : Activation} {next : Moment}
    (h : (dueAfter started.inUtc a k).inUtc.add? a.interval = some next) :
    next = dueAfter started.inUtc a (k + 1) := by
  rw [add?_dueAfter] at h
  obtain ⟨-, rfl⟩ := Moment.add?_eq_some.1 h
  have count : ((k + 1 : Nat) + 1 : Int) = k + 2 := by omega
  simp only [dueAfter, count]

/-! ## One tick -/

/-- A tick that comes too early changes nothing. -/
lemma Timely.tick_early (s : Timely r started k app pair)
    (early : now.instant < r.activation.stepDue started (k + 1)) :
    (tick app now).value = .ok ⟨app, false, .stepping, []⟩ := by
  rw [← instant_dueAfter_inUtc] at early
  exact tick_ok_iff.2 (.early s.midway.active s.midway.deployments s.scheduled early)

/-- What a due tick comes to does not depend on the clock. -/
lemma Timely.tick_due (s : Timely r started k app pair)
    (due : r.activation.stepDue started (k + 1) ≤ now.instant) :
    (tick app now).value =
      (advance app pair [] (dueAfter started.inUtc r.activation k)).value := by
  rw [← instant_dueAfter_inUtc] at due
  rw [tick_of_scheduled now s.midway.active s.midway.deployments s.scheduled, if_neg (not_lt.2 due)]

/-- A tick advances where it is due, unless the years end or units are too large. -/
lemma Timely.advances_iff (s : Timely r started k app pair) :
    (∃ t, (tick app now).value = .ok t ∧ t.advanced = true) ↔
      r.activation.stepDue started (k + 1) ≤ now.instant ∧ r.activation.InYears started k ∧
        Splittable app.canary.target := by
  -- a due tick fails only for the next due time or for the units, which are looked at in this order
  rcases lt_or_ge now.instant (r.activation.stepDue started (k + 1)) with early | due
  · refine iff_of_false ?_ (fun h => absurd h.1 (not_le.2 early))
    rintro ⟨t, ticked, advanced⟩
    rw [s.tick_early early] at ticked
    cases ticked
    cases advanced
  · have hw : 0 ≤ (pair.shift app.canary.stepWeight).source.weight := Int.le_max_left _ _
    rw [s.tick_due due, (advance_gives app pair [] _).value_eq, s.interval, add?_dueAfter,
      Activation.InYears, ← Pair.exists_scaled?_iff hw]
    cases started.inUtc.add? ⟨(k + 2) * r.activation.interval.microseconds⟩ with
    | none => simp
    | some next =>
      cases (pair.shift app.canary.stepWeight).scaled? app.canary.target with
      | none => simp
      | some scaled =>
        obtain ⟨q, splits⟩ := scaled
        simp [due, stepTick]

/-- Behind a step the schedule goes on, or the rollout has ended. -/
lemma Timely.settle {next : Moment} (s : Timely r started k app pair)
    (hn : (dueAfter started.inUtc r.activation k).inUtc.add? app.canary.stepInterval = some next)
    (hq : (pair.shift app.canary.stepWeight).scaled? app.canary.target = some (q, splits)) :
    Course r started (k + 1) (settle (stepped app q [] next) q.dest) := by
  have midway := (s.midway.moved next).scaled hq
  rw [s.interval] at hn
  unfold Canary.settle
  split
  case isTrue hl =>
    have last := midway.isLast_iff.1 hl
    have before := s.before
    have steps : 0 < (stepped app q [] next).canary.steps := by
      have hmin : r.activation.lastStep ≤ r.activation.steps := Int.min_le_left _ _
      simp only [Rollout.last, midway.steps] at before ⊢
      omega
    have complete : (finish (stepped app q [] next) q.dest).canary.phase = .complete :=
      (finish_phase q.dest).trans (if_pos steps)
    exact .ended rfl complete (by omega) rfl
  case isFalse hl =>
    have before : k + 1 < r.last := Nat.lt_of_not_le (mt midway.isLast_iff.2 hl)
    exact .underway ⟨midway, before, s.interval, congrArg some (eq_dueAfter_of_add? hn)⟩

/-- Every tick goes on with the course of a rollout. -/
lemma Course.tick (c : Course r started k app) (tk : Ticks app now t) :
    Course r started (k + if t.advanced then 1 else 0) t.app := by
  cases c with
  | underway s =>
    cases tk with
    | idle inactive =>
      rw [s.midway.active] at inactive
      cases inactive
    | early => exact .underway s
    | step _ hd hs _ hn hq =>
      cases hd.symm.trans s.midway.deployments
      cases hs.symm.trans s.scheduled
      exact s.settle hn hq
  | ended inactive complete hk full =>
    cases tk with
    | idle => exact .ended inactive complete hk full
    | early active =>
      rw [inactive] at active
      cases active
    | step active =>
      rw [inactive] at active
      cases active

/-- A step is reported once. -/
lemma Rollout.countP_report (r : Rollout) (k : Nat) :
    (r.report k).countP (·.name = .nextStep) = 1 := by
  have first : (if k = 1 then [r.event .started []] else []).countP (·.name = .nextStep) = 0 := by
    split <;> rfl
  have last :
      (if k = r.last then [r.event .finished []] else []).countP (·.name = .nextStep) = 0 := by
    split <;> rfl
  have units : ((r.shares k).map fun s => r.event .stepTarget [
      ("process-name", s.1), ("source-process-units", toString s.2.1),
      ("dest-process-units", toString s.2.2)]).countP (·.name = .nextStep) = 0 := by
    rw [List.countP_map, List.countP_eq_zero]
    exact fun s _ => by simp [Rollout.event]
  rw [report, opened, step, List.countP_append, List.countP_append, List.countP_cons, first, last,
    units]
  rfl

/-- A tick that advances reports one step, and makes it. -/
lemma Timely.one_step (s : Timely r started k app pair) (tk : Ticks app now t)
    (advanced : t.advanced = true) :
    t.events.countP (·.name = .nextStep) = 1 ∧ OneStep r.activation started k t.app := by
  have last : (r.last : Int) = r.activation.lastStep := by
    have before := s.before
    simp only [Rollout.last] at before ⊢
    omega
  constructor
  · cases s.midway.tick s.before tk with
    | early => cases advanced
    | next _ _ events => rw [events, r.countP_report]
    | last _ _ events => rw [events, r.countP_report]
  · have behind := (Course.underway s).tick tk
    rw [advanced, if_pos rfl] at behind
    cases behind with
    | underway s' =>
      have before : (k : Int) + 1 < r.last := by exact_mod_cast s'.before
      have stepping := CanarySpec.phase_eq_stepping_iff.2 s'.midway.active
      have weights : t.app.deployments.map (·.weight) =
          [r.activation.sourceWeight (k + 1), r.activation.destWeight (k + 1)] := by
        rw [s'.midway.deployments, List.map_cons, List.map_singleton, s'.midway.source_weight,
          s'.midway.dest_weight]
      exact .next (last ▸ before) stepping s'.midway.current weights s'.scheduled
        (instant_dueAfter_inUtc _ _ _)
    | ended _ complete hk full =>
      have end_of : (k : Int) + 1 = r.last := by exact_mod_cast hk
      exact .last (end_of.trans last) complete full

/-- Ticks of a rollout are paced while it is under way. -/
lemma Timely.paced (s : Timely r started k app pair) : Paced r.activation started k app where
  scheduled := ⟨_, s.scheduled, instant_dueAfter_inUtc _ _ _⟩
  waits _ early := s.tick_early early
  advances_iff _ := s.advances_iff
  one_step _ _ ticked advanced := s.one_step (tick_ok_iff.1 ticked) advanced
  whenever _ _ due due' := (s.tick_due due).trans (s.tick_due due').symm

/-! ## All ticks -/

/-- A rollout that was started is at the first place of its course. -/
lemma Activation.Admissible.course {a : Activation} {due : Moment} {old new : DeploymentSpec}
    (adm : a.Admissible app) (two : app.deployments = [old, new])
    (hn : now.inUtc.add? a.interval = some due) :
    Course ⟨app.name, old.version, new.version, a⟩ now 0 (begun app now due a) := by
  have midway := adm.midway two now due
  have before : 0 < Rollout.last ⟨app.name, old.version, new.version, a⟩ :=
    Int.lt_toNat.2 adm.lastStep_pos
  obtain ⟨-, rfl⟩ := Moment.add?_eq_some.1 hn
  refine .underway ⟨midway, before, rfl, ?_⟩
  simp only [begun, dueAfter, Nat.cast_zero, Int.zero_add, Int.one_mul]

/-- The course of a rollout behind ticks at any readings of the clock. -/
lemma Course.polled (c : Course r started 0 app) (readings : List Moment) :
    Course r started (stepsMade app readings) (polled app readings) := by
  have behind := polled_preserves (P := Course r started) (fun c tk => c.tick tk) readings c
  rwa [Nat.zero_add] at behind

/-- No tick advances before its step is due. -/
lemma Course.due_of_advanced (c : Course r started k app)
    (ticked : (Canary.tick app now).value = .ok t) (advanced : t.advanced = true) :
    r.activation.stepDue started (k + 1) ≤ now.instant := by
  cases c with
  | underway s => exact (s.advances_iff.1 ⟨t, ticked, advanced⟩).1
  | ended inactive =>
    rw [tick_of_not_active now inactive] at ticked
    cases ticked
    cases advanced

/-- A rollout on its course is paced while it is stepping. -/
lemma Course.paced (c : Course r started k app) (stepping : app.canary.phase = .stepping) :
    Paced r.activation started k app := by
  cases c with
  | underway s => exact s.paced
  | ended _ complete =>
    rw [complete] at stepping
    cases stepping

end

/-- Whatever the readings of the clock were, and whichever ticks failed: while a rollout is
stepping, its next step is due one interval later for each step that was made, and a tick makes this
one step if it is due, unless the years end or units are too large. No step is made before it is
due. -/
theorem activated_paced {app started : ApplicationSpec} {now : Moment} {a : Activation}
    {target : Document} (activated : (Operation.activate now a target).perform app = .ok started)
    (readings : List Moment) :
    let b : Activation := { a with target := started.canary.target }
    let k := stepsMade started readings
    let here := polled started readings
    (here.canary.phase = .stepping → Paced b now k here) ∧
      ∀ reading t, (tick here reading).value = .ok t → t.advanced = true →
        b.stepDue now (k + 1) ≤ reading.instant := by
  intro b k here
  obtain ⟨units, due, adm, hn, rfl⟩ := Operation.activate_inv activated
  obtain ⟨old, new, two⟩ := List.length_eq_two.1 adm.two
  have course := (adm.course two hn).polled readings
  exact ⟨course.paced, fun _ _ => course.due_of_advanced⟩

/-- The rollout of the shop, when its second step is made eight minutes late. -/
theorem shop_paced :
    (Operation.activate (shopClock 0) shopActivation shopTarget).perform shop = .ok shopStarted ∧
      stepsMade shopStarted [shopClock 1, shopClock 1, shopClock 10] = 2 ∧
      Paced { shopActivation with target := [("web", 4)] } (shopClock 0) 2
        (polled shopStarted [shopClock 1, shopClock 1, shopClock 10]) := by
  have activated : (Operation.activate (shopClock 0) shopActivation shopTarget).perform shop =
      .ok shopStarted := by decide +kernel
  have made : stepsMade shopStarted [shopClock 1, shopClock 1, shopClock 10] = 2 := by
    decide +kernel
  have stepping : (polled shopStarted [shopClock 1, shopClock 1, shopClock 10]).canary.phase =
      .stepping := by decide +kernel
  have paced := (activated_paced activated [shopClock 1, shopClock 1, shopClock 10]).1 stepping
  rw [made] at paced
  exact ⟨activated, made, paced⟩

/-- More units than a double can be. -/
def oversizedTarget : Document := .object [("web", .int (2 ^ 1024))]

/-- The first step of the shop is due and the years last, but the tick fails. -/
theorem oversized_shop_stalls : ∃ started,
    (Operation.activate (shopClock 0) shopActivation oversizedTarget).perform shop = .ok started ∧
      started.canary.phase = .stepping ∧
      shopActivation.stepDue (shopClock 0) 1 ≤ (shopClock 1).instant ∧
      shopActivation.InYears (shopClock 0) 0 ∧
      (tick started (shopClock 1)).value = .error .overflow := by
  obtain ⟨started, activated, e⟩ := Outcome.map_ok_iff.1 (show
    ((Operation.activate (shopClock 0) shopActivation oversizedTarget).perform shop).map
        (fun app => (app.canary.phase, (tick app (shopClock 1)).value)) =
      .ok (.stepping, .error .overflow) by decide +kernel)
  obtain ⟨stepping, stalled⟩ := Prod.mk.inj e
  have years : shopActivation.InYears (shopClock 0) 0 := by
    unfold Activation.InYears
    decide +kernel
  exact ⟨started, activated, stepping, by decide +kernel, years, stalled⟩

end Chartwright.Canary
