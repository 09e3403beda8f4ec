import Chartwright.Proofs.Rollout.Run

/-!
# Clocks with other offsets

A rollout goes by instants and not by what a clock on the wall shows: ticks at readings of a clock
with another offset, or with none, come to the same, and so do those of a rollout whose schedule has
another offset. Only the years end at readings and not at instants, so the runs that are compared
are those that stay within them.
-/

namespace Chartwright.Canary

/-- Moments that are the same instant, with any offsets. -/
def SameInstant (m m' : Moment) : Prop := m.instant = m'.instant

/-- An application with another schedule for the next step. -/
def reschedule (app : ApplicationSpec) (next : Option Moment) : ApplicationSpec :=
  { app with canary := { app.canary with nextScheduledTime := next } }

/-- Applications whose next steps are scheduled for the same instant, and which are the same
otherwise. -/
inductive Retimed (app : ApplicationSpec) : ApplicationSpec → Prop where
  | mk {next} :
    Option.Rel SameInstant app.canary.nextScheduledTime next →
    Retimed app (reschedule app next)

/-- Ticks with the same outcome, but for the offset of the schedule. -/
structure SameTick (t t' : Tick) : Prop where
  app : Retimed t.app t'.app
  advanced : t.advanced = t'.advanced
  phase : t.phase = t'.phase
  events : t.events = t'.events

/-- Whether a tick makes a step behind which the next one would be due behind the last year. -/
def RunsOver (app : ApplicationSpec) (now : Moment) : Prop :=
  app.canary.active = true ∧ 2 ≤ app.deployments.length ∧
    ∃ due ∈ app.canary.nextScheduledTime, due.instant ≤ now.instant ∧
      due.inUtc.add? app.canary.stepInterval = none

/-- Whether ticks at readings of the clock stay within the years. -/
def InRange (app : ApplicationSpec) : List Moment → Prop
  | [] => True
  | now :: readings => ¬ RunsOver app now ∧ InRange (behind app (tick app now).value) readings

instance (m m' : Moment) : Decidable (SameInstant m m') :=
  inferInstanceAs (Decidable (m.instant = m'.instant))

instance (app : ApplicationSpec) (now : Moment) : Decidable (RunsOver app now) :=
  inferInstanceAs (Decidable (_ ∧ _))

instance InRange.decidable (app : ApplicationSpec) : ∀ readings, Decidable (InRange app readings)
  | [] => .isTrue trivial
  | now :: readings =>
    have := InRange.decidable (behind app (tick app now).value) readings
    inferInstanceAs (Decidable (¬ RunsOver app now ∧ InRange _ readings))

section

variable {app app' : ApplicationSpec} {now now' next next' due due' : Moment}
  {scheduled : Option Moment} {source dest : DeploymentSpec} {rest : List DeploymentSpec}
  {moved pair : Pair} {splits : List (String × Int × Int)}

lemma exists_pair_of_two_le {ds : List DeploymentSpec} (two : 2 ≤ ds.length) :
    ∃ source dest rest, ds = source :: dest :: rest := by
  match ds with
  | source :: dest :: rest => exact ⟨source, dest, rest, rfl⟩

lemma SameInstant.add? {interval : Duration} (same : SameInstant due due')
    (h : due.inUtc.add? interval = some next) (h' : due'.inUtc.add? interval = some next') :
    SameInstant next next' := by
  have later := Moment.instant_of_add? h
  have later' := Moment.instant_of_add? h'
  rw [Moment.instant_inUtc] at later later'
  rw [SameInstant, later, later', same]

/-- The end of a rollout has no schedule. -/
lemma Retimed.settle (retimed : Retimed app app') (dest : DeploymentSpec) :
    Retimed (settle app dest) (settle app' dest) := by
  cases retimed with
  | @mk scheduled same =>
    have alike : isLast (reschedule app scheduled).canary dest = isLast app.canary dest := rfl
    unfold Canary.settle
    rw [alike]
    by_cases last : isLast app.canary dest = true
    · rw [if_pos last, if_pos last]
      exact .mk .none
    · rw [if_neg last, if_neg last]
      exact .mk same

lemma Retimed.phase (retimed : Retimed app app') : app.canary.phase = app'.canary.phase := by
  cases retimed with
  | mk => rfl

/-- What a step comes to depends on its schedule no more than the next schedule does. -/
lemma stepTick_retimed (same : SameInstant next next') (scheduled : Option Moment) :
    SameTick (stepTick app moved pair rest next splits)
      (stepTick (reschedule app scheduled) moved pair rest next' splits) := by
  have retimed : Retimed (stepped app pair rest next)
      (stepped (reschedule app scheduled) pair rest next') := .mk (.some same)
  exact ⟨retimed.settle pair.dest, rfl, (retimed.settle pair.dest).phase, rfl⟩

/-- A step at two schedules for the same instant fails at both, or comes to the same. -/
lemma advance_retimed (same : SameInstant due due')
    (range : due.inUtc.add? app.canary.stepInterval ≠ none)
    (range' : due'.inUtc.add? app.canary.stepInterval ≠ none) (scheduled : Option Moment) :
    Outcome.Alike SameTick (advance app pair rest due).value
      (advance (reschedule app scheduled) pair rest due').value := by
  obtain ⟨next, hn⟩ := Option.ne_none_iff_exists'.1 range
  obtain ⟨next', hn'⟩ := Option.ne_none_iff_exists'.1 range'
  have interval : (reschedule app scheduled).canary.stepInterval = app.canary.stepInterval := rfl
  have weight : (reschedule app scheduled).canary.stepWeight = app.canary.stepWeight := rfl
  have target : (reschedule app scheduled).canary.target = app.canary.target := rfl
  rw [(advance_gives app pair rest due).value_eq,
    (advance_gives (reschedule app scheduled) pair rest due').value_eq, interval, weight, target,
    hn, hn']
  cases (pair.shift app.canary.stepWeight).scaled? app.canary.target with
  | none => exact .error
  | some scaled => exact .ok (stepTick_retimed (same.add? hn hn') scheduled)

/-- A tick of an active rollout with a schedule, at two readings of the same instant. -/
lemma tick_retimed_of_scheduled (active : app.canary.active = true)
    (deployments : app.deployments = source :: dest :: rest)
    (scheduled : app.canary.nextScheduledTime = some due) (same : SameInstant due due')
    (clock : SameInstant now now') (range : ¬ RunsOver app now)
    (range' : ¬ RunsOver (reschedule app (some due')) now') :
    Outcome.Alike SameTick (tick app now).value (tick (reschedule app (some due')) now').value := by
  have active' : (reschedule app (some due')).canary.active = true := active
  have deployments' : (reschedule app (some due')).deployments = source :: dest :: rest :=
    deployments
  have two : 2 ≤ app.deployments.length := by
    rw [deployments]
    exact Nat.le_add_left 2 _
  rw [tick_of_scheduled now active deployments scheduled,
    tick_of_scheduled now' active' deployments' rfl]
  by_cases early : now.instant < due.instant
  · have early' : now'.instant < due'.instant := by rwa [← clock, ← same]
    rw [if_pos early, if_pos early']
    refine .ok ⟨.mk ?_, rfl, rfl, rfl⟩
    rw [scheduled]
    exact .some same
  · have late : ¬ now'.instant < due'.instant := by rwa [← clock, ← same]
    rw [if_neg early, if_neg late]
    refine advance_retimed same (fun beyond => range ?_) (fun beyond => range' ?_) (some due')
    · exact ⟨active, two, due, scheduled, Int.not_lt.1 early, beyond⟩
    · exact ⟨active, two, due', rfl, Int.not_lt.1 late, beyond⟩

/-- One tick at two readings of the same instant. -/
lemma Retimed.tick (retimed : Retimed app app') (clock : SameInstant now now')
    (range : ¬ RunsOver app now) (range' : ¬ RunsOver app' now') :
    Outcome.Alike SameTick (tick app now).value (tick app' now').value := by
  cases retimed with
  | @mk scheduled' same =>
    cases active : app.canary.active with
    | false =>
      have inactive : (reschedule app scheduled').canary.active = false := active
      rw [tick_of_not_active now active, tick_of_not_active now' inactive]
      exact .ok ⟨.mk same, rfl, rfl, rfl⟩
    | true =>
      have active' : (reschedule app scheduled').canary.active = true := active
      rcases Nat.lt_or_ge app.deployments.length 2 with few | two
      · have few' : (reschedule app scheduled').deployments.length < 2 := few
        rw [tick_of_few now active few, tick_of_few now' active' few']
        exact .error
      · obtain ⟨source, dest, rest, deployments⟩ := exists_pair_of_two_le two
        cases scheduled : app.canary.nextScheduledTime with
        | none =>
          rw [scheduled] at same
          cases same
          rw [tick_of_unscheduled now active deployments scheduled,
            tick_of_unscheduled now' active' deployments rfl]
          exact .error
        | some due =>
          rw [scheduled] at same
          cases same with
          | some same =>
            exact tick_retimed_of_scheduled active deployments scheduled same clock range range'

/-- A tick that fails leaves an application as it is, and its schedule with it. -/
lemma Retimed.behind {x x' : Except CanaryProblem Tick} (retimed : Retimed app app')
    (alike : Outcome.Alike SameTick x x') : Retimed (behind app x) (Canary.behind app' x') := by
  cases alike with
  | error => exact retimed
  | ok same => exact same.app

end

/-- Ticks at readings of the same instants come to the same, one by one, if the next steps are
scheduled for the same instant, whatever the offsets are. -/
theorem poll_retimed {app app' : ApplicationSpec} {readings readings' : List Moment}
    (retimed : Retimed app app') (clocks : List.Forall₂ SameInstant readings readings')
    (range : InRange app readings) (range' : InRange app' readings') :
    List.Forall₂ (Outcome.Alike SameTick) (poll app readings) (poll app' readings') := by
  -- on the readings, for all applications that the first of them may find
  induction clocks generalizing app app' with
  | nil => exact .nil
  | cons clock _ ih =>
    have alike := retimed.tick clock range.1 range'.1
    exact .cons alike (ih (retimed.behind alike) range.2 range'.2)

/-- The clock of the shop elsewhere, which is minutes ahead. -/
def clockAhead (ahead minutes : Int) : Moment :=
  ⟨(minutes + ahead) * Moment.minuteMicroseconds, some (ahead * Moment.minuteMicroseconds)⟩

/-- The shop with a schedule from a clock that is two hours ahead, and readings from one without an
offset and one that is an hour ahead. -/
theorem shop_retimed :
    List.Forall₂ (Outcome.Alike SameTick)
      (poll (shopMidway 4 0 [("web", 4)]) [shopClock 0, shopClock 0, shopClock 1])
      (poll (reschedule (shopMidway 4 0 [("web", 4)]) (some (clockAhead 120 0)))
        [clockAhead 60 0, shopClock 0, clockAhead 60 1]) ∧
      (poll (shopMidway 4 0 [("web", 4)]) [shopClock 0, shopClock 0, shopClock 1]).map madeStep =
        [true, false, true] := by
  have retimed : Retimed (shopMidway 4 0 [("web", 4)])
      (reschedule (shopMidway 4 0 [("web", 4)]) (some (clockAhead 120 0))) := by
    refine .mk (.some ?_)
    show SameInstant (shopClock 0) (clockAhead 120 0)
    decide
  have clocks : List.Forall₂ SameInstant [shopClock 0, shopClock 0, shopClock 1]
      [clockAhead 60 0, shopClock 0, clockAhead 60 1] :=
    .cons (by decide) (.cons rfl (.cons (by decide) .nil))
  exact ⟨poll_retimed retimed clocks (by decide +kernel) (by decide +kernel), by decide +kernel⟩

end Chartwright.Canary
