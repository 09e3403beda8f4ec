import Chartwright.Proofs.Rollout.Run
import Chartwright.Proofs.Rollout.Units

/-!
# Completion

A rollout that was started runs to its end in a number of steps that is known from the start, and
what it comes to is known as well. The clock decides when a step is made and nothing else: `Stage`
is the place of a rollout after a number of steps, whatever the readings of the clock were.
-/

namespace Chartwright.Canary

/-- The number of steps that a rollout makes: it ends when all steps are made, or when the new
deployment has all the traffic, whichever comes first. -/
def Activation.lastStep (a : Activation) : Int :=
  min a.steps ((fullWeight + a.effectiveWeight - 1) / a.effectiveWeight)

/-- The units of processes at the end of a rollout: those of the target, and one outside of it.
Without a target none changes. -/
def finalUnits (target : Dict String Int) (ps : List ProcessSpec) : List ProcessSpec :=
  if target = [] then ps
  else ps.map fun p => { p with units := some ((Dict.get? target p.name).getD 1) }

/-- A deployment at the end of a rollout to it. -/
def conclusion (target : Dict String Int) (d : DeploymentSpec) : DeploymentSpec :=
  { d with processes := finalUnits target d.processes, weight := fullWeight }

/-- An application at the end of the rollout that was started in it. -/
def completed (started : ApplicationSpec) : ApplicationSpec :=
  { started with
    deployments := (started.deployments.drop 1).map (conclusion started.canary.target)
    canary := { started.canary with
      active := false
      currentStep := started.canary.steps
      nextScheduledTime := none } }

/-- The outcomes of ticks at readings of the clock, one after the other. -/
def ticks (app : ApplicationSpec) : List Moment → Except CanaryProblem (List Tick)
  | [] => .ok []
  | now :: readings => do
    let t ← (tick app now).value
    let ts ← ticks t.app readings
    return t :: ts

/-- The application behind some ticks. -/
def reached (app : ApplicationSpec) (ts : List Tick) : ApplicationSpec :=
  ts.foldl (fun _ t => t.app) app

/-- How many of some ticks made a step. -/
def advances (ts : List Tick) : Nat := ts.countP (·.advanced)

/-- What every tick preserves, by the number of steps that were made, ticks preserve. -/
lemma ticks_preserve {P : Nat → ApplicationSpec → Prop}
    (hstep : ∀ {k app now t}, P k app → (tick app now).value = .ok t →
      P (k + if t.advanced then 1 else 0) t.app)
    {readings : List Moment} {k app ts} (h : P k app) (ticked : ticks app readings = .ok ts) :
    P (k + advances ts) (reached app ts) := by
  -- on the readings, for all applications that the first of them may find
  induction readings generalizing k app ts with
  | nil =>
    cases ticked
    exact h
  | cons now readings ih =>
    obtain ⟨t, ht, hr⟩ := Outcome.bind_ok_iff.1 ticked
    obtain ⟨ts, hts, e⟩ := Outcome.bind_ok_iff.1 hr
    cases e
    have count : k + advances (t :: ts) = (k + if t.advanced then 1 else 0) + advances ts := by
      simp only [advances, List.countP_cons]
      omega
    rw [count]
    exact ih (hstep h ht) hts

/-! ## The last step -/

/-- A step is the last one where all steps are made or the new deployment has all the traffic. -/
lemma Activation.lastStep_le_iff {a : Activation} (hw : 0 < a.effectiveWeight) {k : Int} :
    a.lastStep ≤ k ↔ a.steps ≤ k ∨ fullWeight ≤ k * a.effectiveWeight := by
  have hc : (fullWeight + a.effectiveWeight - 1) / a.effectiveWeight ≤ k ↔
      fullWeight ≤ k * a.effectiveWeight := by
    rw [← Int.lt_add_one_iff, Int.ediv_lt_iff_lt_mul hw, Int.add_mul, Int.one_mul]
    omega
  unfold Activation.lastStep
  rw [← hc]
  omega

/-- Steps that share the traffic evenly are all made. -/
lemma Activation.lastStep_of_even {a : Activation} (least : minimumSteps ≤ a.steps)
    (hw : 0 < a.effectiveWeight) (even : a.stepWeight = none) : a.lastStep = a.steps := by
  have hs : 0 < a.steps := by
    simp only [minimumSteps] at least
    omega
  have he : a.effectiveWeight = fullWeight / a.steps := by
    simp only [Activation.effectiveWeight, even, Option.getD_none]
  have hle : a.steps * a.effectiveWeight ≤ fullWeight := by
    rw [he]
    exact Int.mul_ediv_self_le hs.ne'
  -- one step less does not move all the traffic
  have hnot : ¬ a.lastStep ≤ a.steps - 1 := by
    rw [Activation.lastStep_le_iff hw, Int.sub_mul, Int.one_mul]
    omega
  have hmin : a.lastStep ≤ a.steps := Int.min_le_left _ _
  omega

/-! ## Units at the end -/

/-- Without a target no process is given units. -/
lemma fullUnits_nil (ps : List ProcessSpec) : fullUnits [] ps = ps :=
  List.map_id ps

/-- Single units for some processes do not change the units at the end. -/
lemma finalUnits_singleUnits {target : Dict String Int} (ht : target ≠ []) (ps : List ProcessSpec) :
    finalUnits target (singleUnits target ps) = finalUnits target ps := by
  rw [finalUnits, finalUnits, if_neg ht, if_neg ht, singleUnits, List.map_map]
  apply List.map_congr_left
  intro p _
  simp only [Function.comp_apply]
  split <;> rfl

/-- Processes of the target get full units at the end, and the others keep their single ones. -/
lemma fullUnits_singleUnits {target : Dict String Int} (ht : target ≠ []) (ps : List ProcessSpec) :
    fullUnits target (singleUnits target ps) = finalUnits target ps := by
  rw [finalUnits, if_neg ht, fullUnits, singleUnits, List.map_map]
  apply List.map_congr_left
  intro p _
  cases h : Dict.get? target p.name with
  | none => simp [Dict.contains, h]
  | some units => simp [Dict.contains, h]

/-- Setting the units of a process does not change the units at the end. -/
lemma finalUnits_setUnits {target : Dict String Int} (ht : target ≠ []) (name : String)
    (units : Int) (ps : List ProcessSpec) :
    finalUnits target (setUnits name units ps) = finalUnits target ps := by
  rw [finalUnits, finalUnits, if_neg ht, if_neg ht]
  exact map_setUnits (fun _ _ => rfl) name units ps

/-- Splits do not change the end of a rollout. -/
lemma Pair.setAll_conclusion {target : Dict String Int} (ht : target ≠ []) (p : Pair)
    (splits : List (String × Int × Int)) :
    conclusion target (p.setAll splits).dest = conclusion target p.dest := by
  induction splits generalizing p with
  | nil => rfl
  | cons s rest ih =>
    refine (ih (p.setUnits s.1 s.2)).trans ?_
    simp only [conclusion, Pair.setUnits, finalUnits_setUnits ht]

/-- The units of a step do not change the end of a rollout, and with full units the end is there. -/
lemma Pair.scaled?_conclusion {p q : Pair} {target splits}
    (h : p.scaled? target = some (q, splits)) :
    conclusion target q.dest = conclusion target p.dest ∧
      { q.dest with processes := fullUnits target q.dest.processes, weight := fullWeight } =
        conclusion target p.dest := by
  unfold Pair.scaled? at h
  split at h
  case isTrue ht =>
    cases h
    subst ht
    refine ⟨rfl, ?_⟩
    rw [fullUnits_nil]
    rfl
  case isFalse ht =>
    obtain ⟨ss, _, e⟩ := Option.map_eq_some_iff.1 h
    cases e
    have hq := p.setAll_conclusion ht splits
    rw [← hq]
    constructor
    · simp only [conclusion, finalUnits_singleUnits ht]
    · simp only [conclusion, fullUnits_singleUnits ht]

/-! ## Stages -/

/-- When a step is due that comes after a number of others. -/
def dueAfter (started : Moment) (a : Activation) (k : Nat) : Moment :=
  { started with wall := started.wall + (k + 1) * a.interval.microseconds }

/-- An application whose rollout has made a number of steps, with the deployments as they are. -/
def underway (app : ApplicationSpec) (started : Moment) (a : Activation) (k : Nat) (pair : Pair) :
    ApplicationSpec :=
  { app with
    deployments := [pair.source, pair.dest]
    canary := {
      steps := a.steps
      stepWeight := a.effectiveWeight
      stepInterval := a.interval
      nextScheduledTime := some (dueAfter started a k)
      currentStep := k
      active := true
      started := some started
      target := a.target } }

/-- The deployments of a rollout after a number of steps: the traffic that was moved, and where the
new one is heading. -/
structure Moved (a : Activation) (first : Pair) (k : Nat) (pair : Pair) : Prop where
  source_weight : pair.source.weight = fullWeight - k * a.effectiveWeight
  dest_weight : pair.dest.weight = k * a.effectiveWeight
  concluded : conclusion a.target pair.dest = conclusion a.target first.dest

/-- What a rollout that can run to its end is given. -/
structure Runnable (started : Moment) (a : Activation) : Prop where
  least : minimumSteps ≤ a.steps
  weight_pos : 0 < a.effectiveWeight
  interval_pos : 0 < a.interval.microseconds
  countable : Countable a.target
  offset : started.inUtc = started
  wall_nonneg : 0 ≤ started.wall + a.interval.microseconds
  wall_lt : started.wall + (a.lastStep + 1) * a.interval.microseconds < Moment.wallLimit

/-- The places of a rollout that has made a number of steps: it is under way before the last one,
and then it is complete. -/
inductive Stage (app : ApplicationSpec) (started : Moment) (a : Activation) (first : Pair) :
    Nat → ApplicationSpec → Prop where
  | underway {k : Nat} {pair} :
    k < a.lastStep →
    Moved a first k pair →
    Stage app started a first k (underway app started a k pair)
  | complete {k : Nat} :
    k = a.lastStep →
    Stage app started a first k (completed (underway app started a 0 first))

variable {app : ApplicationSpec} {started : Moment} {a : Activation} {first pair q : Pair} {k : Nat}

/-- The moment at which a step is due. -/
lemma instant_dueAfter :
    (dueAfter started a k).instant = started.instant + (k + 1) * a.interval.microseconds := by
  simp only [Moment.instant, dueAfter]
  omega

/-- The next step is due one interval later, and lies in the years that there are. -/
lemma Runnable.add?_dueAfter (r : Runnable started a) (hk : k < a.lastStep) :
    (dueAfter started a k).inUtc.add? a.interval = some (dueAfter started a (k + 1)) := by
  have hu : (dueAfter started a k).inUtc = dueAfter started a k := by
    have ho := congrArg (·.offset) r.offset
    simp only [Moment.inUtc] at ho
    simp only [Moment.inUtc, dueAfter, ho]
  have hx : ((k : Int) + 1) * a.interval.microseconds + a.interval.microseconds =
      ((k + 1 : Nat) + 1) * a.interval.microseconds := by
    push_cast
    ring
  have h0 : a.interval.microseconds ≤ ((k + 1 : Nat) + 1 : Int) * a.interval.microseconds :=
    le_mul_of_one_le_left r.interval_pos.le (by omega)
  have h1 : ((k + 1 : Nat) + 1 : Int) * a.interval.microseconds ≤
      (a.lastStep + 1) * a.interval.microseconds :=
    Int.mul_le_mul_of_nonneg_right (by omega) r.interval_pos.le
  have hw := r.wall_nonneg
  have hl := r.wall_lt
  rw [hu, Moment.add?_eq_some]
  simp only [dueAfter, Int.add_assoc, hx, and_true]
  omega

/-- One step more of a rollout that is under way. -/
lemma stepped_underway :
    stepped (underway app started a k pair) q [] (dueAfter started a (k + 1)) =
      underway app started a (k + 1) q := by
  simp only [stepped, underway, Nat.cast_add, Nat.cast_one]

/-- A rollout that is finished has come to the same end at every stage. -/
lemma finish_underway (h : { q.dest with
      processes := fullUnits a.target q.dest.processes, weight := fullWeight } =
        conclusion a.target first.dest) :
    finish (underway app started a k q) q.dest = completed (underway app started a 0 first) := by
  simp only [finish, completed, underway, List.drop_succ_cons, List.drop_zero, List.map_cons,
    List.map_nil, h]

/-- The rollout is settled behind a step: there is one more step, or it was the last. -/
lemma Moved.settle (r : Runnable started a) (m : Moved a first k pair) (hk : k < a.lastStep)
    {splits} (hq : (pair.shift a.effectiveWeight).scaled? a.target = some (q, splits)) :
    Stage app started a first (k + 1)
      (settle (underway app started a (k + 1) q) q.dest) := by
  obtain ⟨ws, wd⟩ := Pair.weights_of_step hq
  obtain ⟨hc, hf⟩ := Pair.scaled?_conclusion hq
  have hs := m.source_weight
  have hd := m.dest_weight
  -- the weight after one more step
  have hx : ((k + 1 : Nat) : Int) * a.effectiveWeight =
      k * a.effectiveWeight + a.effectiveWeight := by
    push_cast
    ring
  have hlast := Activation.lastStep_le_iff r.weight_pos (k := ((k + 1 : Nat) : Int))
  unfold Canary.settle
  split
  case isTrue hl =>
    have hl' : a.lastStep ≤ (k + 1 : Nat) := by
      rw [hlast, hx]
      have hl := isLast_iff.1 hl
      simp only [underway] at hl
      omega
    rw [finish_underway (hf.trans m.concluded)]
    exact .complete (by omega)
  case isFalse hl =>
    obtain ⟨hl1, hl2⟩ := not_or.1 (mt isLast_iff.2 hl)
    have hlt : ((k + 1 : Nat) : Int) < a.lastStep := by
      rw [← not_le, hlast, hx]
      simp only [underway] at hl1
      omega
    exact .underway hlt
      { source_weight := by omega
        dest_weight := by omega
        concluded := hc.trans m.concluded }

/-- A tick behind a number of steps makes one more if it is due and the last one was not made, and
changes nothing otherwise. -/
structure Onward (a : Activation) (started : Moment) (k : Nat) (app : ApplicationSpec)
    (now : Moment) (t : Tick) : Prop where
  advanced_iff : t.advanced = true ↔ k < a.lastStep ∧
    started.instant + (k + 1) * a.interval.microseconds ≤ now.instant
  unchanged : t.advanced = false → t.app = app

/-- A tick at a stage succeeds, and leads to the next stage if it makes a step. -/
lemma Stage.tick {app' : ApplicationSpec} (r : Runnable started a)
    (st : Stage app started a first k app') (now : Moment) :
    ∃ t, (tick app' now).value = .ok t ∧ Onward a started k app' now t ∧
      Stage app started a first (k + if t.advanced then 1 else 0) t.app := by
  cases st with
  | @underway pair hk m =>
    rcases lt_or_ge now.instant (dueAfter started a k).instant with early | due
    · have tk : Ticks (Canary.underway app started a k pair) now _ := .early rfl rfl rfl early
      rw [instant_dueAfter] at early
      refine ⟨_, tick_ok_iff.2 tk, ⟨?_, fun _ => rfl⟩, .underway hk m⟩
      simp only [Bool.false_eq_true, false_iff, not_and]
      omega
    · have hsource : 0 ≤ (pair.shift a.effectiveWeight).source.weight := Int.le_max_left _ _
      obtain ⟨q, splits, hq⟩ := Pair.exists_scaled? hsource r.countable
      have tk : Ticks (Canary.underway app started a k pair) now _ :=
        .step rfl rfl rfl due (r.add?_dueAfter hk) hq
      rw [instant_dueAfter] at due
      refine ⟨_, tick_ok_iff.2 tk, ⟨?_, fun h => ?_⟩, ?_⟩
      · simp only [stepTick, true_iff]
        exact ⟨hk, due⟩
      · cases h
      · simp only [stepTick, stepped_underway, if_true]
        exact m.settle r hk hq
  | complete hk =>
    have tk : Ticks (completed (Canary.underway app started a 0 first)) now _ := .idle rfl
    refine ⟨_, tick_ok_iff.2 tk, ⟨?_, fun _ => rfl⟩, .complete hk⟩
    simp only [Bool.false_eq_true, false_iff, not_and]
    omega

/-- Ticks at any readings of the clock succeed, and lead on by as many stages as they make steps. -/
lemma Stage.ticks {app' : ApplicationSpec} (r : Runnable started a)
    (st : Stage app started a first k app') (readings : List Moment) :
    ∃ ts, ticks app' readings = .ok ts ∧
      Stage app started a first (k + advances ts) (reached app' ts) := by
  obtain ⟨ts, hts⟩ : ∃ ts, Canary.ticks app' readings = .ok ts := by
    -- on the readings, for all stages that the first of them may find
    induction readings generalizing app' k with
    | nil => exact ⟨[], rfl⟩
    | cons now readings ih =>
      obtain ⟨t, ht, -, st'⟩ := st.tick r now
      obtain ⟨ts, hts⟩ := ih st'
      exact ⟨t :: ts, Outcome.bind_ok_iff.2 ⟨t, ht, Outcome.bind_ok_iff.2 ⟨ts, hts, rfl⟩⟩⟩
  refine ⟨ts, hts, ticks_preserve (P := Stage app started a first) (fun st ht => ?_) st hts⟩
  obtain ⟨t, ht', -, st'⟩ := st.tick r _
  cases ht.symm.trans ht'
  exact st'

/-- What some ticks have made of a rollout that was started: it is stepping before its last step,
and it is complete behind it, as it was known to be from the start. -/
structure Progress (a : Activation) (started : ApplicationSpec) (ts : List Tick) : Prop where
  advances_le : advances ts ≤ a.lastStep
  stepping : advances ts < a.lastStep → (reached started ts).canary.phase = .stepping
  complete : advances ts = a.lastStep →
    (reached started ts).canary.phase = .complete ∧ reached started ts = completed started

/-- The progress of a rollout at a stage. -/
lemma Stage.progress {ts : List Tick} (r : Runnable started a)
    (st : Stage app started a first (advances ts)
      (reached (Canary.underway app started a 0 first) ts)) :
    Progress a (Canary.underway app started a 0 first) ts := by
  generalize he : reached (Canary.underway app started a 0 first) ts = app' at st
  cases st with
  | underway hk m =>
    refine ⟨by omega, fun _ => ?_, by omega⟩
    rw [he]
    exact CanarySpec.phase_eq_stepping_iff.2 rfl
  | complete hk =>
    refine ⟨by omega, by omega, fun _ => ⟨?_, he⟩⟩
    have hs : 0 < a.steps := Int.lt_of_lt_of_le (by decide) r.least
    rw [he]
    exact CanarySpec.phase_eq_complete_iff.2 ⟨rfl, hs, Int.le_refl _⟩

/-- A rollout that has just started has made no step. -/
lemma begun_eq_underway {now due : Moment} {source dest : DeploymentSpec}
    (hd : app.deployments = [source, dest]) (hn : now.inUtc.add? a.interval = some due) :
    begun app now due a = Canary.underway app now.inUtc a 0
      ⟨{ source with weight := fullWeight }, { dest with weight := 0 }⟩ := by
  obtain ⟨-, rfl⟩ := Moment.add?_eq_some.1 hn
  simp only [begun, Canary.underway, dueAfter, hd, resetWeights, Nat.cast_zero, Int.zero_add,
    Int.one_mul]

/-- A rollout that was started can run to its end if the years last and the units are small. -/
lemma Activation.Admissible.runnable {now due : Moment} (adm : a.Admissible app)
    (hn : now.inUtc.add? a.interval = some due)
    (representable : (now.inUtc.add? ⟨(a.lastStep + 1) * a.interval.microseconds⟩).isSome)
    (countable : Countable a.target) : Runnable now.inUtc a := by
  obtain ⟨⟨hw, -⟩, -⟩ := Moment.add?_eq_some.1 hn
  obtain ⟨m, hm⟩ := Option.isSome_iff_exists.1 representable
  obtain ⟨⟨-, hl⟩, -⟩ := Moment.add?_eq_some.1 hm
  exact ⟨adm.least, adm.weight_pos, adm.positive, countable, rfl, hw, hl⟩

/-- A rollout that was started has a step to make. -/
lemma Activation.Admissible.lastStep_pos (adm : a.Admissible app) : 0 < a.lastStep := by
  have hs := adm.least
  rw [← not_le, Activation.lastStep_le_iff adm.weight_pos]
  simp only [minimumSteps, fullWeight] at hs ⊢
  omega

/-- No step is made at first, and there is at least one to make. -/
lemma Activation.Admissible.first_stage {source dest : DeploymentSpec} (adm : a.Admissible app) :
    Stage app started a
      ⟨{ source with weight := fullWeight }, { dest with weight := 0 }⟩ 0
      (Canary.underway app started a 0
        ⟨{ source with weight := fullWeight }, { dest with weight := 0 }⟩) :=
  .underway adm.lastStep_pos ⟨by simp, by simp, rfl⟩

/-- A rollout that was started can be ticked at any readings of the clock, and makes progress. -/
lemma Activation.Admissible.completes {now due : Moment} (adm : a.Admissible app)
    (hn : now.inUtc.add? a.interval = some due) (r : Runnable now.inUtc a)
    (readings : List Moment) :
    ∃ ts, ticks (begun app now due a) readings = .ok ts ∧ Progress a (begun app now due a) ts ∧
      ∀ reading, ∃ t, (Canary.tick (reached (begun app now due a) ts) reading).value = .ok t ∧
        Onward a now.inUtc (advances ts) (reached (begun app now due a) ts) reading t := by
  obtain ⟨source, dest, hd⟩ := List.length_eq_two.1 adm.two
  rw [begun_eq_underway hd hn]
  obtain ⟨ts, hts, st⟩ := adm.first_stage.ticks r readings
  rw [Nat.zero_add] at st
  refine ⟨ts, hts, st.progress r, fun reading => ?_⟩
  obtain ⟨t, ht, on, -⟩ := st.tick r reading
  exact ⟨t, ht, on⟩

/-- A rollout that was started completes with its last step, and not before, whenever the clock is
read and however often; what it comes to is known from the start. -/
theorem activated_completes {app started : ApplicationSpec} {now : Moment} {a : Activation}
    {target : Document} (activated : (Operation.activate now a target).perform app = .ok started)
    (representable : (now.inUtc.add? ⟨(a.lastStep + 1) * a.interval.microseconds⟩).isSome)
    (countable : Countable started.canary.target) :
    (a.stepWeight = none → a.lastStep = a.steps) ∧
    ∀ readings, ∃ ts, ticks started readings = .ok ts ∧ Progress a started ts ∧
      ∀ reading, ∃ t, (Canary.tick (reached started ts) reading).value = .ok t ∧
        Onward a now (advances ts) (reached started ts) reading t := by
  obtain ⟨units, due, adm, hn, rfl⟩ := Operation.activate_inv activated
  have r : Runnable now.inUtc { a with target := units } := adm.runnable hn representable countable
  refine ⟨Activation.lastStep_of_even adm.least adm.weight_pos, fun readings => ?_⟩
  obtain ⟨ts, hts, pr, hnext⟩ := adm.completes hn r readings
  refine ⟨ts, hts, ⟨pr.advances_le, pr.stepping, pr.complete⟩, fun reading => ?_⟩
  obtain ⟨t, ht, on⟩ := hnext reading
  have hi := on.advanced_iff
  rw [Moment.instant_inUtc] at hi
  exact ⟨t, ht, hi, on.unchanged⟩

/-- The shop with its rollout just started. -/
def shopStarted : ApplicationSpec :=
  begun shop (shopClock 0) (shopClock 1).inUtc { shopActivation with target := [("web", 4)] }

/-- The rollout of the shop completes with its fourth step. -/
theorem shop_completes :
    (Operation.activate (shopClock 0) shopActivation shopTarget).perform shop = .ok shopStarted ∧
      shopActivation.lastStep = 4 ∧
      ∀ readings, ∃ ts, ticks shopStarted readings = .ok ts ∧
        Progress shopActivation shopStarted ts ∧
        ∀ reading, ∃ t, (Canary.tick (reached shopStarted ts) reading).value = .ok t ∧
          Onward shopActivation (shopClock 0) (advances ts) (reached shopStarted ts) reading t := by
  have activated : (Operation.activate (shopClock 0) shopActivation shopTarget).perform shop =
      .ok shopStarted := by decide +kernel
  have countable : Countable shopStarted.canary.target := by
    unfold Countable
    decide +kernel
  exact ⟨activated, by decide, (activated_completes activated (by decide +kernel) countable).2⟩

end Chartwright.Canary
