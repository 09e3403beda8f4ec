import Chartwright.Proofs.Rollout.Completion

/-!
# Events of a rollout

What the ticks of a rollout report until it is complete is known from the start, whenever the clock
is read: a step is reported as it is made, with the traffic and the units of the moment, and between
the steps nothing is. `Midway` is the invariant of a rollout that has not ended.
-/

namespace Chartwright.Canary

/-- The traffic of the old deployment after some steps. -/
def Activation.sourceWeight (a : Activation) (k : Nat) : Int :=
  max 0 (fullWeight - k * a.effectiveWeight)

/-- The traffic of the new deployment after some steps. -/
def Activation.destWeight (a : Activation) (k : Nat) : Int :=
  min fullWeight (k * a.effectiveWeight)

/-- What the events of a rollout are about: an application by name, the versions of its old and new
deployment, and what the rollout was started with. -/
structure Rollout where
  app : String
  source : Int
  dest : Int
  activation : Activation

namespace Rollout

/-- An event of a rollout, about its new deployment. -/
def event (r : Rollout) (name : CanaryEventName) (extra : List (String × String)) :
    CanaryEvent where
  app := r.app
  version := r.dest
  name
  annotations := ([("app-name", r.app), ("deployment-version", toString r.dest),
    ("event-name", name.text), ("description", name.description)] ++ extra).map
      fun (k, v) => (CanaryEvent.annotationKey k, v)

/-- The number of the last step. -/
def last (r : Rollout) : Nat := r.activation.lastStep.toNat

/-- The units of the target processes in both deployments after some steps, by process name. -/
def shares (r : Rollout) (k : Nat) : List (String × Int × Int) :=
  (splits? (r.activation.sourceWeight k) (sortedTarget r.activation.target)).getD []

/-- The events of a step: the weights that it leads to, and the units of each target process. -/
def step (r : Rollout) (k : Nat) : List CanaryEvent :=
  r.event .nextStep [
    ("step", toString (k : Int)), ("version-source", toString r.source),
    ("version-dest", toString r.dest),
    ("weight-source", toString (r.activation.sourceWeight k)),
    ("weight-dest", toString (r.activation.destWeight k))] ::
  (r.shares k).map fun s => r.event .stepTarget [
    ("process-name", s.1), ("source-process-units", toString s.2.1),
    ("dest-process-units", toString s.2.2)]

/-- The events of a step, with the start of the rollout in front of the first. -/
def opened (r : Rollout) (k : Nat) : List CanaryEvent :=
  (if k = 1 then [r.event .started []] else []) ++ r.step k

/-- What the tick of a step reports: the end of the rollout comes with the last. -/
def report (r : Rollout) (k : Nat) : List CanaryEvent :=
  r.opened k ++ if k = r.last then [r.event .finished []] else []

/-- What all ticks of a rollout report. -/
def story (r : Rollout) : List CanaryEvent :=
  r.event .started [] :: (List.range' 1 r.last).flatMap r.step ++ [r.event .finished []]

/-- The units after some steps are those that each process of the target has then, in the order of
the names. -/
structure Shared (r : Rollout) (k : Nat) : Prop where
  ordered : ((r.shares k).map (·.1)).Pairwise (· ≤ ·)
  split : ∃ order : List (String × Int), order.Perm r.activation.target ∧
    List.Forall₂
      (fun t s => s.1 = t.1 ∧ splitUnits? (r.activation.sourceWeight k) t.2 = some s.2)
      order (r.shares k)

end Rollout

/-- The ticks up to the one that completes a rollout. -/
def upToCompletion : List Tick → List Tick
  | [] => []
  | t :: ts => if t.phase = .complete then [t] else t :: upToCompletion ts

/-! ## Shares -/

lemma splits?_forall₂ {weight : Int} {targets : List (String × Int)} {splits}
    (h : splits? weight targets = some splits) :
    List.Forall₂ (fun t s => s.1 = t.1 ∧ splitUnits? weight t.2 = some s.2) targets splits := by
  induction targets generalizing splits with
  | nil =>
    cases h
    exact .nil
  | cons t rest ih =>
    rw [splits?_cons] at h
    obtain ⟨split, ht, h⟩ := Option.bind_eq_some_iff.1 h
    obtain ⟨ss, hss, rfl⟩ := Option.map_eq_some_iff.1 h
    exact .cons ⟨rfl, ht⟩ (ih hss)

lemma pairwise_sortedTarget (target : Dict String Int) :
    (sortedTarget target).Pairwise (·.1 ≤ ·.1) := by
  let le (a b : String × Int) : Bool := decide (a.1 ≤ b.1)
  have trans (a b c) (hab : le a b = true) (hbc : le b c = true) : le a c = true :=
    decide_eq_true (String.le_trans (of_decide_eq_true hab) (of_decide_eq_true hbc))
  have total (a b) : (le a b || le b a) = true := by
    simpa [le] using String.le_total a.1 b.1
  exact (List.pairwise_mergeSort trans total target).imp of_decide_eq_true

lemma Rollout.shared_of_splits? {r : Rollout} {k : Nat} {splits}
    (h : splits? (r.activation.sourceWeight k) (sortedTarget r.activation.target) = some splits) :
    r.shares k = splits ∧ r.Shared k := by
  have shares : r.shares k = splits := by rw [Rollout.shares, h, Option.getD_some]
  have each := splits?_forall₂ h
  rw [← shares] at each
  have names : (r.shares k).map (·.1) = (sortedTarget r.activation.target).map (·.1) := by
    symm
    rw [← List.forall₂_eq_eq_eq, List.forall₂_map_left_iff, List.forall₂_map_right_iff]
    exact each.imp fun _ _ e => e.1.symm
  refine ⟨shares, ?_, _, List.mergeSort_perm _ _, each⟩
  rw [names, List.pairwise_map]
  exact pairwise_sortedTarget r.activation.target

lemma Pair.splits?_of_scaled? {p q : Pair} {target splits}
    (h : p.scaled? target = some (q, splits)) :
    splits? p.source.weight (sortedTarget target) = some splits := by
  unfold Pair.scaled? at h
  split at h
  case isTrue ht =>
    cases h
    rw [ht, sortedTarget, List.mergeSort_nil]
    rfl
  case isFalse =>
    obtain ⟨ss, hss, e⟩ := Option.map_eq_some_iff.1 h
    cases e
    exact hss

/-! ## One tick -/

/-- A rollout that has made some steps, and has not ended. -/
structure Midway (r : Rollout) (k : Nat) (app : ApplicationSpec) (pair : Pair) : Prop where
  app_name : app.name = r.app
  deployments : app.deployments = [pair.source, pair.dest]
  source_version : pair.source.version = r.source
  dest_version : pair.dest.version = r.dest
  source_weight : pair.source.weight = r.activation.sourceWeight k
  dest_weight : pair.dest.weight = r.activation.destWeight k
  active : app.canary.active = true
  steps : app.canary.steps = r.activation.steps
  step_weight : app.canary.stepWeight = r.activation.effectiveWeight
  target : app.canary.target = r.activation.target
  current : app.canary.currentStep = k
  weight_pos : 0 < r.activation.effectiveWeight

/-- What the next tick of a rollout comes to: it is too early, or it makes a step and reports it. -/
inductive Follows (r : Rollout) (k : Nat) (app : ApplicationSpec) : Tick → Prop where
  | early : Follows r k app ⟨app, false, .stepping, []⟩
  | next {t : Tick} {pair} :
    t.advanced = true →
    t.phase = .stepping →
    t.events = r.report (k + 1) →
    r.Shared (k + 1) →
    k + 1 < r.last →
    Midway r (k + 1) t.app pair →
    Follows r k app t
  | last {t : Tick} :
    t.advanced = true →
    t.phase = .complete →
    t.events = r.report (k + 1) →
    r.Shared (k + 1) →
    k + 1 = r.last →
    Follows r k app t

section

variable {r : Rollout} {k : Nat} {app : ApplicationSpec} {now next : Moment} {pair q : Pair}
  {t : Tick} {splits : List (String × Int × Int)}

lemma Rollout.of_eq {d : DeploymentSpec} {name : CanaryEventName} {extra}
    (hn : app.name = r.app) (hl : app.deployments.getLast? = some d) (hv : d.version = r.dest) :
    CanaryEvent.of app name extra = r.event name extra := by
  simp only [CanaryEvent.of, Rollout.event, hl, Option.map_some, Option.getD_some, hn, hv]

lemma Midway.event (m : Midway r k app pair) (name extra) :
    CanaryEvent.of app name extra = r.event name extra :=
  Rollout.of_eq m.app_name (by rw [m.deployments]; rfl) m.dest_version

/-- A step is the last one where the traffic that it led to and its number say so. -/
lemma Midway.isLast_iff (m : Midway r k app pair) :
    isLast app.canary pair.dest = true ↔ r.last ≤ k := by
  have hl := Activation.lastStep_le_iff m.weight_pos (k := (k : Int))
  rw [Canary.isLast_iff, m.steps, m.current, m.dest_weight, Rollout.last, Int.toNat_le, hl,
    Activation.destWeight]
  omega

lemma Midway.startEvents (m : Midway r k app pair) :
    startEvents app = if k + 1 = 1 then [r.event .started []] else [] := by
  have hk : app.canary.currentStep = 0 ↔ k + 1 = 1 := by
    rw [m.current]
    omega
  unfold Canary.startEvents
  rw [if_congr hk rfl rfl, m.event]

lemma Midway.stepEvents (m : Midway r k app pair) (hs : r.shares k = splits) :
    stepEvents app pair splits = r.step k := by
  simp only [Canary.stepEvents, CanaryEvent.ofStep, CanaryEvent.ofUnits, Rollout.step, m.event, hs,
    m.current, m.source_weight, m.dest_weight, m.source_version, m.dest_version]

lemma Midway.endEvents (m : Midway r k app pair) (hk : k ≤ r.last) :
    endEvents app pair.dest = if k = r.last then [r.event .finished []] else [] := by
  have last : isLast app.canary pair.dest = true ↔ k = r.last := by
    rw [m.isLast_iff]
    omega
  have finished : CanaryEvent.of (finish app pair.dest) .finished [] = r.event .finished [] :=
    Rollout.of_eq m.app_name rfl m.dest_version
  rw [Canary.endEvents, if_congr last rfl rfl, finished]

/-- A step moves the weights of both deployments. -/
lemma Midway.moved (m : Midway r k app pair) (next : Moment) :
    Midway r (k + 1) (stepped app (pair.shift app.canary.stepWeight) [] next)
      (pair.shift app.canary.stepWeight) := by
  have hx : ((k + 1 : Nat) : Int) * r.activation.effectiveWeight =
      k * r.activation.effectiveWeight + r.activation.effectiveWeight := by
    push_cast
    ring
  have hw := m.weight_pos
  have source : (pair.shift app.canary.stepWeight).source.weight =
      r.activation.sourceWeight (k + 1) := by
    simp only [Pair.shift, m.step_weight, m.source_weight, Activation.sourceWeight, hx]
    omega
  have dest : (pair.shift app.canary.stepWeight).dest.weight =
      r.activation.destWeight (k + 1) := by
    simp only [Pair.shift, m.step_weight, m.dest_weight, Activation.destWeight, hx]
    omega
  have current : (stepped app (pair.shift app.canary.stepWeight) [] next).canary.currentStep =
      (k + 1 : Nat) := by
    simp only [stepped, m.current, Nat.cast_add, Nat.cast_one]
  exact ⟨m.app_name, rfl, m.source_version, m.dest_version, source, dest, m.active, m.steps,
    m.step_weight, m.target, current, hw⟩

/-- Sharing out units moves no weights. -/
lemma Midway.scaled {target : Dict String Int} (m : Midway r k (stepped app pair [] next) pair)
    (hq : pair.scaled? target = some (q, splits)) : Midway r k (stepped app q [] next) q := by
  obtain ⟨es, ed⟩ := Pair.scaled?_withoutUnits hq
  have vs : q.source.version = r.source := (congrArg (·.version) es).trans m.source_version
  have vd : q.dest.version = r.dest := (congrArg (·.version) ed).trans m.dest_version
  have ws := (DeploymentSpec.weight_of_withoutUnits es).trans m.source_weight
  have wd := (DeploymentSpec.weight_of_withoutUnits ed).trans m.dest_weight
  exact ⟨m.app_name, rfl, vs, vd, ws, wd, m.active, m.steps, m.step_weight, m.target, m.current,
    m.weight_pos⟩

/-- The tick of a step reports it, and leads to the next step or to the end. -/
lemma Midway.stepTick (m : Midway r k app pair) (before : k < r.last)
    (hq : (pair.shift app.canary.stepWeight).scaled? app.canary.target = some (q, splits)) :
    Follows r k app
      (stepTick app (pair.shift app.canary.stepWeight) q [] next splits) := by
  have moved := m.moved next
  have scaled := moved.scaled hq
  have hs := Pair.splits?_of_scaled? hq
  rw [moved.source_weight, m.target] at hs
  obtain ⟨shares, shared⟩ := Rollout.shared_of_splits? hs
  have events : (Canary.stepTick app (pair.shift app.canary.stepWeight) q [] next splits).events =
      r.report (k + 1) := by
    rw [Canary.stepTick, m.startEvents, moved.stepEvents shares, scaled.endEvents before]
    rfl
  by_cases hl : k + 1 = r.last
  · have steps : 0 < (stepped app q [] next).canary.steps := by
      have hmin : r.activation.lastStep ≤ r.activation.steps := Int.min_le_left _ _
      simp only [Rollout.last, scaled.steps] at before ⊢
      omega
    have complete : (finish (stepped app q [] next) q.dest).canary.phase = .complete :=
      CanarySpec.phase_eq_complete_iff.2 ⟨rfl, steps, Int.le_refl _⟩
    refine .last rfl ?_ events shared hl
    rw [Canary.stepTick, settle, if_pos (scaled.isLast_iff.2 hl.ge)]
    exact complete
  · have on : k + 1 < r.last := Nat.lt_of_le_of_ne before hl
    have settled : settle (stepped app q [] next) q.dest = stepped app q [] next :=
      if_neg fun h => by
        have hle := scaled.isLast_iff.1 h
        omega
    refine .next rfl ?_ events shared on (settled ▸ scaled)
    rw [Canary.stepTick, settled]
    exact CanarySpec.phase_eq_stepping_iff.2 m.active

/-- The next tick of a rollout that is not at its end. -/
lemma Midway.tick (m : Midway r k app pair) (before : k < r.last)
    (tk : Ticks app now t) : Follows r k app t := by
  cases tk with
  | idle h =>
    rw [m.active] at h
    cases h
  | early => exact .early
  | step _ hd _ _ _ hq =>
    cases hd.symm.trans m.deployments
    exact m.stepTick before hq

/-! ## All ticks -/

/-- What the ticks of a rollout report that has made some steps. -/
structure Reports (r : Rollout) (k : Nat) (ts : List Tick) : Prop where
  steps : ((upToCompletion ts).filter (·.advanced)).map (·.events) =
    (List.range' (k + 1) (r.last - k)).map r.report
  shared : ∀ j, k < j → j ≤ r.last → r.Shared j
  early : ∀ t ∈ upToCompletion ts, t.advanced = false → t.events = []

lemma upToCompletion_cons {ts : List Tick} (h : t.phase = .stepping) :
    upToCompletion (t :: ts) = t :: upToCompletion ts := by
  rw [upToCompletion, h, if_neg (by decide)]

/-- One step less is left behind each. -/
lemma range'_next (before : k < r.last) :
    List.range' (k + 1) (r.last - k) =
      (k + 1) :: List.range' (k + 1 + 1) (r.last - (k + 1)) := by
  obtain ⟨n, hn⟩ : ∃ n, r.last - k = n + 1 := ⟨r.last - k - 1, by omega⟩
  rw [hn, List.range'_succ, show r.last - (k + 1) = n by omega]

/-- The ticks of a rollout report its steps up to its end. -/
lemma Midway.reports {readings : List Moment} {ts : List Tick} (m : Midway r k app pair)
    (before : k < r.last) (ticked : ticks app readings = .ok ts)
    (complete : (reached app ts).canary.phase = .complete) : Reports r k ts := by
  -- on the readings, for all steps that the first of them may find to be made
  induction readings generalizing k app pair ts with
  | nil =>
    cases ticked
    rw [reached, List.foldl_nil, CanarySpec.phase_eq_stepping_iff.2 m.active] at complete
    cases complete
  | cons now readings ih =>
    obtain ⟨t, ht, h⟩ := Outcome.bind_ok_iff.1 ticked
    obtain ⟨ts, hts, h⟩ := Outcome.bind_ok_iff.1 h
    cases h
    cases m.tick before (tick_ok_iff.1 ht) with
    | early =>
      obtain ⟨steps, shared, early⟩ := ih m before hts complete
      refine ⟨?_, shared, ?_⟩
      · rw [upToCompletion_cons rfl, List.filter_cons_of_neg (by simp), steps]
      · rw [upToCompletion_cons rfl]
        exact List.forall_mem_cons.2 ⟨fun _ => rfl, early⟩
    | next advanced stepping events first on m' =>
      obtain ⟨steps, shared, early⟩ := ih m' on hts complete
      refine ⟨?_, fun j hj hl => ?_, ?_⟩
      · rw [upToCompletion_cons stepping, List.filter_cons_of_pos advanced, List.map_cons, events,
          steps, range'_next before, List.map_cons]
      · rcases Nat.eq_or_lt_of_le hj with rfl | hj
        · exact first
        · exact shared j hj hl
      · rw [upToCompletion_cons stepping]
        exact List.forall_mem_cons.2 ⟨fun h => by simp [advanced] at h, early⟩
    | last advanced complete events first hl =>
      have only : upToCompletion (t :: ts) = [t] := by rw [upToCompletion, if_pos complete]
      refine ⟨?_, fun j hj hj' => ?_, ?_⟩
      · rw [only, List.filter_cons_of_pos advanced, range'_next before, hl, Nat.sub_self,
          List.filter_nil, List.map_singleton, events, hl]
        rfl
      · obtain rfl : j = k + 1 := by omega
        exact first
      · rw [only]
        exact List.forall_mem_singleton.2 fun h => by simp [advanced] at h

/-- The reports of all steps are the story of a rollout. -/
lemma Rollout.flatMap_report (steps : 0 < r.last) :
    (List.range' 1 r.last).flatMap r.report = r.story := by
  obtain ⟨n, hn⟩ : ∃ n, r.last = n + 1 := ⟨r.last - 1, by omega⟩
  have before : (List.range' 1 n).flatMap r.report = (List.range' 1 n).flatMap r.opened :=
    List.flatMap_congr fun k hk => by
      have hk := (List.mem_range'_1.1 hk).2
      rw [report, if_neg (by omega), List.append_nil]
  have behind : (List.range' 2 n).flatMap r.opened = (List.range' 2 n).flatMap r.step :=
    List.flatMap_congr fun k hk => by
      have hk := (List.mem_range'_1.1 hk).1
      rw [opened, if_neg (by omega), List.nil_append]
  have last : r.report (1 + n) = r.opened (1 + n) ++ [r.event .finished []] := by
    rw [report, if_pos (by omega)]
  calc (List.range' 1 r.last).flatMap r.report
      = (List.range' 1 n).flatMap r.opened ++ r.report (1 + n) := by
        rw [hn, List.range'_1_concat, List.flatMap_append, List.flatMap_singleton, before]
    _ = (List.range' 1 r.last).flatMap r.opened ++ [r.event .finished []] := by
        rw [hn, List.range'_1_concat, List.flatMap_append, List.flatMap_singleton, last,
          List.append_assoc]
    _ = r.opened 1 ++ (List.range' 2 n).flatMap r.step ++ [r.event .finished []] := by
        rw [hn, List.range'_succ, List.flatMap_cons, behind]
    _ = r.story := by
        rw [story, hn, List.range'_succ, List.flatMap_cons]
        rfl

end

/-- What the ticks of a rollout report until it is complete. -/
structure Told (r : Rollout) (ts : List Tick) : Prop where
  events : (upToCompletion ts).flatMap (·.events) = r.story
  /-- Each tick that makes a step reports this step. -/
  steps : ((upToCompletion ts).filter (·.advanced)).map (·.events) =
    (List.range' 1 r.last).map r.report
  shared : ∀ k, 1 ≤ k → k ≤ r.last → r.Shared k
  /-- A tick that comes too early reports nothing. -/
  early : ∀ t ∈ upToCompletion ts, t.advanced = false → t.events = []
  version : ∀ t ∈ upToCompletion ts, ∀ e ∈ t.events, e.version = r.dest

lemma Rollout.version_of_mem_story {r : Rollout} {e : CanaryEvent} (he : e ∈ r.story) :
    e.version = r.dest := by
  simp only [Rollout.story, Rollout.step, List.cons_append, List.mem_cons, List.mem_append,
    List.mem_flatMap, List.mem_map, List.not_mem_nil, or_false] at he
  obtain rfl | ⟨_, _, rfl | ⟨_, _, rfl⟩⟩ | rfl := he
  all_goals rfl

/-- Ticks that make no step add nothing to what is reported. -/
lemma flatMap_events {ts : List Tick} (h : ∀ t ∈ ts, t.advanced = false → t.events = []) :
    ts.flatMap (·.events) = ((ts.filter (·.advanced)).map (·.events)).flatten := by
  induction ts with
  | nil => rfl
  | cons t ts ih =>
    obtain ⟨ht, hts⟩ := List.forall_mem_cons.1 h
    rw [List.flatMap_cons, ih hts]
    cases ha : t.advanced with
    | false => rw [List.filter_cons_of_neg (by simp [ha]), ht ha, List.nil_append]
    | true => rw [List.filter_cons_of_pos ha, List.map_cons, List.flatten_cons]

/-- The whole of what is reported of a rollout that starts with its first step. -/
lemma Reports.told {r : Rollout} {ts : List Tick} (steps : 0 < r.last) (h : Reports r 0 ts) :
    Told r ts := by
  have events : (upToCompletion ts).flatMap (·.events) = r.story := by
    rw [flatMap_events h.early, h.steps, ← List.flatMap_def]
    exact r.flatMap_report steps
  refine ⟨events, h.steps, fun k hk => h.shared k hk, h.early, fun t ht e he => ?_⟩
  apply Rollout.version_of_mem_story
  rw [← events]
  exact List.mem_flatMap.2 ⟨t, ht, he⟩

/-- A rollout that was started has all its steps to make. -/
lemma Activation.Admissible.midway {app : ApplicationSpec} {a : Activation}
    {old new : DeploymentSpec} (adm : a.Admissible app) (two : app.deployments = [old, new])
    (now due : Moment) :
    Midway ⟨app.name, old.version, new.version, a⟩ 0 (begun app now due a)
      ⟨{ old with weight := fullWeight }, { new with weight := 0 }⟩ where
  app_name := rfl
  deployments := by rw [begun, two, resetWeights]
  source_version := rfl
  dest_version := rfl
  source_weight := by simp [Activation.sourceWeight, fullWeight]
  dest_weight := by simp [Activation.destWeight, fullWeight]
  active := rfl
  steps := rfl
  step_weight := rfl
  target := rfl
  current := rfl
  weight_pos := adm.weight_pos

/-- The ticks of a rollout that was started succeed if the years last and the units are small. Those
that complete it report it from its start to its end, whenever they come: step by step with the
traffic and the units of the step, and nothing when no step is due. -/
theorem activated_told {app started : ApplicationSpec} {old new : DeploymentSpec} {now : Moment}
    {a : Activation} {target : Document} (two : app.deployments = [old, new])
    (activated : (Operation.activate now a target).perform app = .ok started)
    (readings : List Moment) :
    ((now.inUtc.add? ⟨(a.lastStep + 1) * a.interval.microseconds⟩).isSome →
        Countable started.canary.target → ∃ ts, ticks started readings = .ok ts) ∧
      ∀ ts, ticks started readings = .ok ts →
        (reached started ts).canary.phase = .complete →
        Told ⟨app.name, old.version, new.version, { a with target := started.canary.target }⟩
          ts := by
  obtain ⟨units, due, adm, hn, rfl⟩ := Operation.activate_inv activated
  refine ⟨fun representable countable => ?_, fun ts ticked complete => ?_⟩
  · obtain ⟨ts, ticked, -⟩ := adm.completes hn (adm.runnable hn representable countable) readings
    exact ⟨ts, ticked⟩
  · have m := adm.midway two now due
    have before :
        0 < Rollout.last ⟨app.name, old.version, new.version, { a with target := units }⟩ :=
      Int.lt_toNat.2 adm.lastStep_pos
    exact (m.reports before ticked complete).told before

/-- The rollout of the shop, with a tick that comes too early and one behind the end. -/
theorem shop_told : ∃ ts,
    (Operation.activate (shopClock 0) shopActivation shopTarget).perform shop = .ok shopStarted ∧
      ticks shopStarted [shopClock 1, shopClock 1, shopClock 2, shopClock 3, shopClock 4,
        shopClock 5] = .ok ts ∧
      (reached shopStarted ts).canary.phase = .complete ∧
      Told ⟨"shop", 1, 2, { shopActivation with target := [("web", 4)] }⟩ ts ∧
      (ts.map fun t => t.events.map (·.name)) =
        [[.started, .nextStep, .stepTarget], [], [.nextStep, .stepTarget], [.nextStep, .stepTarget],
          [.nextStep, .stepTarget, .finished], [.notActive]] := by
  have activated : (Operation.activate (shopClock 0) shopActivation shopTarget).perform shop =
      .ok shopStarted := by decide +kernel
  obtain ⟨ts, ticked, e⟩ := Outcome.map_ok_iff.1 (show
    (ticks shopStarted [shopClock 1, shopClock 1, shopClock 2, shopClock 3, shopClock 4,
        shopClock 5]).map (fun ts => ((reached shopStarted ts).canary.phase,
          ts.map fun t => t.events.map (·.name))) =
      .ok (.complete, [[.started, .nextStep, .stepTarget], [], [.nextStep, .stepTarget],
        [.nextStep, .stepTarget], [.nextStep, .stepTarget, .finished], [.notActive]])
      by decide +kernel)
  obtain ⟨complete, names⟩ := Prod.mk.inj e
  have two : shop.deployments = [shopDeployment 1 ["web"], shopDeployment 2 ["web", "worker"]] :=
    rfl
  exact ⟨ts, activated, ticked, complete,
    (activated_told two activated _).2 ts ticked complete, names⟩

end Chartwright.Canary
