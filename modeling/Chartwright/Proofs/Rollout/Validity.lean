import Chartwright.Proofs.Rollout.Run
import Chartwright.Proofs.Rollout.Units
import Chartwright.Proofs.Spec.Admission

/-!
# Validity

Whether an application still passes validation behind an operation on its rollout. All but the
units of processes does, whatever the operation is given; the units do where those of the target
are neither negative nor too large for a double, since nothing checks them.
-/

namespace Chartwright

/-- An application without the units of its processes. -/
def ApplicationSpec.withoutUnits (app : ApplicationSpec) : ApplicationSpec :=
  { app with deployments := app.deployments.map (·.withoutUnits) }

/-- Units that are not negative. -/
def NotNegative (_ : String) (units : Int) : Prop := 0 ≤ units

/-- A process passes where it passes without its units, and these are not negative. -/
lemma ProcessSpec.admits_iff_units {p : ProcessSpec} :
    ProcessSpec.shape.Admits p ↔
      ProcessSpec.shape.Admits p.withoutUnits ∧ ∀ units ∈ p.units, 0 ≤ units := by
  simp only [ProcessSpec.admits_iff, ProcessSpec.withoutUnits]
  constructor
  · rintro ⟨hn, hu, he⟩
    exact ⟨⟨hn, by simp, he⟩, hu⟩
  · rintro ⟨⟨hn, -, he⟩, hu⟩
    exact ⟨hn, hu, he⟩

/-- A deployment passes where its revision passes, and its weight and its units are within the
bounds. -/
lemma DeploymentSpec.admits_iff_revision {d : DeploymentSpec} :
    DeploymentSpec.shape.Admits d ↔ DeploymentSpec.shape.Admits d.revision ∧
      (0 ≤ d.weight ∧ d.weight ≤ fullWeight) ∧ d.UnitsAll NotNegative := by
  have names : (d.revision.processes.map (·.name)) = d.processes.map (·.name) := by
    simp only [DeploymentSpec.revision, DeploymentSpec.withoutUnits, List.map_map]
    rfl
  have processes : (∀ p ∈ d.processes, ProcessSpec.shape.Admits p) ↔
      (∀ p ∈ d.revision.processes, ProcessSpec.shape.Admits p) ∧ d.UnitsAll NotNegative := by
    simp only [DeploymentSpec.revision, DeploymentSpec.withoutUnits, List.forall_mem_map,
      DeploymentSpec.UnitsAll, NotNegative, ← forall_and]
    exact forall₂_congr fun _ _ => ProcessSpec.admits_iff_units
  simp only [DeploymentSpec.admits_iff]
  constructor
  · intro h
    obtain ⟨hp, hu⟩ := processes.1 h.processes
    refine ⟨{ h with processes := hp, names := ?_, weight := ⟨le_rfl, by simp [revision]⟩ }, h.weight, hu⟩
    rw [names]
    exact h.names
  · rintro ⟨h, hw, hu⟩
    refine { h with processes := processes.2 ⟨h.processes, hu⟩, names := ?_, weight := hw }
    rw [← names]
    exact h.names

/-- A deployment passes without its units where its revision and its weight do. -/
lemma DeploymentSpec.admits_withoutUnits_iff {d : DeploymentSpec} :
    DeploymentSpec.shape.Admits d.withoutUnits ↔
      DeploymentSpec.shape.Admits d.revision ∧ 0 ≤ d.weight ∧ d.weight ≤ fullWeight := by
  have revision : d.withoutUnits.revision = d.revision := by
    simp only [DeploymentSpec.revision, DeploymentSpec.withoutUnits, List.map_map]
    rfl
  have units : d.withoutUnits.UnitsAll NotNegative := by
    simp only [UnitsAll, withoutUnits, List.forall_mem_map]
    exact fun p _ => by simp [ProcessSpec.withoutUnits]
  rw [DeploymentSpec.admits_iff_revision, revision]
  exact and_congr_right fun _ => and_iff_left units

/-- A deployment passes where it passes without its units, and these are not negative. -/
lemma DeploymentSpec.admits_iff_units {d : DeploymentSpec} :
    DeploymentSpec.shape.Admits d ↔
      DeploymentSpec.shape.Admits d.withoutUnits ∧ d.UnitsAll NotNegative := by
  rw [DeploymentSpec.admits_withoutUnits_iff, DeploymentSpec.admits_iff_revision]
  simp only [and_assoc]

/-- An application passes where it passes without units, and these are not negative. -/
lemma ApplicationSpec.admits_iff_units {app : ApplicationSpec} :
    ApplicationSpec.shape.Admits app ↔
      ApplicationSpec.shape.Admits app.withoutUnits ∧
        ∀ d ∈ app.deployments, d.UnitsAll NotNegative := by
  have deployments : (∀ d ∈ app.deployments, DeploymentSpec.shape.Admits d) ↔
      (∀ d ∈ app.withoutUnits.deployments, DeploymentSpec.shape.Admits d) ∧
        ∀ d ∈ app.deployments, d.UnitsAll NotNegative := by
    simp only [withoutUnits, List.forall_mem_map, ← forall_and]
    exact forall₂_congr fun _ _ => DeploymentSpec.admits_iff_units
  simp only [ApplicationSpec.admits_iff]
  constructor
  · intro h
    obtain ⟨hd, hu⟩ := deployments.1 h.deployments
    exact ⟨{ h with deployments := hd }, hu⟩
  · rintro ⟨h, hu⟩
    exact { h with deployments := deployments.2 ⟨h.deployments, hu⟩ }

/-- An application passes with other deployments and another rollout if they pass. -/
lemma ApplicationSpec.Admitted.update {app : ApplicationSpec} (h : app.Admitted)
    {deployments : List DeploymentSpec} {canary : CanarySpec}
    (hd : ∀ d ∈ deployments, DeploymentSpec.shape.Admits d) (hc : CanarySpec.shape.Admits canary) :
    ({ app with deployments, canary } : ApplicationSpec).Admitted :=
  { h with deployments := hd, canary := hc }

namespace Canary

variable {app app' : ApplicationSpec} {op : Operation} {now : Moment} {t : Tick}

/-- An operation is given an interval that there can be. -/
def Operation.InRange : Operation → Prop
  | .activate _ a _ => Duration.inRange a.interval.microseconds.natAbs = true
  | .tick _ | .rollback | .reset => True

/-! ## All but the units -/

/-- An operation changes the deployments and the rollout of an application, and nothing else. -/
lemma Operation.frame (performed : op.perform app = .ok app') :
    app' = { app with deployments := app'.deployments, canary := app'.canary } := by
  cases Operation.performs performed with
  | begun => rfl
  | ticked tk =>
    cases tk with
    | idle => rfl
    | early => rfl
    | step =>
      simp only [stepTick, settle]
      split <;> rfl
  | rolledBack => rfl
  | reset => rfl

/-- The whole of the traffic is not negative. -/
lemma fullWeight_nonneg : 0 ≤ fullWeight := by decide

/-- A deployment passes without its units if it is of a revision that does, and its weight is within
the bounds. -/
lemma admits_of_revision {d e : DeploymentSpec} (h : DeploymentSpec.shape.Admits d.withoutUnits)
    (hr : e.revision = d.revision) (hw : 0 ≤ e.weight ∧ e.weight ≤ fullWeight) :
    DeploymentSpec.shape.Admits e.withoutUnits := by
  rw [DeploymentSpec.admits_withoutUnits_iff, hr]
  exact ⟨(DeploymentSpec.admits_withoutUnits_iff.1 h).1, hw⟩

/-- Giving all traffic to the first deployment changes weights only. -/
lemma admits_resetWeights {ds : List DeploymentSpec}
    (h : ∀ d ∈ ds, DeploymentSpec.shape.Admits d.withoutUnits) :
    ∀ d ∈ resetWeights ds, DeploymentSpec.shape.Admits d.withoutUnits := by
  unfold resetWeights
  split
  case h_1 source dest rest =>
    obtain ⟨hs, hd, hr⟩ := by simpa only [List.forall_mem_cons] using h
    simp only [List.forall_mem_cons]
    exact ⟨admits_of_revision hs rfl ⟨fullWeight_nonneg, le_rfl⟩,
      admits_of_revision hd rfl ⟨le_rfl, fullWeight_nonneg⟩, hr⟩
  case h_2 => exact h

/-- The deployments behind a tick pass without their units. -/
lemma Ticks.admits_deployments (tk : Ticks app now t) (hw : 0 ≤ app.canary.stepWeight)
    (h : ∀ d ∈ app.deployments, DeploymentSpec.shape.Admits d.withoutUnits) :
    ∀ d ∈ t.app.deployments, DeploymentSpec.shape.Admits d.withoutUnits := by
  cases tk with
  | idle => exact h
  | early => exact h
  | @step _ _ _ _ _ pair _ _ hd _ _ _ hp =>
    rw [hd] at h
    obtain ⟨hs, hd, hr⟩ := by simpa only [List.forall_mem_cons] using h
    have bs := (DeploymentSpec.admits_withoutUnits_iff.1 hs).2
    have bd := (DeploymentSpec.admits_withoutUnits_iff.1 hd).2
    obtain ⟨es, ed⟩ := Pair.scaled?_withoutUnits hp
    obtain ⟨ws, wd⟩ := Pair.weights_of_step hp
    have hf := fullWeight_nonneg
    -- a weight that is moved stays between none and all
    have bs' : 0 ≤ pair.source.weight ∧ pair.source.weight ≤ fullWeight := by
      simp only at ws
      omega
    have bd' : 0 ≤ pair.dest.weight ∧ pair.dest.weight ≤ fullWeight := by
      simp only at wd
      omega
    have rs := DeploymentSpec.revision_of_withoutUnits es
    have rd := DeploymentSpec.revision_of_withoutUnits ed
    have hs' := admits_of_revision hs rs bs'
    have hd' := admits_of_revision hd rd bd'
    simp only [stepTick, settle]
    split
    · simp only [finish, List.mem_singleton, forall_eq]
      exact admits_of_revision hd' (revision_full _ _ _) ⟨hf, le_rfl⟩
    · simp only [stepped, List.forall_mem_cons]
      exact ⟨hs', hd', hr⟩

/-- The rollout behind a tick passes. -/
lemma Ticks.admitted_canary (tk : Ticks app now t) (h : app.canary.Admitted) :
    t.app.canary.Admitted := by
  cases tk with
  | idle => exact h
  | early => exact h
  | step =>
    have h0 := h.currentStep
    simp only [stepTick, settle]
    split
    · exact { h with currentStep := h.steps.1 }
    · exact { h with currentStep := by simp only [stepped]; omega }

/-- The deployments behind an operation pass without their units. -/
lemma Operation.admits_deployments (hw : 0 ≤ app.canary.stepWeight)
    (h : ∀ d ∈ app.deployments, DeploymentSpec.shape.Admits d.withoutUnits)
    (performed : op.perform app = .ok app') :
    ∀ d ∈ app'.deployments, DeploymentSpec.shape.Admits d.withoutUnits := by
  cases Operation.performs performed with
  | begun => exact admits_resetWeights h
  | ticked tk => exact tk.admits_deployments hw h
  | rolledBack => exact admits_resetWeights h
  | reset => exact h

/-- The rollout behind an operation passes. -/
lemma Operation.admitted_canary (h : app.canary.Admitted) (given : op.InRange)
    (performed : op.perform app = .ok app') : app'.canary.Admitted := by
  cases Operation.performs performed with
  | begun _ adm =>
    have least := adm.least
    simp only [minimumSteps] at least
    exact
      { steps := ⟨by simp only [begun]; omega, adm.most⟩
        stepWeight := ⟨adm.weight_pos.le, adm.weight_le⟩
        stepInterval := given
        currentStep := le_rfl }
  | ticked tk => exact tk.admitted_canary h
  | rolledBack => exact { h with currentStep := le_rfl }
  | reset => exact CanarySpec.admits_iff.1 ⟨.mapping [], rfl⟩

/-- Without units, an application passes behind every operation. -/
lemma Operation.admits_withoutUnits (valid : ApplicationSpec.shape.Admits app.withoutUnits)
    (given : op.InRange) (performed : op.perform app = .ok app') :
    ApplicationSpec.shape.Admits app'.withoutUnits := by
  have h := ApplicationSpec.admits_iff.1 valid
  have hc : app.canary.Admitted := CanarySpec.admits_iff.1 h.canary
  have deployments : ∀ d ∈ app'.deployments, DeploymentSpec.shape.Admits d.withoutUnits :=
    Operation.admits_deployments hc.stepWeight.1 (List.forall_mem_map.1 h.deployments) performed
  have canary : app'.canary.Admitted := Operation.admitted_canary hc given performed
  rw [Operation.frame performed]
  exact ApplicationSpec.admits_iff.2
    (h.update (List.forall_mem_map.2 deployments) (CanarySpec.admits_iff.2 canary))

/-! ## Units -/

/-- Units behind a tick are as they should be if single units are, and those of the target, shared
out or not. -/
lemma Ticks.unitsAll {Q : String → Int → Prop} (tk : Ticks app now t) (one : ∀ name, Q name 1)
    (full : ∀ e ∈ app.canary.target, Q e.1 e.2)
    (split : ∀ e ∈ app.canary.target, ∀ weight, 0 ≤ weight → ∀ s, splitUnits? weight e.2 = some s →
      Q e.1 s.1 ∧ Q e.1 s.2)
    (h : ∀ d ∈ app.deployments, d.UnitsAll Q) : ∀ d ∈ t.app.deployments, d.UnitsAll Q := by
  cases tk with
  | idle => exact h
  | early => exact h
  | step _ hd _ _ _ hp =>
    rw [hd] at h
    obtain ⟨hs, hd, hr⟩ := by simpa only [List.forall_mem_cons] using h
    obtain ⟨hs', hd'⟩ := Pair.scaled?_all hp one
      (fun e he s => split e he _ (Int.le_max_left _ _) s) hs hd
    simp only [stepTick, settle]
    split
    · simp only [finish, List.mem_singleton, forall_eq]
      exact fullUnits_all full hd'
    · simp only [stepped, List.forall_mem_cons]
      exact ⟨hs', hd', hr⟩

/-- Every operation but a tick leaves units as they are. -/
lemma Operation.unitsAll {Q : String → Int → Prop} (h : ∀ d ∈ app.deployments, d.UnitsAll Q)
    (no_tick : ∀ now, op ≠ .tick now) (performed : op.perform app = .ok app') :
    ∀ d ∈ app'.deployments, d.UnitsAll Q := by
  have reset : ∀ d ∈ resetWeights app.deployments, d.UnitsAll Q := by
    unfold resetWeights
    split
    case h_1 hd =>
      rw [hd] at h
      simp only [List.forall_mem_cons] at h ⊢
      exact h
    case h_2 => exact h
  cases Operation.performs performed with
  | begun => exact reset
  | ticked => exact absurd rfl (no_tick _)
  | rolledBack => exact reset
  | reset => exact h

/-! ## The shop -/

/-- The deployments of the shop pass. -/
lemma shopDeployment_admits {version : Int} (hv : 0 < version) {names : List String}
    (hn : ∀ name ∈ names, name ≠ "") (hd : names.Nodup) :
    DeploymentSpec.shape.Admits (shopDeployment version names) := by
  have processes : ∀ p ∈ (shopDeployment version names).processes,
      ProcessSpec.shape.Admits p := by
    simp only [shopDeployment, List.forall_mem_map, ProcessSpec.admits_iff]
    exact fun name h => ⟨hn name h, by simp, by simp⟩
  have names' : (shopDeployment version names).processes.map (·.name) = names := by
    simp [shopDeployment, Function.comp_def]
  exact DeploymentSpec.admits_iff.2
    { image := by simp [shopDeployment]
      version := hv
      processes
      names := by rwa [names']
      manifest := by simp [shopDeployment]
      labels := List.forall_mem_nil _
      weight := ⟨le_rfl, by simp [shopDeployment]⟩
      exposedPorts := List.forall_mem_nil _ }

/-- The shop passes. -/
lemma shop_admitted : shop.Admitted where
  name_length := by decide
  name_pattern := by decide
  description := by decide
  deployments := by
    simp only [shop, List.forall_mem_cons]
    exact ⟨shopDeployment_admits (by decide) (by decide) (by decide),
      shopDeployment_admits (by decide) (by decide) (by decide), List.forall_mem_nil _⟩
  env := List.forall_mem_nil _
  ingress := ⟨.mapping [], rfl⟩
  labels := List.forall_mem_nil _
  annotations := List.forall_mem_nil _
  canary := ⟨.mapping [], rfl⟩

/-- The shop passes with a rollout that was not started by an activation. -/
lemma shopMidway_admits {steps currentStep : Int} (hs : 0 ≤ steps ∧ steps ≤ 100)
    (hc : 0 ≤ currentStep) (target : Dict String Int) :
    ApplicationSpec.shape.Admits (shopMidway steps currentStep target) := by
  have canary : (shopMidway steps currentStep target).canary.Admitted :=
    ⟨hs, by simp [shopMidway], (by decide : Duration.inRange 60000000 = true), hc⟩
  exact ApplicationSpec.admits_iff.2
    (shop_admitted.update shop_admitted.deployments (CanarySpec.admits_iff.2 canary))

/-! ## Operations on valid applications -/

/-- Units that are not negative, unless the target has a number for their process that is negative or
too large for a double. -/
def Accounted (target : Dict String Int) (name : String) (units : Int) : Prop :=
  0 ≤ units ∨ ∃ n, (name, n) ∈ target ∧ ¬ (0 ≤ n ∧ n < 2 ^ 53)

/-- What validation says of an application behind an operation. All but the units passes, and the
units do as well, unless a tick has shared out a target that is not countable. -/
structure Revalidated (op : Operation) (app app' : ApplicationSpec) : Prop where
  others : ApplicationSpec.shape.Admits app'.withoutUnits
  units : ∀ d ∈ app'.deployments, d.UnitsAll (Accounted app.canary.target)
  valid : (∀ now, op = .tick now → Countable app.canary.target) → ApplicationSpec.shape.Admits app'

/-- Negative units behind a tick come from the target. -/
lemma Ticks.accounted (tk : Ticks app now t) (h : ∀ d ∈ app.deployments, d.UnitsAll NotNegative) :
    ∀ d ∈ t.app.deployments, d.UnitsAll (Accounted app.canary.target) := by
  refine tk.unitsAll (fun _ => .inl (by decide)) ?full ?split ?_
  case full =>
    rintro ⟨name, n⟩ he
    rcases lt_or_ge n 0 with hn | hn
    · exact .inr ⟨n, he, by omega⟩
    · exact .inl hn
  case split =>
    rintro ⟨name, n⟩ he weight hw s hs
    by_cases hn : 0 ≤ n ∧ n < 2 ^ 53
    · cases hs.symm.trans (splitUnits?_of_lt hw hn.1 hn.2)
      have hle := keptUnits_le hw hn.1 hn.2
      exact ⟨.inl (by simp only; omega), .inl (by simp only; omega)⟩
    · exact ⟨.inr ⟨n, he, hn⟩, .inr ⟨n, he, hn⟩⟩
  exact fun d hd p hp units hu => .inl (h d hd p hp units hu)

/-- Negative units behind an operation come from the target. -/
lemma Operation.accounted (h : ∀ d ∈ app.deployments, d.UnitsAll NotNegative)
    (performed : op.perform app = .ok app') :
    ∀ d ∈ app'.deployments, d.UnitsAll (Accounted app.canary.target) := by
  by_cases tick : ∃ now, op = .tick now
  · obtain ⟨now, rfl⟩ := tick
    obtain ⟨t, tk, rfl⟩ := Operation.tick_inv performed
    exact tk.accounted h
  · have units := Operation.unitsAll h (fun now e => tick ⟨now, e⟩) performed
    exact fun d hd p hp n hn => .inl (units d hd p hp n hn)

/-- A valid application stays valid behind an operation, unless it is a tick with a target that
cannot be shared out. -/
lemma Operation.admits (valid : ApplicationSpec.shape.Admits app) (given : op.InRange)
    (countable : ∀ now, op = .tick now → Countable app.canary.target)
    (performed : op.perform app = .ok app') : ApplicationSpec.shape.Admits app' := by
  obtain ⟨hv, hu⟩ := ApplicationSpec.admits_iff_units.1 valid
  refine ApplicationSpec.admits_iff_units.2
    ⟨Operation.admits_withoutUnits hv given performed, fun d hd p hp n hn => ?_⟩
  by_cases tick : ∃ now, op = .tick now
  · obtain ⟨now, rfl⟩ := tick
    rcases Operation.accounted hu performed d hd p hp n hn with h | ⟨m, hm, hc⟩
    · exact h
    · exact absurd (countable now rfl _ hm) hc
  · exact Operation.unitsAll hu (fun now e => tick ⟨now, e⟩) performed d hd p hp n hn

/-- Whatever is done to the rollout of a valid application, validation finds no fault with it but
for negative units, and these come from the target of a tick. -/
theorem perform_revalidated (valid : ApplicationSpec.shape.Admits app) (given : op.InRange)
    (performed : op.perform app = .ok app') : Revalidated op app app' := by
  obtain ⟨hv, hu⟩ := ApplicationSpec.admits_iff_units.1 valid
  exact
    { others := Operation.admits_withoutUnits hv given performed
      units := Operation.accounted hu performed
      valid := fun countable => Operation.admits valid given countable performed }

/-- A tick with units that can be shared out leaves the shop valid. -/
theorem shop_revalidated : ∃ app',
    (Operation.tick (shopClock 0)).perform (shopMidway 2 1 [("web", 4)]) = .ok app' ∧
      Revalidated (.tick (shopClock 0)) (shopMidway 2 1 [("web", 4)]) app' := by
  obtain ⟨app', performed⟩ := Outcome.exists_ok_of_toBool (show
    ((Operation.tick (shopClock 0)).perform (shopMidway 2 1 [("web", 4)])).toBool = true by
      decide +kernel)
  have valid := shopMidway_admits (by decide : (0 : Int) ≤ 2 ∧ (2 : Int) ≤ 100)
    (by decide : (0 : Int) ≤ 1) [("web", 4)]
  exact ⟨app', performed, perform_revalidated valid trivial performed⟩

/-- The new deployment of the shop behind its last tick, where the target asks for units below
zero. -/
def shopInDebt : DeploymentSpec :=
  let process name units : ProcessSpec := ⟨name, [], some units, [], none, [], [], none⟩
  { shopDeployment 2 [] with processes := [process "web" (-2), process "worker" 1], weight := 100 }

/-- A target below zero is admitted, and a tick leaves the shop with units that are not. -/
theorem shop_in_debt :
    ApplicationSpec.shape.Admits (shopMidway 2 1 [("web", -2)]) ∧ ∃ app',
      (Operation.tick (shopClock 0)).perform (shopMidway 2 1 [("web", -2)]) = .ok app' ∧
        app'.deployments = [shopInDebt] ∧ ¬ ApplicationSpec.shape.Admits app' := by
  have valid := shopMidway_admits (by decide : (0 : Int) ≤ 2 ∧ (2 : Int) ≤ 100)
    (by decide : (0 : Int) ≤ 1) [("web", -2)]
  obtain ⟨app', performed, deployments⟩ := Outcome.map_ok_iff.1 (show
    ((Operation.tick (shopClock 0)).perform (shopMidway 2 1 [("web", -2)])).map (·.deployments) =
      .ok [shopInDebt] by decide +kernel)
  refine ⟨valid, app', performed, deployments, fun invalid => ?_⟩
  have units := (ApplicationSpec.admits_iff_units.1 invalid).2
  rw [deployments] at units
  have debt : (0 : Int) ≤ -2 := units _ List.mem_cons_self _ List.mem_cons_self _ rfl
  exact absurd debt (by decide)

/-! ## Runs on valid applications -/

/-- An operation is given a target that can be shared out, if it is given one. -/
def Operation.Countable : Operation → Prop
  | .activate _ _ target => ∀ units, readTarget target = .ok units → Canary.Countable units
  | .tick _ | .rollback | .reset => True

/-- A target that can be shared out stays one, or is replaced by one. -/
lemma Operation.countable_target (h : Canary.Countable app.canary.target) (given : op.Countable)
    (performed : op.perform app = .ok app') : Canary.Countable app'.canary.target := by
  cases Operation.performs performed with
  | begun read => exact given _ read
  | ticked tk =>
    cases tk with
    | idle => exact h
    | early => exact h
    | step =>
      simp only [stepTick, settle]
      split <;> exact h
  | rolledBack => exact h
  | reset => exact List.forall_mem_nil _

/-- A valid application stays valid along a run, as long as all targets can be shared out. -/
theorem run_admits (valid : ApplicationSpec.shape.Admits app)
    (countable : Canary.Countable app.canary.target) (ops : List Operation)
    (given : ∀ op ∈ ops, op.InRange ∧ op.Countable) :
    ApplicationSpec.shape.Admits (run app ops) := by
  have step {app app' : ApplicationSpec} (op : Operation) (given : op.InRange ∧ op.Countable)
      (h : ApplicationSpec.shape.Admits app ∧ Canary.Countable app.canary.target)
      (performed : op.perform app = .ok app') :
      ApplicationSpec.shape.Admits app' ∧ Canary.Countable app'.canary.target :=
    ⟨Operation.admits h.1 given.1 (fun _ _ => h.2) performed,
      Operation.countable_target h.2 given.2 performed⟩
  exact (run_preserves_of step ops given ⟨valid, countable⟩).1

end Canary

end Chartwright
