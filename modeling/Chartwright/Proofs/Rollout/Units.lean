import Chartwright.Proofs.Dict
import Chartwright.Proofs.Rollout.Inversion
import Chartwright.Proofs.Rollout.Split

/-!
# Units along a step

Sharing out units changes the units of processes and nothing else. `withoutUnits` forgets them, so
what a step keeps of a deployment is an equation between deployments without their units.
-/

namespace Chartwright

/-- A process without its units. -/
def ProcessSpec.withoutUnits (p : ProcessSpec) : ProcessSpec := { p with units := none }

/-- A deployment without the units of its processes. -/
def DeploymentSpec.withoutUnits (d : DeploymentSpec) : DeploymentSpec :=
  { d with processes := d.processes.map (·.withoutUnits) }

/-- A deployment without its weight and the units of its processes: what a rollout leaves alone. -/
def DeploymentSpec.revision (d : DeploymentSpec) : DeploymentSpec :=
  { d.withoutUnits with weight := 0 }

/-- Every number of units in a deployment is as it should be for its process. -/
def DeploymentSpec.UnitsAll (Q : String → Int → Prop) (d : DeploymentSpec) : Prop :=
  ∀ p ∈ d.processes, ∀ units ∈ p.units, Q p.name units

/-- The weight of a deployment is no matter of units. -/
lemma DeploymentSpec.weight_of_withoutUnits {d e : DeploymentSpec}
    (h : d.withoutUnits = e.withoutUnits) : d.weight = e.weight :=
  congrArg (·.weight) h

/-- The revision of a deployment is no matter of units. -/
lemma DeploymentSpec.revision_of_withoutUnits {d e : DeploymentSpec}
    (h : d.withoutUnits = e.withoutUnits) : d.revision = e.revision := by
  unfold DeploymentSpec.revision
  rw [h]

namespace Canary

/-- What does not depend on the units of processes is the same when they are set. -/
lemma map_setUnits {β : Type} {f : ProcessSpec → β}
    (h : ∀ (p : ProcessSpec) (units : Option Int), f { p with units } = f p) (name : String)
    (units : Int) (ps : List ProcessSpec) : (setUnits name units ps).map f = ps.map f := by
  induction ps with
  | nil => rfl
  | cons p ps ih =>
    unfold setUnits
    split
    case isTrue => rw [List.map_cons, h, List.map_cons]
    case isFalse => rw [List.map_cons, ih, List.map_cons]

/-- Setting the units of a process changes units only. -/
lemma setUnits_withoutUnits (name : String) (units : Int) (ps : List ProcessSpec) :
    (setUnits name units ps).map (·.withoutUnits) = ps.map (·.withoutUnits) :=
  map_setUnits (fun _ _ => rfl) name units ps

/-- Giving single units changes units only. -/
lemma singleUnits_withoutUnits (target : Dict String Int) (ps : List ProcessSpec) :
    (singleUnits target ps).map (·.withoutUnits) = ps.map (·.withoutUnits) := by
  rw [singleUnits, List.map_map]
  apply List.map_congr_left
  intro p _
  simp only [Function.comp_apply]
  split <;> rfl

/-- Giving full units changes units only. -/
lemma fullUnits_withoutUnits (target : Dict String Int) (ps : List ProcessSpec) :
    (fullUnits target ps).map (·.withoutUnits) = ps.map (·.withoutUnits) := by
  rw [fullUnits, List.map_map]
  apply List.map_congr_left
  intro p _
  simp only [Function.comp_apply]
  split <;> rfl

/-- A deployment keeps its revision in a finished rollout. -/
lemma revision_full (d : DeploymentSpec) (target : Dict String Int) (w : Int) :
    ({ d with processes := fullUnits target d.processes, weight := w } : DeploymentSpec).revision =
      d.revision := by
  simp only [DeploymentSpec.revision, DeploymentSpec.withoutUnits, fullUnits_withoutUnits]

/-- Splits change the units of either deployment only. -/
lemma Pair.setAll_withoutUnits (p : Pair) (splits : List (String × Int × Int)) :
    (p.setAll splits).source.withoutUnits = p.source.withoutUnits ∧
      (p.setAll splits).dest.withoutUnits = p.dest.withoutUnits := by
  induction splits generalizing p with
  | nil => exact ⟨rfl, rfl⟩
  | cons s rest ih =>
    obtain ⟨es, ed⟩ := ih (p.setUnits s.1 s.2)
    constructor
    · refine es.trans ?_
      simp only [Pair.setUnits, DeploymentSpec.withoutUnits, setUnits_withoutUnits]
    · refine ed.trans ?_
      simp only [Pair.setUnits, DeploymentSpec.withoutUnits, setUnits_withoutUnits]

/-- A step changes the units of either deployment only. -/
lemma Pair.scaled?_withoutUnits {p q : Pair} {target splits}
    (h : p.scaled? target = some (q, splits)) :
    q.source.withoutUnits = p.source.withoutUnits ∧ q.dest.withoutUnits = p.dest.withoutUnits := by
  unfold Pair.scaled? at h
  split at h
  case isTrue =>
    cases h
    exact ⟨rfl, rfl⟩
  case isFalse =>
    obtain ⟨ss, _, e⟩ := Option.map_eq_some_iff.1 h
    cases e
    obtain ⟨es, ed⟩ := p.setAll_withoutUnits splits
    refine ⟨es, ?_⟩
    rw [← ed]
    simp only [DeploymentSpec.withoutUnits, singleUnits_withoutUnits]

/-- The weights after a step are those that were moved. -/
lemma Pair.weights_of_step {p q : Pair} {weight : Int} {target splits}
    (h : (p.shift weight).scaled? target = some (q, splits)) :
    q.source.weight = max 0 (p.source.weight - weight) ∧
      q.dest.weight = min fullWeight (p.dest.weight + weight) := by
  obtain ⟨es, ed⟩ := Pair.scaled?_withoutUnits h
  exact ⟨DeploymentSpec.weight_of_withoutUnits es, DeploymentSpec.weight_of_withoutUnits ed⟩

/-! ## Targets -/

/-- The units of a target are not negative, and none is too large for a double to be exact. -/
def Countable (target : Dict String Int) : Prop := ∀ t ∈ target, 0 ≤ t.2 ∧ t.2 < 2 ^ 53

/-- The units of a target are not too large for a double. -/
def Splittable (target : Dict String Int) : Prop := ∀ t ∈ target, |t.2| < unitsLimit

lemma Countable.splittable {target : Dict String Int} (h : Countable target) :
    Splittable target := by
  intro t ht
  obtain ⟨nonneg, small⟩ := h t ht
  have limit : 2 ^ 53 < unitsLimit := by decide +kernel
  rw [abs_of_nonneg nonneg]
  exact small.trans limit

lemma splits?_isSome_iff {weight : Int} (hw : 0 ≤ weight) {targets : List (String × Int)} :
    (splits? weight targets).isSome ↔ Splittable targets := by
  unfold Splittable
  induction targets with
  | nil => exact iff_of_true rfl (List.forall_mem_nil _)
  | cons t rest ih =>
    obtain ⟨name, units⟩ := t
    rw [List.forall_mem_cons, ← ih, ← splitUnits?_isSome_iff hw, splits?_cons]
    cases splitUnits? weight units with
    | none => simp
    | some s => simp

/-- Units are shared out unless some are too large for a double. -/
lemma Pair.exists_scaled?_iff {p : Pair} {target : Dict String Int} (hw : 0 ≤ p.source.weight) :
    (∃ q splits, p.scaled? target = some (q, splits)) ↔ Splittable target := by
  have sorted : Splittable (sortedTarget target) ↔ Splittable target :=
    forall_congr' fun t => imp_congr_left List.mem_mergeSort
  rw [← sorted, ← splits?_isSome_iff hw, Option.isSome_iff_exists]
  unfold Pair.scaled?
  split
  case isTrue ht =>
    subst ht
    rw [sortedTarget, List.mergeSort_nil]
    exact iff_of_true ⟨_, _, rfl⟩ ⟨[], rfl⟩
  case isFalse =>
    cases splits? p.source.weight (sortedTarget target) with
    | none => simp
    | some ss => simp

/-- Small numbers of units are shared out at every weight. -/
lemma Pair.exists_scaled? {p : Pair} {target : Dict String Int} (hw : 0 ≤ p.source.weight)
    (h : Countable target) : ∃ q splits, p.scaled? target = some (q, splits) :=
  (Pair.exists_scaled?_iff hw).2 h.splittable

/-- The splits of some processes are made of their units. -/
lemma mem_splits? {weight : Int} {targets : List (String × Int)} {splits}
    (h : splits? weight targets = some splits) {s} (hs : s ∈ splits) :
    ∃ units, (s.1, units) ∈ targets ∧ splitUnits? weight units = some s.2 := by
  induction targets generalizing splits with
  | nil =>
    cases h
    cases hs
  | cons t rest ih =>
    rw [splits?_cons] at h
    obtain ⟨split, ht, h⟩ := Option.bind_eq_some_iff.1 h
    obtain ⟨ss, hss, rfl⟩ := Option.map_eq_some_iff.1 h
    cases hs with
    | head => exact ⟨t.2, List.mem_cons_self, ht⟩
    | tail _ hs =>
      obtain ⟨units, hm, e⟩ := ih hss hs
      exact ⟨units, List.mem_cons_of_mem _ hm, e⟩

/-! ## Units as they should be -/

variable {Q : String → Int → Prop}

/-- Setting the units of a process to what they should be. -/
lemma setUnits_all {name : String} {units : Int} (hu : Q name units) {ps : List ProcessSpec}
    (h : ∀ p ∈ ps, ∀ n ∈ p.units, Q p.name n) :
    ∀ p ∈ setUnits name units ps, ∀ n ∈ p.units, Q p.name n := by
  induction ps with
  | nil => exact h
  | cons p ps ih =>
    rw [List.forall_mem_cons] at h
    unfold setUnits
    split
    case isTrue hp =>
      refine List.forall_mem_cons.2 ⟨fun n hn => ?_, h.2⟩
      cases hn
      simpa only [hp] using hu
    case isFalse => exact List.forall_mem_cons.2 ⟨h.1, ih h.2⟩

/-- Single units as they should be. -/
lemma singleUnits_all {target : Dict String Int} (one : ∀ name, Q name 1) {ps : List ProcessSpec}
    (h : ∀ p ∈ ps, ∀ n ∈ p.units, Q p.name n) :
    ∀ p ∈ singleUnits target ps, ∀ n ∈ p.units, Q p.name n := by
  rw [singleUnits, List.forall_mem_map]
  intro p hp
  split
  · exact h p hp
  · intro n hn
    cases hn
    exact one p.name

/-- Full units as they should be. -/
lemma fullUnits_all {target : Dict String Int} (full : ∀ t ∈ target, Q t.1 t.2)
    {ps : List ProcessSpec} (h : ∀ p ∈ ps, ∀ n ∈ p.units, Q p.name n) :
    ∀ p ∈ fullUnits target ps, ∀ n ∈ p.units, Q p.name n := by
  rw [fullUnits, List.forall_mem_map]
  intro p hp
  split
  case h_1 units ht =>
    intro n hn
    cases hn
    exact full _ (Dict.mem_of_get? ht)
  case h_2 => exact h p hp

/-- Splits as they should be. -/
lemma Pair.setAll_all {p : Pair} {splits : List (String × Int × Int)}
    (split : ∀ s ∈ splits, Q s.1 s.2.1 ∧ Q s.1 s.2.2)
    (hs : p.source.UnitsAll Q) (hd : p.dest.UnitsAll Q) :
    (p.setAll splits).source.UnitsAll Q ∧ (p.setAll splits).dest.UnitsAll Q := by
  induction splits generalizing p with
  | nil => exact ⟨hs, hd⟩
  | cons s rest ih =>
    obtain ⟨hsplit, hrest⟩ := List.forall_mem_cons.1 split
    exact ih hrest (setUnits_all hsplit.1 hs) (setUnits_all hsplit.2 hd)

/-- The units of a step are as they should be if single units are, and all splits that the weight of
the old deployment makes of the target. -/
lemma Pair.scaled?_all {p q : Pair} {target splits} (h : p.scaled? target = some (q, splits))
    (one : ∀ name, Q name 1)
    (split : ∀ t ∈ target, ∀ s, splitUnits? p.source.weight t.2 = some s → Q t.1 s.1 ∧ Q t.1 s.2)
    (hs : p.source.UnitsAll Q) (hd : p.dest.UnitsAll Q) :
    q.source.UnitsAll Q ∧ q.dest.UnitsAll Q := by
  unfold Pair.scaled? at h
  split at h
  case isTrue =>
    cases h
    exact ⟨hs, hd⟩
  case isFalse =>
    obtain ⟨ss, hss, e⟩ := Option.map_eq_some_iff.1 h
    cases e
    have all : ∀ s ∈ splits, Q s.1 s.2.1 ∧ Q s.1 s.2.2 := by
      intro s hs
      obtain ⟨units, hm, e⟩ := mem_splits? hss hs
      exact split _ (List.mem_mergeSort.1 hm) s.2 e
    obtain ⟨hs', hd'⟩ := Pair.setAll_all all hs hd
    exact ⟨hs', singleUnits_all one hd'⟩

end Canary

end Chartwright
