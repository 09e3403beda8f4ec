import Chartwright.Proofs.Rollout.Units

/-!
# Units by name

Which units each process has behind a step. The target gives units to processes by name, one after
the other, and every other process of the new deployment gets one unit; `Pair.scaled?_processes`
says so of both deployments, and what is found by name follows from it.
-/

namespace Chartwright.Canary

/-- The units of the first process of a name. -/
def unitsOf? (ps : List ProcessSpec) (name : String) : Option Int :=
  (ps.find? (·.name = name)).bind (·.units)

/-- The processes that are not of a target. -/
def outside (target : Dict String Int) (ps : List ProcessSpec) : List ProcessSpec :=
  ps.filter fun p => !Dict.contains target p.name

/-- Units that are given to processes by name, one after the other. -/
def assign (ps : List ProcessSpec) (given : List (String × Int)) : List ProcessSpec :=
  given.foldl (fun ps g => setUnits g.1 g.2 ps) ps

/-- Units of the processes of a target, in the order of the names. -/
def given (target : Dict String Int) (share : Int → Int) : List (String × Int) :=
  (sortedTarget target).map fun t => (t.1, share t.2)

section

variable {target : Dict String Int} {ps : List ProcessSpec} {name other : String} {units : Int}

/-- The units of processes whose names are kept. -/
lemma unitsOf?_map {f : ProcessSpec → ProcessSpec} (named : ∀ p, (f p).name = p.name) :
    unitsOf? (ps.map f) name = (ps.find? (·.name = name)).bind fun p => (f p).units := by
  have same : (fun p : ProcessSpec => decide (p.name = name)) ∘ f =
      fun p => decide (p.name = name) := funext fun p => by simp only [Function.comp_apply, named]
  rw [unitsOf?, List.find?_map, same, Option.bind_map]
  rfl

lemma unitsOf?_setUnits (ps : List ProcessSpec) : unitsOf? (setUnits name units ps) other =
    if name = other ∧ (ps.any (·.name = other)) = true then some units else unitsOf? ps other := by
  induction ps with
  | nil => simp [setUnits]
  | cons p ps ih =>
    unfold setUnits
    split
    case isTrue named =>
      subst named
      by_cases same : p.name = other
      · simp [unitsOf?, same]
      · simp [unitsOf?, same]
    case isFalse named =>
      by_cases same : p.name = other
      · have differ : name ≠ other := fun e => named (same.trans e.symm)
        simp [unitsOf?, same, differ]
      · simp only [unitsOf?, List.find?_cons, same, decide_false, List.any_cons,
          Bool.false_or] at ih ⊢
        exact ih

/-- Whether a process of a name is there is a matter of the names. -/
lemma any_name (ps : List ProcessSpec) :
    ps.any (·.name = name) = (ps.map (·.name)).any (· = name) := by
  rw [List.any_map]
  rfl

/-- A deployment has the processes of its revision. -/
lemma hasProcess_of_revision {d e : DeploymentSpec} (h : d.revision = e.revision) :
    hasProcess d name = hasProcess e name := by
  have names : d.processes.map (·.name) = e.processes.map (·.name) := by
    have same := congrArg (fun r : DeploymentSpec => r.processes.map (·.name)) h
    simp only [DeploymentSpec.revision, DeploymentSpec.withoutUnits, List.map_map] at same
    exact same
  rw [hasProcess, hasProcess, any_name, any_name, names]

lemma assign_cons (ps : List ProcessSpec) (g : String × Int) (rest : List (String × Int)) :
    assign ps (g :: rest) = assign (setUnits g.1 g.2 ps) rest := rfl

/-- Splits give units to the processes of either deployment. -/
lemma Pair.setAll_processes (p : Pair) (splits : List (String × Int × Int)) :
    (p.setAll splits).source.processes =
        assign p.source.processes (splits.map fun s => (s.1, s.2.1)) ∧
      (p.setAll splits).dest.processes =
        assign p.dest.processes (splits.map fun s => (s.1, s.2.2)) := by
  induction splits generalizing p with
  | nil => exact ⟨rfl, rfl⟩
  | cons s rest ih => exact ih (p.setUnits s.1 s.2)

/-- Setting units removes no process. -/
lemma any_setUnits : (setUnits other units ps).any (·.name = name) = ps.any (·.name = name) := by
  rw [any_name, any_name, map_setUnits fun _ _ => rfl]

/-- A process that is given no units keeps its own. -/
lemma unitsOf?_assign_of_not_mem {given : List (String × Int)} (h : name ∉ given.map (·.1)) :
    unitsOf? (assign ps given) name = unitsOf? ps name := by
  induction given generalizing ps with
  | nil => rfl
  | cons g rest ih =>
    obtain ⟨differ, later⟩ := not_or.1 (mt List.mem_cons.2 h)
    rw [assign_cons, ih later, unitsOf?_setUnits, if_neg fun e => differ e.1.symm]

/-- Where no name comes twice, a process has the units that it is given. -/
lemma unitsOf?_assign {given : List (String × Int)} (distinct : (given.map (·.1)).Nodup)
    (mem : (name, units) ∈ given) (has : ps.any (·.name = name) = true) :
    unitsOf? (assign ps given) name = some units := by
  induction given generalizing ps with
  | nil => cases mem
  | cons g rest ih =>
    obtain ⟨fresh, distinct⟩ := List.nodup_cons.1 distinct
    cases mem with
    | head =>
      rw [assign_cons, unitsOf?_assign_of_not_mem fresh, unitsOf?_setUnits, if_pos ⟨rfl, has⟩]
    | tail _ mem =>
      rw [assign_cons]
      exact ih distinct mem (any_setUnits.trans has)

lemma outside_setUnits (h : Dict.contains target name = true) :
    outside target (setUnits name units ps) = outside target ps := by
  induction ps with
  | nil => rfl
  | cons p ps ih =>
    unfold setUnits
    split
    case isTrue named =>
      subst named
      simp only [outside, List.filter_cons, h]
      rfl
    case isFalse =>
      unfold outside at ih ⊢
      rw [List.filter_cons, List.filter_cons, ih]

/-- Units that are given to processes of a target change no other process. -/
lemma outside_assign {given : List (String × Int)}
    (h : ∀ g ∈ given, Dict.contains target g.1 = true) :
    outside target (assign ps given) = outside target ps := by
  induction given generalizing ps with
  | nil => rfl
  | cons g rest ih =>
    obtain ⟨first, later⟩ := List.forall_mem_cons.1 h
    rw [assign_cons, ih later, outside_setUnits first]

/-- A process that is found by name has the name. -/
lemma name_of_find? {p : ProcessSpec} (found : ps.find? (·.name = name) = some p) :
    p.name = name := by
  simpa using List.find?_some found

/-- Single units for the other processes change none of a target. -/
lemma unitsOf?_singleUnits (h : Dict.contains target name = true) :
    unitsOf? (singleUnits target ps) name = unitsOf? ps name := by
  rw [singleUnits, unitsOf?_map fun p => by split <;> rfl, unitsOf?]
  apply Option.bind_congr
  intro p found
  rw [name_of_find? found, if_pos h]

lemma units_of_mem_outside_singleUnits {p : ProcessSpec}
    (mem : p ∈ outside target (singleUnits target ps)) : p.units = some 1 := by
  obtain ⟨mem, out⟩ := List.mem_filter.1 mem
  obtain ⟨q, -, rfl⟩ := List.mem_map.1 mem
  split at out
  case isTrue inside => simp [inside] at out
  case isFalse other => rw [if_neg other]

/-- Full units for the processes of a target. -/
lemma unitsOf?_fullUnits (h : Dict.get? target name = some units)
    (has : ps.any (·.name = name) = true) : unitsOf? (fullUnits target ps) name = some units := by
  obtain ⟨p, found⟩ : ∃ p, ps.find? (·.name = name) = some p := by
    rwa [← Option.isSome_iff_exists, List.find?_isSome, ← List.any_eq_true]
  rw [fullUnits, unitsOf?_map fun p => by split <;> rfl, found, Option.bind_some,
    name_of_find? found, h]

/-- Full units for the processes of a target change no other process. -/
lemma outside_fullUnits (ps : List ProcessSpec) :
    outside target (fullUnits target ps) = outside target ps := by
  induction ps with
  | nil => rfl
  | cons p ps ih =>
    unfold outside fullUnits at ih ⊢
    rw [List.map_cons, List.filter_cons, List.filter_cons, ih]
    cases h : Dict.get? target p.name with
    | none => rfl
    | some units => simp [Dict.contains, h]

end

/-! ## One step -/

section

variable {target : Dict String Int} {p q : Pair} {splits : List (String × Int × Int)}

lemma names_given (share : Int → Int) :
    (given target share).map (·.1) = (sortedTarget target).map (·.1) := by
  rw [given, List.map_map]
  rfl

/-- Where the target has every process once, each is given its share. -/
lemma unitsOf?_assign_given {ps : List ProcessSpec} {name : String} {units : Int}
    (distinct : (Dict.keys target).Nodup) (h : Dict.get? target name = some units)
    (has : ps.any (·.name = name) = true) (share : Int → Int) :
    unitsOf? (assign ps (given target share)) name = some (share units) := by
  have sorted : ((sortedTarget target).map (·.1)).Perm (Dict.keys target) :=
    (List.mergeSort_perm _ _).map _
  have names : ((given target share).map (·.1)).Nodup := by
    rw [names_given]
    exact sorted.nodup_iff.2 distinct
  have mem : (name, share units) ∈ given target share :=
    List.mem_map.2 ⟨(name, units), List.mem_mergeSort.2 (Dict.mem_of_get? h), rfl⟩
  exact unitsOf?_assign names mem has

lemma contains_of_mem_given {share : Int → Int} {g : String × Int} (h : g ∈ given target share) :
    Dict.contains target g.1 = true := by
  obtain ⟨t, mem, rfl⟩ := List.mem_map.1 h
  exact Dict.mem_keys_iff.1 (List.mem_map.2 ⟨t, List.mem_mergeSort.1 mem, rfl⟩)

/-- Small units are split in the way of the shares, one process after the other. -/
lemma splits?_of_countable {weight : Int} (hw : 0 ≤ weight) {targets : List (String × Int)}
    (countable : Countable targets) :
    splits? weight targets = some (targets.map fun t =>
      (t.1, max 1 (keptUnits weight t.2), t.2 - keptUnits weight t.2)) := by
  induction targets with
  | nil => rfl
  | cons t rest ih =>
    obtain ⟨⟨hu, small⟩, later⟩ := List.forall_mem_cons.1 countable
    rw [splits?_cons, splitUnits?_of_lt hw hu small, ih later]
    rfl

/-- What a step does to the processes of both deployments. -/
lemma Pair.scaled?_processes (hq : p.scaled? target = some (q, splits)) (ht : target ≠ [])
    (hw : 0 ≤ p.source.weight) (countable : Countable target) :
    q.source.processes =
        assign p.source.processes (given target fun n => max 1 (keptUnits p.source.weight n)) ∧
      q.dest.processes = singleUnits target
        (assign p.dest.processes (given target fun n => n - keptUnits p.source.weight n)) := by
  have sorted : Countable (sortedTarget target) := fun t mem =>
    countable t (List.mem_mergeSort.1 mem)
  rw [Pair.scaled?, if_neg ht, splits?_of_countable hw sorted, Option.map_some,
    Option.some_inj] at hq
  cases hq
  obtain ⟨source, dest⟩ := p.setAll_processes ((sortedTarget target).map fun t =>
      (t.1, max 1 (keptUnits p.source.weight t.2), t.2 - keptUnits p.source.weight t.2))
  rw [List.map_map] at source dest
  exact ⟨source, congrArg (singleUnits target) dest⟩

end

end Chartwright.Canary
