import Chartwright.Proofs.Procfile.RoundTrip

/-!
# Joined procfiles

Two texts with a newline between them say as a procfile what the first one says, updated with what
the second one says. This is so however the first text ends: within a line, with a break of any
kind, or with a carriage return, which makes one break with the newline.
-/

namespace Chartwright.Procfile

/-- The processes that a text says; a text that is refused says none. -/
def processesOf (text : String) : Dict String (List String) :=
  match parse text with
  | .ok p => p.processes
  | .error _ => []

/-- Some processes are those of a first dictionary, updated with those of a second one: the names of
the first keep their places, new ones come behind them, and the commands of the second win. -/
structure Updated (first second joined : Dict String (List String)) : Prop where
  names : Dict.keys joined =
    Dict.keys first ++ (Dict.keys second).filter (· ∉ Dict.keys first)
  commands : ∀ name,
    Dict.get? joined name = (Dict.get? second name).or (Dict.get? first name)

/-! ## Texts -/

lemma definitions_joined (first second : String) :
    definitions (first ++ "\n" ++ second) = definitions first ++ definitions second := by
  obtain ⟨n, lines⟩ := Text.splitLines_append_newline first.toList second.toList
  have joined : (first ++ "\n" ++ second).toList = first.toList ++ '\n' :: second.toList := by
    simp
  -- an empty line between them defines nothing
  have empty : definition? [] = none := by decide
  rw [definitions, joined, lines, List.filterMap_append, List.filterMap_append,
    List.filterMap_replicate_of_none empty, List.nil_append]
  rfl

/-- What a text says is the dictionary of its definitions. -/
lemma processesOf_eq (text : String) : processesOf text =
    Dict.ofList ((definitions text).map fun (name, command) => (name, [command])) := by
  unfold processesOf
  cases h : parse text with
  | ok p => exact (ofProcesses_ok_iff.1 h).1
  | error problem => exact (ofProcesses_error_iff.1 h).2.symm

lemma parse_eq (text : String) : parse text = ofProcesses (processesOf text) := by
  rw [processesOf_eq, parse]

lemma nodup_processesOf (text : String) : (Dict.keys (processesOf text)).Nodup := by
  rw [processesOf_eq]
  exact Dict.nodup_keys_ofList _

lemma parse_error_iff_nil {text : String} {problem : Problem} :
    parse text = .error problem ↔ problem = .empty ∧ processesOf text = [] := by
  rw [parse_eq, ofProcesses_error_iff]

lemma exists_error_iff_nil {text : String} :
    (∃ problem, parse text = .error problem) ↔ processesOf text = [] := by
  simp only [parse_error_iff_nil, exists_eq_left]

lemma processesOf_eq_nil_iff {text : String} :
    processesOf text = [] ↔ ∀ name, name ∉ Dict.keys (processesOf text) := by
  rw [← List.eq_nil_iff_forall_not_mem, Dict.keys, List.map_eq_nil_iff]

/-! ## Joined texts -/

section

variable (first second : String)

lemma processesOf_joined : processesOf (first ++ "\n" ++ second) =
    Dict.merge (processesOf first) (processesOf second) := by
  rw [processesOf_eq second, Dict.merge_ofList (nodup_processesOf first), processesOf_eq first,
    ← Dict.ofList_append, ← List.map_append, ← definitions_joined, processesOf_eq]

lemma updated_joined :
    Updated (processesOf first) (processesOf second) (processesOf (first ++ "\n" ++ second)) := by
  rw [processesOf_joined]
  constructor
  · rw [Dict.keys_merge, Dict.ofList_of_nodup (nodup_processesOf second)]
  · intro name
    exact Dict.get?_merge (nodup_processesOf second)

lemma mem_keys_joined {name : String} :
    name ∈ Dict.keys (processesOf (first ++ "\n" ++ second)) ↔
      name ∈ Dict.keys (processesOf first) ∨ name ∈ Dict.keys (processesOf second) := by
  rw [processesOf_joined]
  exact Dict.mem_keys_merge

lemma processesOf_joined_eq_nil_iff : processesOf (first ++ "\n" ++ second) = [] ↔
    processesOf first = [] ∧ processesOf second = [] := by
  simp only [processesOf_eq_nil_iff, mem_keys_joined, not_or, forall_and]

end

/-- There is one update of a dictionary at most. -/
lemma Updated.unique {first second joined joined' : Dict String (List String)}
    (distinct : (Dict.keys joined).Nodup) (h : Updated first second joined)
    (h' : Updated first second joined') : joined = joined' :=
  Dict.eq_of_get? distinct (h.names.trans h'.names.symm) fun name =>
    (h.commands name).trans (h'.commands name).symm

/-- Two texts with a newline between them are read as the processes of the first, updated with those
of the second, where a text that is refused has none. The routable process is the one of all names
together, in whatever order these are listed. Both texts are refused together just where each of
them is. -/
theorem parse_joined (first second : String) :
    (∀ p, parse (first ++ "\n" ++ second) = .ok p ↔
      Updated (processesOf first) (processesOf second) p.processes ∧
        ∀ names, (∀ n, n ∈ names ↔ n ∈ Dict.keys (processesOf first) ∨
          n ∈ Dict.keys (processesOf second)) → routableName? names = some p.routable) ∧
    ∀ problem, parse (first ++ "\n" ++ second) = .error problem ↔ problem = .empty ∧
      (∃ problem, parse first = .error problem) ∧ ∃ problem, parse second = .error problem := by
  constructor
  · intro p
    rw [parse_eq, ofProcesses_ok_iff]
    constructor
    · rintro ⟨same, routable⟩
      rw [same]
      refine ⟨updated_joined first second, fun names all => ?_⟩
      rw [← routable]
      exact routableName?_congr fun n => (all n).trans (mem_keys_joined first second).symm
    · rintro ⟨updated, routable⟩
      have same := (updated_joined first second).unique (nodup_processesOf _) updated
      exact ⟨same.symm, routable _ fun n => mem_keys_joined first second⟩
  · intro problem
    rw [parse_error_iff_nil, exists_error_iff_nil, exists_error_iff_nil,
      processesOf_joined_eq_nil_iff]

/-- Two parts of a procfile. The first ends with a carriage return, and the second defines one of
its processes anew. -/
def shopParts : String × String :=
  ("web: serve\nworker: celery\r", "\u0085worker: celery -A shop\nbeat: tick")

/-- The parts of the procfile of the shop, joined by a newline. -/
theorem shopParts_joined : ∃ p, parse (shopParts.1 ++ "\n" ++ shopParts.2) = .ok p ∧
    Updated (processesOf shopParts.1) (processesOf shopParts.2) p.processes ∧
    p.processes =
      [("web", ["serve"]), ("worker", ["celery -A shop"]), ("beat", ["tick"])] ∧
    routableName? ["beat", "web", "worker"] = some p.routable := by
  have read : parse (shopParts.1 ++ "\n" ++ shopParts.2) = .ok
      ⟨[("web", ["serve"]), ("worker", ["celery -A shop"]), ("beat", ["tick"])], "web"⟩ := by
    decide +kernel
  obtain ⟨updated, routable⟩ := ((parse_joined shopParts.1 shopParts.2).1 _).1 read
  have first : processesOf shopParts.1 = [("web", ["serve"]), ("worker", ["celery"])] := by
    decide +kernel
  have second : processesOf shopParts.2 =
      [("worker", ["celery -A shop"]), ("beat", ["tick"])] := by
    decide +kernel
  have all (n : String) : n ∈ ["beat", "web", "worker"] ↔
      n ∈ Dict.keys (processesOf shopParts.1) ∨ n ∈ Dict.keys (processesOf shopParts.2) := by
    simp only [first, second, Dict.keys, List.map_cons, List.map_nil, List.mem_cons,
      List.not_mem_nil, or_false]
    constructor
    · rintro (h | h | h) <;> simp [h]
    · rintro ((h | h) | h | h) <;> simp [h]
  exact ⟨_, read, updated, rfl, routable _ all⟩

end Chartwright.Procfile
