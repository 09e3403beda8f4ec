import Mathlib.Data.List.Sort
import Mathlib.Data.String.Basic
import Mathlib.Tactic.Lemma
import Chartwright.Procfile
import Chartwright.Proofs.Dict

/-!
# Routable processes

Which process of a deployment receives the traffic from outside. `Routes` says it without regard to
how it is computed: the preferred one if it is there, else the least name of all.
-/

namespace Chartwright.Procfile

/-- A name is that of the routable process among some names. -/
structure Routes (names : List String) (name : String) : Prop where
  present : name ∈ names
  chosen : name = preferredName ∨ (preferredName ∉ names ∧ ∀ other ∈ names, name ≤ other)

/-- There is one routable process at most. -/
lemma Routes.unique {names name name'} (h : Routes names name) (h' : Routes names name') :
    name = name' := by
  rcases h.chosen with e | ⟨hn, hl⟩
  · rcases h'.chosen with e' | ⟨hn', -⟩
    · rw [e, e']
    · exact absurd (e ▸ h.present) hn'
  · rcases h'.chosen with e' | ⟨-, hl'⟩
    · exact absurd (e' ▸ h'.present) hn
    · exact le_antisymm (hl _ h'.present) (hl' _ h.present)

/-- The least of a name and some others is one of them, and not above any. -/
lemma foldl_least (name : String) (names : List String) :
    names.foldl (fun a b => if b < a then b else a) name ∈ name :: names ∧
      ∀ other ∈ name :: names, names.foldl (fun a b => if b < a then b else a) name ≤ other := by
  -- on the other names, for whichever is the least of those before
  induction names generalizing name with
  | nil => exact ⟨List.mem_cons_self, fun other h => by rw [List.mem_singleton.1 h]; rfl⟩
  | cons n names ih =>
    obtain ⟨hm, hl⟩ := ih (if n < name then n else name)
    have hn : (if n < name then n else name) ≤ n ∧ (if n < name then n else name) ≤ name := by
      split
      case isTrue h => exact ⟨le_rfl, h.le⟩
      case isFalse h => exact ⟨le_of_not_gt h, le_rfl⟩
    have hs := hl _ List.mem_cons_self
    rw [List.foldl_cons]
    constructor
    · rcases List.mem_cons.1 hm with e | hm
      · rw [e]
        split <;> simp
      · exact List.mem_cons_of_mem _ (List.mem_cons_of_mem _ hm)
    · intro other ho
      rcases List.mem_cons.1 ho with rfl | ho
      · exact hs.trans hn.2
      · rcases List.mem_cons.1 ho with rfl | ho
        · exact hs.trans hn.1
        · exact hl _ (List.mem_cons_of_mem _ ho)

/-- The routable one of some names. -/
lemma routes_of_routableName? {names name} (h : routableName? names = some name) :
    Routes names name := by
  unfold routableName? at h
  split at h
  case isTrue hp =>
    cases h
    exact ⟨hp, .inl rfl⟩
  case isFalse hp =>
    cases names with
    | nil => cases h
    | cons n names =>
      cases h
      obtain ⟨hm, hl⟩ := foldl_least n names
      exact ⟨hm, .inr ⟨hp, hl⟩⟩

/-- Where no name is routable, there is none. -/
lemma eq_nil_of_routableName? {names} (h : routableName? names = none) : names = [] := by
  unfold routableName? at h
  split at h
  case isTrue => cases h
  case isFalse =>
    cases names with
    | nil => rfl
    | cons n names => cases h

/-- What is routable depends on the names that there are, not on their order or number. -/
lemma Routes.congr {names names' name} (h : Routes names name) (e : ∀ n, n ∈ names ↔ n ∈ names') :
    Routes names' name := by
  refine ⟨(e _).1 h.present, ?_⟩
  rcases h.chosen with hp | ⟨hp, hl⟩
  · exact .inl hp
  · exact .inr ⟨fun hm => hp ((e _).2 hm), fun other ho => hl other ((e _).2 ho)⟩

/-- The same names, in whatever order, have the same routable one. -/
lemma routableName?_congr {names names'} (e : ∀ n, n ∈ names ↔ n ∈ names') :
    routableName? names = routableName? names' := by
  cases h : routableName? names with
  | none =>
    cases eq_nil_of_routableName? h
    have none : names' = [] := List.eq_nil_iff_forall_not_mem.2 fun n hn => by cases (e n).2 hn
    rw [none, h]
  | some name =>
    have routes := (routes_of_routableName? h).congr e
    cases h' : routableName? names' with
    | none => exact absurd routes.present (eq_nil_of_routableName? h' ▸ List.not_mem_nil)
    | some name' => rw [routes.unique (routes_of_routableName? h')]

/-- The names in the dictionary of some processes. -/
lemma mem_specs_iff {specs : List ProcessSpec} {n : String} :
    n ∈ Dict.keys (Dict.ofList (specs.map fun spec => (spec.name, spec.command))) ↔
      n ∈ specs.map (·.name) := by
  rw [Dict.mem_keys_ofList, List.map_map]
  rfl

/-- The procfile of some processes names the routable one. -/
lemma routes_of_ofSpecs {specs : List ProcessSpec} {p} (h : ofSpecs specs = .ok p) :
    Routes (specs.map (·.name)) p.routable := by
  unfold ofSpecs ofProcesses at h
  split at h
  next name hr =>
    cases h
    exact (routes_of_routableName? hr).congr fun _ => mem_specs_iff
  next => cases h

/-- Without processes there is no procfile, and for no other reason. -/
lemma eq_nil_of_ofSpecs {specs : List ProcessSpec} {e} (h : ofSpecs specs = .error e) :
    specs = [] := by
  unfold ofSpecs ofProcesses at h
  split at h
  next => cases h
  next hr =>
    have hk := eq_nil_of_routableName? hr
    rw [List.eq_nil_iff_forall_not_mem] at hk ⊢
    intro spec hs
    exact hk spec.name (mem_specs_iff.2 (List.mem_map_of_mem hs))

/-- Procfiles are equal where they have the same names in one order and the same commands. -/
lemma eq_of_ordered {p q : Procfile} {before : String → String → Prop}
    (asymm : ∀ name later, before name later → ¬ before later name)
    (ordered : (Dict.keys p.processes).Pairwise before)
    (ordered' : (Dict.keys q.processes).Pairwise before)
    (names : ∀ name, name ∈ Dict.keys p.processes ↔ name ∈ Dict.keys q.processes)
    (commands : ∀ name v w, (name, v) ∈ p.processes → (name, w) ∈ q.processes → v = w)
    (routable : Routes (Dict.keys p.processes) p.routable)
    (routable' : Routes (Dict.keys q.processes) q.routable) : p = q := by
  have distinct {keys : List String} (h : keys.Pairwise before) : keys.Nodup := by
    refine h.imp fun {name later} first => ?_
    rintro rfl
    exact asymm _ _ first first
  have same : (Dict.keys p.processes).Perm (Dict.keys q.processes) :=
    (List.perm_ext_iff_of_nodup (distinct ordered) (distinct ordered')).2 names
  have keys : Dict.keys p.processes = Dict.keys q.processes :=
    List.Perm.eq_of_pairwise (fun _ _ _ _ first later => absurd later (asymm _ _ first))
      ordered ordered' same
  have processes : p.processes = q.processes := Dict.eq_of_keys keys commands
  have chosen : p.routable = q.routable := routable.unique (keys ▸ routable')
  cases p
  cases q
  simp only at processes chosen
  rw [processes, chosen]

end Chartwright.Procfile
