import Mathlib.Data.List.Nodup
import Chartwright.Chart.Compile
import Chartwright.Proofs.Dict
import Chartwright.Proofs.Files.Path
import Chartwright.Text.Bytes

/-!
# Files of a chart

The templates of a chart lie in a directory of their own, next to its values and its configuration,
so that no file takes the place of another one.
-/

namespace Chartwright

/-- The paths of the files of a chart, with the names that they consist of. -/
inductive ChartPath : String → List String → Prop where
  | top {name} : IsFileName name → name ≠ "templates" → ChartPath name [name]
  | template {name} : IsFileName name → ChartPath ("templates/" ++ name) ["templates", name]

namespace ChartPath

variable {path : String} {names : List String}

lemma fileNames (h : ChartPath path names) : ∀ name ∈ names, IsFileName name := by
  cases h with
  | top hn _ => exact List.forall_mem_singleton.2 hn
  | template hn => exact List.forall_mem_cons.2 ⟨by decide, List.forall_mem_singleton.2 hn⟩

/-- The names are joined to the path again. -/
lemma intercalate (h : ChartPath path names) : "/".intercalate names = path := by
  cases h with
  | top => exact String.intercalate_singleton
  | template => rfl

lemma namesOf (h : ChartPath path names) : Path.namesOf path = names := by
  cases h with
  | top hn _ => exact Path.namesOf_fileName hn
  | @template name hn =>
    have templates : IsFileName "templates" := by decide
    rw [← Path.namesOf_fileName hn, ← Path.namesOf_cons templates]
    rfl

lemma join (h : ChartPath path names) (p : Path) :
    p.join path = { p with names := p.names ++ names } := by
  cases h with
  | top hn _ => exact Path.join_fileName hn p
  | @template name hn =>
    have templates : IsFileName "templates" := by decide
    have start : "templates".toList <+: ("templates/" ++ name).toList := by
      rw [String.toList_append]
      exact List.prefix_append_of_prefix (by decide)
    rw [Path.join_of_start templates start, namesOf (.template hn)]

end ChartPath

namespace Chart

variable {c : Chart} {config : ChartConfig}

/-- The templates of a chart, by name, with the paths of their files. -/
def templateFiles (c : Chart) : Dict String String :=
  (c.templates.mergeSort fun a b => a.1 ≤ b.1).map fun (name, text) => ("templates/" ++ name, text)

lemma mem_templateFiles_iff {path text : String} :
    (path, text) ∈ c.templateFiles ↔
      ∃ name, (name, text) ∈ c.templates ∧ "templates/" ++ name = path := by
  simp [templateFiles]

lemma nodup_keys_templateFiles (distinct : (Dict.keys c.templates).Nodup) :
    (Dict.keys c.templateFiles).Nodup := by
  have sorted : ((c.templates.mergeSort fun a b => a.1 ≤ b.1).map (·.1)).Nodup :=
    ((List.mergeSort_perm _ _).map _).nodup_iff.2 distinct
  have e : Dict.keys c.templateFiles =
      ((c.templates.mergeSort fun a b => a.1 ≤ b.1).map (·.1)).map ("templates/" ++ ·) := by
    rw [Dict.keys, templateFiles, List.map_map, List.map_map]
    rfl
  rw [e]
  exact sorted.map fun _ _ => (String.append_right_inj _).1

/-- The files of a chart that are no templates. -/
def topFiles (c : Chart) (config : ChartConfig) : Dict String String :=
  [("values.yaml", c.valuesYaml), ("Chart.yaml", config.yaml)]

lemma keys_topFiles (c : Chart) (config : ChartConfig) :
    Dict.keys (c.topFiles config) = ["values.yaml", "Chart.yaml"] := rfl

/-- No template is in the place of another file. -/
lemma not_mem_keys_topFiles (name : String) :
    "templates/" ++ name ∉ Dict.keys (c.topFiles config) := by
  intro h
  have first : ("templates/" ++ name).toList.head? = some 't' := by simp
  rw [keys_topFiles] at h
  rcases List.mem_cons.1 h with e | h
  · rw [e] at first
    exact absurd first (by decide)
  · rw [List.mem_singleton.1 h] at first
    exact absurd first (by decide)

lemma nodup_keys_append (distinct : (Dict.keys c.templates).Nodup) (config : ChartConfig) :
    (Dict.keys (c.templateFiles ++ c.topFiles config)).Nodup := by
  have top : (Dict.keys (c.topFiles config)).Nodup := by
    rw [keys_topFiles]
    decide
  rw [Dict.keys, List.map_append, List.nodup_append]
  refine ⟨nodup_keys_templateFiles distinct, top, ?_⟩
  rintro path ht _ htop rfl
  obtain ⟨⟨_, text⟩, hf, rfl⟩ := List.mem_map.1 ht
  obtain ⟨name, -, rfl⟩ := mem_templateFiles_iff.1 hf
  exact not_mem_keys_topFiles name htop

/-- The files of a chart are its templates, then its values and its configuration. -/
lemma files_eq (distinct : (Dict.keys c.templates).Nodup) (config : ChartConfig) :
    c.files config = c.templateFiles ++ c.topFiles config :=
  Dict.merge_of_nodup (nodup_keys_append distinct config)

lemma keys_buffered (c : Chart) (config : ChartConfig) :
    (c.buffered config).map (·.1) = Dict.keys (c.files config) := by
  rw [buffered, List.map_map]
  rfl

lemma nodup_keys_buffered (distinct : (Dict.keys c.templates).Nodup) (config : ChartConfig) :
    ((c.buffered config).map (·.1)).Nodup := by
  rw [keys_buffered, files_eq distinct]
  exact nodup_keys_append distinct config

/-- The files of the template directory are the templates. -/
lemma mem_buffered_template_iff (distinct : (Dict.keys c.templates).Nodup) (config : ChartConfig)
    (name : String) (bytes : ByteArray) :
    ("templates/" ++ name, bytes) ∈ c.buffered config ↔
      ∃ text, (name, text) ∈ c.templates ∧ Text.encode text = bytes := by
  have found (text : String) : ("templates/" ++ name, text) ∈ c.files config ↔
      (name, text) ∈ c.templates := by
    rw [files_eq distinct, List.mem_append, mem_templateFiles_iff]
    constructor
    · rintro (⟨_, mem, e⟩ | top)
      · rwa [← (String.append_right_inj _).1 e]
      · exact absurd (List.mem_map_of_mem top) (not_mem_keys_topFiles name)
    · exact fun mem => .inl ⟨name, mem, rfl⟩
  simp only [buffered, List.mem_map, Prod.mk.injEq, Prod.exists]
  constructor
  · rintro ⟨_, text, mem, rfl, e⟩
    exact ⟨text, (found text).1 mem, e⟩
  · rintro ⟨text, mem, e⟩
    exact ⟨_, text, (found text).2 mem, rfl, e⟩

/-- The paths of the files are made of names where the templates have the names of files. -/
lemma exists_chartPath (distinct : (Dict.keys c.templates).Nodup)
    (plain : ∀ name ∈ Dict.keys c.templates, IsFileName name) {path : String}
    (h : path ∈ Dict.keys (c.files config)) : ∃ names, ChartPath path names := by
  rw [files_eq distinct, Dict.keys, List.map_append, List.mem_append] at h
  rcases h with h | h
  · obtain ⟨⟨_, text⟩, hf, rfl⟩ := List.mem_map.1 h
    obtain ⟨name, mem, rfl⟩ := mem_templateFiles_iff.1 hf
    exact ⟨_, .template (plain name (List.mem_map_of_mem mem))⟩
  · rw [← Dict.keys, keys_topFiles] at h
    rcases List.mem_cons.1 h with rfl | h
    · exact ⟨_, .top (by decide) (by decide)⟩
    · rw [List.mem_singleton.1 h]
      exact ⟨_, .top (by decide) (by decide)⟩

end Chart

/-- An application with nothing but a name. -/
def bareShop : ApplicationSpec where
  name := "shop"
  id := ""
  version := none
  description := ""
  deployments := []
  env := []
  ingress := ⟨false, []⟩
  registrySecret := ""
  labels := []
  annotations := []
  serviceAccount := ""
  canary := .none

/-- An environment with nothing but a name. -/
def bareEnvironment : EnvironmentSpec := ⟨"production", "", ⟨"", "", .traefik, ""⟩, none⟩

/-- What the bare application is compiled with. -/
def bareInput (templates : Dict String String) : CompileInput :=
  ⟨bareShop, bareEnvironment, templates, [], .default⟩

/-- The chart of the bare application. -/
def bareChart (templates : Dict String String) : Chart :=
  ⟨bareShop, bareEnvironment, [], ⟨[], []⟩, templates⟩

lemma compile_bareInput (templates : Dict String String) :
    compile (bareInput templates) = .ok (bareChart templates) := rfl

end Chartwright
