import Chartwright.Proofs.Outcome
import Chartwright.Proofs.Procfile.RoundTrip

/-!
# Build metadata

What the process types in the metadata of a build say as a procfile. A type that consists of name
characters names a process, and so does one with a newline behind them: such a process has a name
that is no type of the image.
-/

namespace Chartwright.Procfile

/-- The type of an entry of build metadata. -/
inductive TypeOf : Document → String → Prop where
  | given {entries type} :
    Document.get? (.mapping entries) "type" = some (.text type) →
    TypeOf (.mapping entries) type
  | absent {entries} :
    Document.get? (.mapping entries) "type" = none →
    TypeOf (.mapping entries) ""

/-- A text is build metadata whose entries have some types. -/
inductive HasTypes (text : String) (types : List String) : Prop where
  | listed {metadata processes} :
    Json.read? text = some (.mapping metadata) →
    Document.get? (.mapping metadata) "processes" = some (.list processes) →
    List.Forall₂ TypeOf processes types →
    HasTypes text types

/-- A name of a process. -/
structure IsName (name : String) : Prop where
  named : name ≠ ""
  name_chars : ∀ c ∈ name.toList, isNameChar c = true

/-- A type names a process as a whole, or up to a newline at its end. -/
inductive Names : String → String → Prop where
  | literal {name} : IsName name → Names name name
  | newline {name} : IsName name → Names (name ++ "\n") name

/-- The procfile that some types say. -/
structure Offers (types : List String) (p : Procfile) : Prop where
  names : ∀ name, name ∈ Dict.keys p.processes ↔ ∃ type ∈ types, Names type name
  ordered : (Dict.keys p.processes).Pairwise (Dict.Sooner Names · · types)
  commands : ∀ e ∈ p.processes, e.2 = [e.1]
  routable : Routes (Dict.keys p.processes) p.routable

variable {text type name : String} {types : List String} {p : Procfile} {problem : Problem}

/-! ## Types -/

lemma IsName.getLast?_ne (h : IsName name) : name.toList.getLast? ≠ some '\n' := by
  intro last
  have newline := h.name_chars '\n' (List.mem_of_getLast? last)
  exact absurd newline (by decide)

lemma isName_ofList_iff {cs : List Char} :
    IsName (String.ofList cs) ↔ cs ≠ [] ∧ cs.all isNameChar = true := by
  constructor
  · intro h
    refine ⟨fun e => h.named (by rw [e]), List.all_eq_true.2 fun c hc => h.name_chars c ?_⟩
    rw [String.toList_ofList]
    exact hc
  · intro h
    obtain ⟨inhabited, chars⟩ := h
    refine ⟨mt String.ofList_eq_empty_iff.1 inhabited, fun c hc => List.all_eq_true.1 chars c ?_⟩
    rw [String.toList_ofList] at hc
    exact hc

/-- The name of a type is what is in front of a newline at its end. -/
lemma nameOfType?_iff_names : nameOfType? type = some name ↔ Names type name := by
  unfold nameOfType?
  simp only [← isName_ofList_iff, Option.ite_none_right_eq_some, Option.some.injEq]
  constructor
  · rintro ⟨isName, rfl⟩
    split at isName
    case isTrue last =>
      have whole : type = String.ofList type.toList.dropLast ++ "\n" := by
        apply String.toList_inj.1
        rw [String.toList_append, String.toList_ofList]
        exact (List.dropLast_append_getLast? _ last).symm
      rw [if_pos last]
      nth_rewrite 1 [whole]
      exact .newline isName
    case isFalse last =>
      rw [String.ofList_toList] at isName
      rw [if_neg last, String.ofList_toList]
      exact .literal isName
  · intro h
    cases h with
    | literal isName =>
      rw [if_neg isName.getLast?_ne, String.ofList_toList]
      exact ⟨isName, rfl⟩
    | newline isName =>
      have last : (name ++ "\n").toList.getLast? = some '\n' := by
        rw [String.toList_append]
        exact List.getLast?_concat
      have front : (name ++ "\n").toList.dropLast = name.toList := by
        rw [String.toList_append]
        exact List.dropLast_concat
      rw [if_pos last, front, String.ofList_toList]
      exact ⟨isName, rfl⟩

lemma Names.unique {name' : String} (h : Names type name) (h' : Names type name') :
    name = name' :=
  Option.some.inj ((nameOfType?_iff_names.2 h).symm.trans (nameOfType?_iff_names.2 h'))

/-- The type of an entry is the only one that it has. -/
lemma typeOfEntry_of_typeOf {entry : Document} (h : TypeOf entry type) :
    typeOfEntry entry = .ok type := by
  cases h with
  | given h => simp only [typeOfEntry, h]
  | absent h => simp only [typeOfEntry, h]

/-! ## Metadata -/

/-- The processes that some types say. -/
def offered (types : List String) : Dict String (List String) :=
  Dict.ofList ((types.filterMap nameOfType?).map fun name => (name, [name]))

lemma mem_keys_offered : name ∈ Dict.keys (offered types) ↔ ∃ type ∈ types, Names type name := by
  rw [offered, Dict.mem_keys_ofList, List.map_map]
  simp only [Function.comp_def, List.map_id', List.mem_filterMap, nameOfType?_iff_names]

/-- Metadata with a list of processes is read by their types. -/
lemma parseMetadata_of_hasTypes (h : HasTypes text types) :
    parseMetadata text = ofProcesses (offered types) := by
  obtain ⟨read, found, listed⟩ := h
  rename_i metadata processes
  have entries : entriesOfMetadata (.mapping metadata) = .ok processes := by
    simp only [entriesOfMetadata, found]
    split
    case isTrue none =>
      cases processes with
      | nil => rfl
      | cons entry entries => cases none
    case isFalse => rfl
  have types' : processes.mapM typeOfEntry = .ok types :=
    Outcome.mapM_ok_iff.2 (listed.imp fun _ _ => typeOfEntry_of_typeOf)
  simp only [parseMetadata, read, ofMetadata, entries, types', bind, Except.bind, offered]

/-- What is read from metadata is what its types say. -/
lemma offers_of_ofProcesses (h : ofProcesses (offered types) = .ok p) : Offers types p := by
  obtain ⟨hp, routable⟩ := ofProcesses_ok_iff.1 h
  rw [← hp] at routable
  refine ⟨fun name => ?_, ?_, fun e he => ?_, routes_of_routableName? routable⟩
  · rw [hp]
    exact mem_keys_offered
  · have gives (type name : String) : Names type name ↔
        ∃ value, (nameOfType? type).map (fun name => (name, [name])) = some (name, value) := by
      rw [← nameOfType?_iff_names]
      simp [Option.map_eq_some_iff]
    have order := Dict.keys_ofList_sooner gives types
    rw [← List.map_filterMap] at order
    rw [hp]
    exact order
  · rw [hp] at he
    obtain ⟨name, -, rfl⟩ := List.mem_map.1 (Dict.mem_of_mem_ofList he)
    rfl

/-- Some types say one procfile at most. -/
lemma Offers.unique {q : Procfile} (h : Offers types p) (h' : Offers types q) : p = q := by
  refine eq_of_ordered (fun _ _ first => first.asymm fun _ _ _ => Names.unique) h.ordered
    h'.ordered (fun name => (h.names name).trans (h'.names name).symm) ?_ h.routable h'.routable
  intro name v w hv hw
  exact (h.commands _ hv).trans (h'.commands _ hw).symm

lemma ofProcesses_offered_error_iff : ofProcesses (offered types) = .error problem ↔
    problem = .empty ∧ ∀ type ∈ types, ∀ name, ¬ Names type name := by
  have none : offered types = [] ↔ ∀ type ∈ types, ∀ name, ¬ Names type name := by
    rw [← List.map_eq_nil_iff (f := (·.1)), List.eq_nil_iff_forall_not_mem]
    constructor
    · intro h type ht name hn
      exact h name (mem_keys_offered.2 ⟨type, ht, hn⟩)
    · intro h name hm
      obtain ⟨type, ht, hn⟩ := mem_keys_offered.1 hm
      exact h type ht name hn
  rw [ofProcesses_error_iff, none]

/-- What is read from the metadata of a build is what its types say. Where none of them names a
process there is no procfile, and it is refused as empty. A name is that of a process just where it
is a type, unless there is a type that has a newline behind it. -/
theorem metadata_iff_offers (text : String) (types : List String) (listed : HasTypes text types) :
    (∀ p, parseMetadata text = .ok p ↔ Offers types p) ∧
    (∀ problem, parseMetadata text = .error problem ↔
      problem = .empty ∧ ∀ type ∈ types, ∀ name, ¬ Names type name) ∧
    ∀ p name, parseMetadata text = .ok p → name ++ "\n" ∉ types →
      (name ∈ Dict.keys p.processes ↔ name ∈ types ∧ IsName name) := by
  rw [parseMetadata_of_hasTypes listed]
  refine ⟨fun p => ⟨offers_of_ofProcesses, fun h => ?_⟩,
    fun problem => ofProcesses_offered_error_iff, fun p name hp plain => ?_⟩
  · cases hp : ofProcesses (offered types) with
    | ok q => rw [(offers_of_ofProcesses hp).unique h]
    | error problem =>
      obtain ⟨type, ht, hn⟩ := (h.names p.routable).1 h.routable.present
      exact absurd hn ((ofProcesses_offered_error_iff.1 hp).2 type ht p.routable)
  · rw [(offers_of_ofProcesses hp).names]
    constructor
    · rintro ⟨type, ht, hn⟩
      cases hn with
      | literal isName => exact ⟨ht, isName⟩
      | newline isName => exact absurd ht plain
    · rintro ⟨ht, isName⟩
      exact ⟨name, ht, .literal isName⟩

/-- A text between braces. -/
def braced (text : String) : String := "\x7b" ++ text ++ "\x7d"

/-- The entry for a process type. -/
def typeEntry (type : String) : String := braced ("\"type\": \"" ++ type ++ "\"")

/-- The metadata of an image with entries for its processes. -/
def metadataOf (entries : List String) : String :=
  braced ("\"processes\": [" ++ ", ".intercalate entries ++ "]")

/-- The metadata of an image with two processes, one of them listed twice, and entries that name
none. -/
def shopMetadata : String :=
  metadataOf [typeEntry "worker", typeEntry "web", braced "", typeEntry "web 2", typeEntry "worker"]

lemma shopMetadata_types : HasTypes shopMetadata ["worker", "web", "", "web 2", "worker"] := by
  have read : Json.read? shopMetadata = some (.mapping [(.text "processes", .list [
      .mapping [(.text "type", .text "worker")], .mapping [(.text "type", .text "web")],
      .mapping [], .mapping [(.text "type", .text "web 2")],
      .mapping [(.text "type", .text "worker")]])]) := by
    decide +kernel
  exact .listed read rfl (.cons (.given rfl) (.cons (.given rfl) (.cons (.absent rfl)
    (.cons (.given rfl) (.cons (.given rfl) .nil)))))

/-- The processes of the image in the order in which they are first listed. -/
theorem shopMetadata_offers :
    HasTypes shopMetadata ["worker", "web", "", "web 2", "worker"] ∧
      Offers ["worker", "web", "", "web 2", "worker"]
        ⟨[("worker", ["worker"]), ("web", ["web"])], "web"⟩ :=
  ⟨shopMetadata_types,
    ((metadata_iff_offers _ _ shopMetadata_types).1 _).1 (by decide +kernel)⟩

/-- The metadata of an image whose only process type ends in a newline. -/
def newlineMetadata : String := metadataOf [typeEntry "web\\n"]

/-- A process is read that is no type of the image, and its type is no name. -/
theorem newline_is_dropped : HasTypes newlineMetadata ["web\n"] ∧ ¬ IsName "web\n" ∧
    parseMetadata newlineMetadata = .ok ⟨[("web", ["web"])], "web"⟩ ∧ "web" ∉ ["web\n"] := by
  have read : Json.read? newlineMetadata = some (.mapping [(.text "processes", .list [
      .mapping [(.text "type", .text "web\n")]])]) := by
    decide +kernel
  have listed : HasTypes newlineMetadata ["web\n"] :=
    .listed read rfl (.cons (.given rfl) .nil)
  exact ⟨listed, fun isName => isName.getLast?_ne (by decide), by decide +kernel, by decide⟩

end Chartwright.Procfile
