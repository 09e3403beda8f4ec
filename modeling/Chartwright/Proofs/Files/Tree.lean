import Mathlib.Data.List.Infix
import Mathlib.Data.List.Nodup
import Mathlib.Tactic.Lemma
import Chartwright.Files.Tree
import Chartwright.Proofs.Dict

/-!
# File trees

What is found in a file tree behind the steps that programs take in it. A tree that a file system
can have has every place once, and in a directory; the steps keep it so.
-/

namespace Chartwright.FileTree

/-- A tree that a file system can have: no place is there twice, those that are always there are not
listed, and what is there is in a directory. -/
structure Sound (t : FileTree) : Prop where
  distinct : (Dict.keys t).Nodup
  listed : ∀ q ∈ Dict.keys t, isAbove q = false ∧ q ≠ root
  parent : ∀ q ∈ Dict.keys t, t.node? q.dropLast = some .directory

instance (t : FileTree) : Decidable t.Sound :=
  decidable_of_iff ((Dict.keys t).Nodup ∧ (∀ q ∈ Dict.keys t, isAbove q = false ∧ q ≠ root) ∧
      ∀ q ∈ Dict.keys t, t.node? q.dropLast = some .directory)
    ⟨fun ⟨a, b, c⟩ => ⟨a, b, c⟩, fun h => ⟨h.distinct, h.listed, h.parent⟩⟩

/-- A directory has a file of a name. -/
def HasFile (t : FileTree) (p : Path) (name : String) (content : ByteArray) : Prop :=
  ∃ place, t.locate p = .ok place ∧ t.node? (place ++ [name]) = some (.file content)

variable {t t' : FileTree} {p : Path} {q place : Place} {name : String} {names : List String}

/-! ## Nodes -/

/-- A place that is always there is a directory. -/
def isPermanent (q : Place) : Bool := isAbove q ∨ q = root

lemma node?_of_permanent (h : isPermanent q = true) (t : FileTree) :
    t.node? q = some .directory := by
  unfold isPermanent at h
  rw [node?, if_pos (of_decide_eq_true h)]

lemma node?_of_not_permanent (h : isPermanent q = false) (t : FileTree) :
    t.node? q = Dict.get? t q := by
  unfold isPermanent at h
  rw [node?, if_neg (of_decide_eq_false h)]

/-- Only what is not there can be there in what is added to a tree. -/
lemma node?_append (t added : FileTree) (q : Place) :
    FileTree.node? (t ++ added) q = (t.node? q).or (Dict.get? added q) := by
  cases h : isPermanent q with
  | true =>
    rw [node?_of_permanent h, node?_of_permanent h]
    rfl
  | false =>
    rw [node?_of_not_permanent h, node?_of_not_permanent h]
    exact Dict.get?_append

lemma node?_append_of_some {node : FileNode} (h : t.node? q = some node) (added : FileTree) :
    FileTree.node? (t ++ added) q = some node := by
  rw [node?_append, h]
  rfl

lemma node?_append_of_unlisted {added : FileTree} (h : ∀ e ∈ added, e.1 ≠ q) (t : FileTree) :
    FileTree.node? (t ++ added) q = t.node? q := by
  have none : Dict.get? added q = none := by
    rw [Dict.get?_eq_none_iff]
    intro mem
    obtain ⟨e, he, rfl⟩ := List.mem_map.1 mem
    exact h e he rfl
  rw [node?_append, none]
  exact Option.or_none

lemma isPermanent_of_node? (h : t.node? q = none) : isPermanent q = false := by
  cases hp : isPermanent q with
  | true =>
    rw [node?_of_permanent hp] at h
    cases h
  | false => rfl

/-- A place with nothing in it is not listed. -/
lemma not_mem_keys_of_node? (h : t.node? q = none) : q ∉ Dict.keys t := by
  rw [node?_of_not_permanent (isPermanent_of_node? h)] at h
  exact Dict.get?_eq_none_iff.1 h

/-- Something new is listed last. -/
lemma put_of_node? (h : t.node? q = none) (node : FileNode) :
    Dict.put t q node = t ++ [(q, node)] :=
  Dict.put_of_not_mem (not_mem_keys_of_node? h) node

/-- What is above a place that is always there is always there. -/
lemma isPermanent_of_append {rest : Place} (h : isPermanent (place ++ rest) = true) :
    isPermanent place = true := by
  unfold isPermanent at h ⊢
  simp only [decide_eq_true_eq] at h ⊢
  rcases h with above | top
  · rw [isAbove, List.all_append, Bool.and_eq_true] at above
    exact .inl above.1
  · cases place with
    | nil => exact .inl rfl
    | cons name names =>
      obtain ⟨rfl, e⟩ := List.cons.inj top
      rw [(List.append_eq_nil_iff.1 e).1]
      exact .inr rfl

lemma isPermanent_of_mem (sound : t.Sound) (h : q ∈ Dict.keys t) : isPermanent q = false := by
  obtain ⟨above, root⟩ := sound.listed q h
  simp [isPermanent, above, root]

/-- The files of a tree are those that it lists. -/
lemma node?_eq_file_iff (sound : t.Sound) {content : ByteArray} :
    t.node? q = some (.file content) ↔ (q, .file content) ∈ t := by
  constructor
  · intro h
    cases hp : isPermanent q with
    | true =>
      rw [node?_of_permanent hp] at h
      cases h
    | false =>
      rw [node?_of_not_permanent hp] at h
      exact Dict.mem_of_get? h
  · intro h
    have listed : q ∈ Dict.keys t := List.mem_map_of_mem h
    rw [node?_of_not_permanent (isPermanent_of_mem sound listed)]
    exact Dict.get?_of_mem sound.distinct h

/-- Above a place where something is, there are directories. -/
lemma Sound.directory_above (sound : t.Sound) {rest : List String} (h : rest ≠ [])
    (listed : place ++ rest ∈ Dict.keys t) : t.node? place = some .directory := by
  induction rest using List.reverseRecOn with
  | nil => exact absurd rfl h
  | append_singleton rest name ih =>
    have parent := sound.parent _ listed
    rw [← List.append_assoc, List.dropLast_concat] at parent
    by_cases empty : rest = []
    · rw [empty, List.append_nil] at parent
      exact parent
    · cases hp : isPermanent (place ++ rest) with
      | false =>
        rw [node?_of_not_permanent hp] at parent
        exact ih empty (Dict.mem_keys_iff.2 (Option.isSome_of_eq_some parent))
      | true => exact node?_of_permanent (isPermanent_of_append hp) t

/-! ## Files of a directory -/

lemma HasFile.unique {content content' : ByteArray} (h : t.HasFile p name content)
    (h' : t.HasFile p name content') : content = content' := by
  obtain ⟨place, located, there⟩ := h
  obtain ⟨place', located', there'⟩ := h'
  rw [located] at located'
  cases located'
  rw [there] at there'
  cases there'
  rfl

lemma fileIn?_eq_some_iff {e : Place × FileNode} {content : ByteArray} :
    fileIn? place e = some (name, content) ↔ e = (place ++ [name], .file content) := by
  obtain ⟨q, node⟩ := e
  cases node with
  | directory => simp [fileIn?]
  | file found =>
    cases last : q.getLast? with
    | none => simp [fileIn?, List.getLast?_eq_none_iff.1 last]
    | some name' =>
      simp only [fileIn?, last, Option.ite_none_right_eq_some, Option.some.injEq, Prod.mk.injEq,
        FileNode.file.injEq]
      constructor
      · rintro ⟨here, rfl, rfl⟩
        exact ⟨here, rfl⟩
      · rintro ⟨rfl, rfl⟩
        rw [List.getLast?_concat, Option.some.injEq] at last
        exact ⟨by rw [last], last.symm, rfl⟩

/-- The files of a directory by what is there under their names. -/
lemma mem_filesIn_iff (sound : t.Sound) {content : ByteArray} :
    (name, content) ∈ t.filesIn p ↔ t.HasFile p name content := by
  unfold filesIn HasFile
  cases t.locate p with
  | error fault => simp
  | ok place =>
    simp only [List.mem_mergeSort, List.mem_filterMap, fileIn?_eq_some_iff, exists_eq_right,
      Except.ok.injEq, exists_eq_left', node?_eq_file_iff sound]

/-- The files of a directory have distinct names. -/
lemma nodup_filesIn (sound : t.Sound) (p : Path) : ((t.filesIn p).map (·.1)).Nodup := by
  unfold filesIn
  cases t.locate p with
  | error fault => exact List.nodup_nil
  | ok place =>
    refine ((List.mergeSort_perm _ _).map _).nodup_iff.2 ?_
    rw [List.Nodup, List.pairwise_map, List.pairwise_filterMap]
    refine (List.pairwise_map.1 sound.distinct).imp ?_
    rintro e e' differ ⟨name, content⟩ h ⟨name', content'⟩ h' rfl
    rw [fileIn?_eq_some_iff.1 h, fileIn?_eq_some_iff.1 h'] at differ
    exact differ rfl

end Chartwright.FileTree
