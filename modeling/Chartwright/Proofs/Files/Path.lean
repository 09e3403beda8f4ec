import Chartwright.Files.Tree
import Chartwright.Proofs.Text.Split

/-!
# Names of files

What a path is that is made of the names of files, and which texts are such names.
-/

namespace Chartwright

/-- A name that a file can have in a directory. -/
structure IsFileName (name : String) : Prop where
  nonempty : name ≠ ""
  no_slash : '/' ∉ name.toList
  no_null : '\x00' ∉ name.toList
  not_here : name ≠ "."
  not_above : name ≠ ".."
  short : name.utf8ByteSize ≤ FileTree.nameLimit

instance (name : String) : Decidable (IsFileName name) :=
  decidable_of_iff (name ≠ "" ∧ '/' ∉ name.toList ∧ '\x00' ∉ name.toList ∧ name ≠ "." ∧
      name ≠ ".." ∧ name.utf8ByteSize ≤ FileTree.nameLimit)
    ⟨fun ⟨a, b, c, d, e, f⟩ => ⟨a, b, c, d, e, f⟩, fun h =>
      ⟨h.nonempty, h.no_slash, h.no_null, h.not_here, h.not_above, h.short⟩⟩

/-! ## Paths -/

namespace Path

variable {name : String}

lemma namesOf_fileName (h : IsFileName name) : namesOf name = [name] := by
  have nonempty : name.toList ≠ [] := mt String.toList_eq_nil_iff.1 h.nonempty
  rw [namesOf, Text.words_of_not_mem h.no_slash nonempty, List.map_singleton,
    String.ofList_toList, List.filter_cons_of_pos (by simpa using h.not_here), List.filter_nil]

lemma namesOf_cons (h : IsFileName name) (rest : String) :
    namesOf (name ++ "/" ++ rest) = name :: namesOf rest := by
  have nonempty : name.toList ≠ [] := mt String.toList_eq_nil_iff.1 h.nonempty
  have text : (name ++ "/" ++ rest).toList = name.toList ++ '/' :: rest.toList := by simp
  rw [namesOf, text, Text.words_cons h.no_slash nonempty, List.map_cons, String.ofList_toList,
    List.filter_cons_of_pos (by simpa using h.not_here)]
  rfl

/-- A path that starts with the name of a file goes on from another one. -/
lemma join_of_start {s : String} (h : IsFileName name) (start : name.toList <+: s.toList)
    (p : Path) : p.join s = { p with names := p.names ++ namesOf s } := by
  obtain ⟨rest, e⟩ := start
  have relative : (ofString s).absolute = false := by
    have first : s.toList.head? ≠ some '/' := by
      intro slash
      rw [← e] at slash
      cases hc : name.toList with
      | nil => exact h.nonempty (String.toList_eq_nil_iff.1 hc)
      | cons c cs =>
        rw [hc] at slash
        cases slash
        exact h.no_slash (hc ▸ List.mem_cons_self)
    simpa [ofString] using first
  rw [join, relative]
  rfl

lemma join_fileName (h : IsFileName name) (p : Path) :
    p.join name = { p with names := p.names ++ [name] } := by
  rw [join_of_start h (List.prefix_refl _), namesOf_fileName h]

end Path

/-! ## Null characters -/

/-- A path has a null character where one of its names has one. -/
lemma FileTree.hasNull_eq_false_iff {p : Path} :
    hasNull p = false ↔ ∀ name ∈ p.names, '\x00' ∉ name.toList := by
  have names : '\x00' ∈ ("/".intercalate p.names).toList ↔
      ∃ name ∈ p.names, '\x00' ∈ name.toList := by
    rw [String.toList_intercalate, show "/".toList = ['/'] from rfl,
      Text.mem_intercalate_iff (by decide)]
    simp
  have shown : '\x00' ∈ p.render.toList ↔ ∃ name ∈ p.names, '\x00' ∈ name.toList := by
    unfold Path.render
    simp only
    split
    case isTrue =>
      rw [String.toList_append, List.mem_append, names]
      simp
    case isFalse =>
      split
      case isTrue none => simp [none]
      case isFalse => exact names
  rw [← Bool.not_eq_true, hasNull, List.contains_iff_mem, shown]
  simp

lemma FileTree.hasNull_join {p : Path} {names : List String} (h : hasNull p = false)
    (plain : ∀ name ∈ names, IsFileName name) :
    hasNull { p with names := p.names ++ names } = false := by
  rw [hasNull_eq_false_iff] at h ⊢
  exact List.forall_mem_append.2 ⟨h, fun name hn => (plain name hn).no_null⟩

end Chartwright
