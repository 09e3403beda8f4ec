import Chartwright.Proofs.Files.Path
import Chartwright.Proofs.Files.Tree

/-!
# Ways through a file tree

The places that a path passes, and what has to be at them for it to lead somewhere.
-/

namespace Chartwright.FileTree

/-- The places that a path passes, from where it starts to where it leads. -/
def stages (p : Path) : List Place := p.names.scanl step (origin p)

/-- Names lead through directories. -/
inductive Leads (t : FileTree) : Place → List String → Prop where
  | nil {place} : Leads t place []
  | cons {place name names} :
    t.node? place = some .directory →
    name.utf8ByteSize ≤ nameLimit →
    Leads t (step place name) names →
    Leads t place (name :: names)

/-- Names that do not lead back, other than from the working directory and those above it. -/
inductive Onward : Place → List String → Prop where
  | nil {place} : Onward place []
  | cons {place name names} :
    (name = ".." → isAbove place = true) →
    Onward (place ++ [name]) names →
    Onward place (name :: names)

variable {t t' : FileTree} {p : Path} {q place : Place} {name : String} {names : List String}

/-! ## Finding a place -/

lemma node?_origin (t : FileTree) (p : Path) : t.node? (origin p) = some .directory := by
  unfold origin
  split <;> exact node?_of_permanent rfl t

lemma mem_stages_start : place ∈ names.scanl step place := by
  cases names <;> simp

lemma step_of_ne (h : name ≠ "..") (place : Place) : step place name = place ++ [name] :=
  if_neg fun up => h up.1

lemma Onward.of_ne (h : ∀ name ∈ names, name ≠ "..") (place : Place) : Onward place names := by
  induction names generalizing place with
  | nil => exact .nil
  | cons name names ih =>
    obtain ⟨hn, hns⟩ := List.forall_mem_cons.1 h
    exact .cons (fun up => absurd up hn) (ih hns _)

lemma Onward.foldl (onward : Onward place names) : names.foldl step place = place ++ names := by
  induction onward with
  | nil => exact (List.append_nil _).symm
  | @cons place name names top _ ih =>
    have e : step place name = place ++ [name] := if_neg fun up => by simp [top up.1] at up
    rw [List.foldl_cons, e, ih, List.append_assoc]
    rfl

/-- A way that does not go back passes places above its end only. -/
lemma Onward.above (onward : Onward place names) :
    ∀ s ∈ names.scanl step place, s <+: place ++ names := by
  induction onward with
  | nil => exact List.forall_mem_singleton.2 (List.append_nil _ ▸ List.prefix_refl _)
  | @cons place name names top _ ih =>
    have e : step place name = place ++ [name] := if_neg fun up => by simp [top up.1] at up
    rw [← List.append_cons] at ih
    rw [List.scanl_cons, e]
    exact List.forall_mem_cons.2 ⟨List.prefix_append _ _, ih⟩

lemma stages_join (h : IsFileName name) (p : Path) :
    stages (p.join name) = stages p ++ [destination p ++ [name]] := by
  rw [Path.join_fileName h, ← step_of_ne h.not_above (destination p), stages, stages,
    List.scanl_append]
  rfl

lemma destination_join (h : IsFileName name) (p : Path) :
    destination (p.join name) = destination p ++ [name] := by
  rw [Path.join_fileName h, ← step_of_ne h.not_above (destination p)]
  exact List.foldl_append

lemma walk_eq_ok_iff {shown : String} :
    t.walk shown place names = .ok q ↔ Leads t place names ∧ names.foldl step place = q := by
  induction names generalizing place with
  | nil =>
    constructor
    · intro h
      cases h
      exact ⟨.nil, rfl⟩
    · rintro ⟨-, rfl⟩
      rfl
  | cons name names ih =>
    unfold walk
    constructor
    · intro h
      split at h
      case h_1 => cases h
      case h_2 => cases h
      case h_3 there =>
        split at h
        case isTrue => cases h
        case isFalse short =>
          obtain ⟨leads, e⟩ := ih.1 h
          exact ⟨.cons there (Nat.not_lt.1 short) leads, e⟩
    · rintro ⟨leads, e⟩
      cases leads with
      | cons there short leads =>
        rw [there]
        simp only
        rw [if_neg (Nat.not_lt.2 short)]
        exact ih.2 ⟨leads, e⟩

lemma locate_eq_ok_iff :
    t.locate p = .ok q ↔ hasNull p = false ∧ Leads t (origin p) p.names ∧ destination p = q := by
  unfold locate destination
  split
  case isTrue null => simp [null]
  case isFalse null => simp [null, walk_eq_ok_iff]

/-- Names are too long on a way only where one of them is. -/
lemma exists_long_of_walk {shown fault : String}
    (h : t.walk shown place names = .error (.nameTooLong fault)) :
    ∃ name ∈ names, nameLimit < name.utf8ByteSize := by
  induction names generalizing place with
  | nil => cases h
  | cons name names ih =>
    unfold walk at h
    split at h
    case h_1 => cases h
    case h_2 => cases h
    case h_3 =>
      split at h
      case isTrue long => exact ⟨name, List.mem_cons_self, long⟩
      case isFalse =>
        obtain ⟨n, hn, long⟩ := ih h
        exact ⟨n, List.mem_cons_of_mem _ hn, long⟩

lemma locate_ne_nameTooLong (short : ∀ name ∈ p.names, name.utf8ByteSize ≤ nameLimit)
    (shown : String) : t.locate p ≠ .error (.nameTooLong shown) := by
  intro h
  unfold locate at h
  split at h
  case isTrue => cases h
  case isFalse =>
    obtain ⟨n, hn, long⟩ := exists_long_of_walk h
    exact absurd (short n hn) (Nat.not_le.2 long)

/-- A way is there through places that are all directories. -/
lemma Leads.of_stages (directories : ∀ s ∈ names.scanl step place, t.node? s = some .directory)
    (short : ∀ name ∈ names, name.utf8ByteSize ≤ nameLimit) : Leads t place names := by
  induction names generalizing place with
  | nil => exact .nil
  | cons name names ih =>
    rw [List.scanl_cons] at directories
    obtain ⟨here, later⟩ := List.forall_mem_cons.1 directories
    obtain ⟨hn, hns⟩ := List.forall_mem_cons.1 short
    exact .cons here hn (ih later hns)

lemma Leads.directories (leads : Leads t place names)
    (last : t.node? (names.foldl step place) = some .directory) :
    ∀ s ∈ names.scanl step place, t.node? s = some .directory := by
  induction leads with
  | nil => exact List.forall_mem_singleton.2 last
  | cons here _ _ ih =>
    rw [List.scanl_cons]
    exact List.forall_mem_cons.2 ⟨here, ih last⟩

/-- A path to a directory passes directories only. -/
lemma directory_of_isDirectory (h : t.isDirectory p = true) :
    ∀ s ∈ stages p, t.node? s = some .directory := by
  have there : t.at? p = some .directory := of_decide_eq_true h
  unfold at? at there
  split at there
  case h_1 located =>
    obtain ⟨-, leads, rfl⟩ := locate_eq_ok_iff.1 located
    exact leads.directories there
  case h_2 => cases there

/-- A way stays where the directories on it stay. -/
lemma Leads.imp (leads : Leads t place names)
    (kept : ∀ s ∈ names.scanl step place,
      t.node? s = some .directory → t'.node? s = some .directory) : Leads t' place names := by
  induction leads with
  | nil => exact .nil
  | cons here short _ ih =>
    rw [List.scanl_cons] at kept
    obtain ⟨first, later⟩ := List.forall_mem_cons.1 kept
    exact .cons (first here) short (ih later)

lemma Leads.append {rest : List String} (leads : Leads t place names)
    (further : Leads t (names.foldl step place) rest) : Leads t place (names ++ rest) := by
  induction leads with
  | nil => exact further
  | cons here short _ ih => exact .cons here short (ih further)

/-- What is added to a tree is in nobody's way. -/
lemma locate_append (h : t.locate p = .ok q) (added : FileTree) :
    locate (t ++ added) p = .ok q := by
  obtain ⟨null, leads, e⟩ := locate_eq_ok_iff.1 h
  exact locate_eq_ok_iff.2 ⟨null, leads.imp fun _ _ there => node?_append_of_some there added, e⟩

end Chartwright.FileTree
