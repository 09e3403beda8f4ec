import Mathlib.Data.List.Nodup
import Mathlib.Tactic.Lemma
import Chartwright.Rollout.Registry

/-!
# Histories of a registry

What the operations on a registry come to, said without the registry: which registration of a key
should be stored, and which was superseded. Both are told for a history with one operation more from
what they are for the history before it.
-/

namespace Chartwright.Registry

/-- The operations on a registry. A cleanup is named by the place of its registration among all
registrations, counted from zero. -/
inductive Operation (η : Type) where
  | register (key : String) (handle : η)
  | cleanup (index : Nat)
deriving DecidableEq

variable {η : Type}

/-- What an operation registers. -/
def Operation.registered? : Operation η → Option (String × η)
  | .register key handle => some (key, handle)
  | .cleanup _ => none

/-- The registrations of a history, in order. -/
def registrations (ops : List (Operation η)) : List (String × η) := ops.filterMap (·.registered?)

/-- A registration of a key is the last one, and its cleanup was not called. -/
structure Stored (ops : List (Operation η)) (key : String) (handle : η) (i : Nat) : Prop where
  registered : (registrations ops)[i]? = some (key, handle)
  latest : ∀ j later, i < j → (registrations ops)[j]? ≠ some (key, later)
  not_cleaned : .cleanup i ∉ ops

/-- A registration of a key was stored when another one of the key arrived. -/
def Superseded (ops : List (Operation η)) (i : Nat) : Prop :=
  ∃ before key handle later after,
    ops = before ++ .register key later :: after ∧ Stored before key handle i

open Classical in
/-- How often a registration was superseded: once at most. -/
noncomputable def supersessions (ops : List (Operation η)) (i : Nat) : Nat :=
  if Superseded ops i then 1 else 0

/-- A history that there can be: what is cleaned up was registered before, no handle fails, and no
handle is registered twice. -/
structure Admissible (fails : η → Bool) (ops : List (Operation η)) : Prop where
  returned : ∀ before i after, ops = before ++ .cleanup i :: after →
    i < (registrations before).length
  sound : ∀ r ∈ registrations ops, fails r.2 = false
  distinct : ((registrations ops).map (·.2)).Nodup

variable {fails : η → Bool} {ops : List (Operation η)} {op : Operation η} {key k : String}
  {handle h : η} {i j : Nat}

/-- The registrations before and behind one of them. -/
lemma registrations_middle {before after : List (Operation η)} :
    registrations (before ++ .register k h :: after) =
      registrations before ++ (k, h) :: registrations after := by
  simp [registrations, Operation.registered?]

/-- One registration more. -/
lemma registrations_register :
    registrations (ops ++ [.register k h]) = registrations ops ++ [(k, h)] :=
  registrations_middle

/-- The registrations by their places, with one more at the end. -/
lemma getElem?_registrations_register {r : String × η} :
    (registrations (ops ++ [.register k h]))[i]? = some r ↔
      (registrations ops)[i]? = some r ∨ (i = (registrations ops).length ∧ r = (k, h)) := by
  rw [registrations_register, List.getElem?_append]
  split
  case isTrue hlt =>
    simp only [Nat.ne_of_lt hlt, false_and, or_false]
  case isFalse hge =>
    have hn : (registrations ops)[i]? = none := List.getElem?_eq_none (by omega)
    rw [hn, List.getElem?_singleton]
    split
    case isTrue he =>
      have hi : i = (registrations ops).length := by omega
      simp [hi, eq_comm]
    case isFalse hne =>
      have hi : i ≠ (registrations ops).length := by omega
      simp [hi]

/-- A cleanup registers nothing. -/
lemma registrations_cleanup : registrations (ops ++ [.cleanup j]) = registrations ops := by
  simp [registrations, Operation.registered?]

/-- A history that can be longer can be as short as it is. -/
lemma Admissible.before (adm : Admissible fails (ops ++ [op])) : Admissible fails ops := by
  have hs : (registrations ops).Sublist (registrations (ops ++ [op])) :=
    (List.sublist_append_left ops [op]).filterMap _
  refine ⟨fun before i after e => ?_, fun r hr => adm.sound r (hs.subset hr), ?_⟩
  · exact adm.returned before i (after ++ [op]) (by rw [e, List.append_assoc, List.cons_append])
  · exact adm.distinct.sublist (hs.map _)

/-- A cleanup is called when its registration was made. -/
lemma Admissible.cleanup_lt (adm : Admissible fails ops) (hc : .cleanup i ∈ ops) :
    i < (registrations ops).length := by
  obtain ⟨before, after, e⟩ := List.append_of_mem hc
  have hs : (registrations before).Sublist (registrations ops) := by
    rw [e]
    exact (List.sublist_append_left before _).filterMap _
  exact Nat.lt_of_lt_of_le (adm.returned before i after e) hs.length_le

/-- The registration that a cleanup is called for. -/
lemma Admissible.exists_cleaned (adm : Admissible fails (ops ++ [.cleanup j])) :
    ∃ k h, (registrations ops)[j]? = some (k, h) :=
  ⟨_, _, List.getElem?_eq_getElem (adm.returned ops j [] rfl)⟩

/-- A cleanup in a history with one operation more is that operation or one of those before. -/
lemma Admissible.returned_concat (adm : Admissible fails ops)
    (last : ∀ i, op = .cleanup i → i < (registrations ops).length) (before : List (Operation η))
    (i : Nat) (after : List (Operation η)) (e : ops ++ [op] = before ++ .cleanup i :: after) :
    i < (registrations before).length := by
  rcases List.eq_nil_or_concat after with rfl | ⟨after, _, rfl⟩
  · obtain ⟨rfl, ho⟩ := List.append_inj' e rfl
    exact last i (List.singleton_inj.1 ho)
  · rw [List.concat_eq_append, ← List.cons_append, ← List.append_assoc] at e
    exact adm.returned before i after (List.append_inj' e rfl).1

lemma admissible_nil : Admissible fails [] where
  returned before i after e := by simp at e
  sound r hr := by cases hr
  distinct := List.nodup_nil

lemma Admissible.register (adm : Admissible fails ops) (sound : fails h = false)
    (fresh : h ∉ (registrations ops).map (·.2)) : Admissible fails (ops ++ [.register k h]) := by
  refine ⟨adm.returned_concat (fun i e => by cases e), ?_, ?_⟩
  · rw [registrations_register]
    exact List.forall_mem_append.2 ⟨adm.sound, List.forall_mem_singleton.2 sound⟩
  · rw [registrations_register, List.map_append]
    exact adm.distinct.append (List.nodup_singleton _) (List.disjoint_singleton.2 fresh)

lemma Admissible.cleanup (adm : Admissible fails ops) (hi : i < (registrations ops).length) :
    Admissible fails (ops ++ [.cleanup i]) := by
  refine ⟨adm.returned_concat fun j e => ?_, ?_, ?_⟩
  · cases e
    exact hi
  · rw [registrations_cleanup]
    exact adm.sound
  · rw [registrations_cleanup]
    exact adm.distinct

/-- What is stored was registered. -/
lemma Stored.lt (hs : Stored ops key handle i) : i < (registrations ops).length := by
  obtain ⟨hlt, -⟩ := List.getElem?_eq_some_iff.1 hs.registered
  exact hlt

/-- Two registrations of one handle are one. -/
lemma Admissible.index_unique (adm : Admissible fails ops)
    (hi : (registrations ops)[i]? = some (key, h)) (hj : (registrations ops)[j]? = some (k, h)) :
    i = j := by
  have hi' : ((registrations ops).map (·.2))[i]? = some h := by rw [List.getElem?_map, hi]; rfl
  have hj' : ((registrations ops).map (·.2))[j]? = some h := by rw [List.getElem?_map, hj]; rfl
  obtain ⟨hlt, -⟩ := List.getElem?_eq_some_iff.1 hi'
  exact (List.getElem?_inj hlt adm.distinct).1 (hi'.trans hj'.symm)

/-- A handle that is registered was not registered before. -/
lemma Admissible.fresh (adm : Admissible fails (ops ++ [.register k h])) :
    (registrations ops)[i]? ≠ some (key, h) := by
  intro hr
  obtain ⟨hlt, -⟩ := List.getElem?_eq_some_iff.1 hr
  have he := adm.index_unique (getElem?_registrations_register.2 (.inl hr))
    (getElem?_registrations_register.2 (.inr ⟨rfl, rfl⟩))
  omega

/-! ## What is stored -/

/-- One registration of a key is stored at most. -/
lemma Stored.unique (hi : Stored ops key handle i) (hj : Stored ops key h j) :
    i = j ∧ handle = h := by
  -- neither of two registrations of the key is later than the other
  have e : i = j := by
    rcases Nat.lt_trichotomy i j with hlt | he | hgt
    · exact absurd hj.registered (hi.latest j h hlt)
    · exact he
    · exact absurd hi.registered (hj.latest i handle hgt)
  subst e
  have hr := hi.registered.symm.trans hj.registered
  cases hr
  exact ⟨rfl, rfl⟩

/-- A registration takes the place of what is stored under its key. -/
lemma stored_register_iff (adm : Admissible fails ops) :
    Stored (ops ++ [.register k h]) key handle i ↔
      (key = k ∧ handle = h ∧ i = (registrations ops).length) ∨
        (key ≠ k ∧ Stored ops key handle i) := by
  constructor
  · rintro ⟨hr, hl, hc⟩
    rw [List.mem_append, not_or] at hc
    rcases getElem?_registrations_register.1 hr with hr | ⟨rfl, e⟩
    · obtain ⟨hlt, -⟩ := List.getElem?_eq_some_iff.1 hr
      refine .inr ⟨fun e => ?_, hr, fun j later hj hr' => ?_, hc.1⟩
      · -- the new registration would be a later one of the key
        exact hl _ h hlt (getElem?_registrations_register.2 (.inr ⟨rfl, by rw [e]⟩))
      · exact hl j later hj (getElem?_registrations_register.2 (.inl hr'))
    · cases e
      exact .inl ⟨rfl, rfl, rfl⟩
  · rintro (⟨rfl, rfl, rfl⟩ | ⟨hne, hr, hl, hc⟩)
    · refine ⟨getElem?_registrations_register.2 (.inr ⟨rfl, rfl⟩), fun j later hj hr => ?_, ?_⟩
      · rcases getElem?_registrations_register.1 hr with hr | ⟨rfl, -⟩
        · obtain ⟨hlt, -⟩ := List.getElem?_eq_some_iff.1 hr
          omega
        · omega
      · rw [List.mem_append, List.mem_singleton, not_or]
        exact ⟨fun hc => Nat.lt_irrefl _ (adm.cleanup_lt hc), fun e => by cases e⟩
    · refine ⟨getElem?_registrations_register.2 (.inl hr), fun j later hj hr' => ?_, ?_⟩
      · rcases getElem?_registrations_register.1 hr' with hr' | ⟨-, e⟩
        · exact hl j later hj hr'
        · cases e
          exact hne rfl
      · rw [List.mem_append, List.mem_singleton, not_or]
        exact ⟨hc, fun e => by cases e⟩

/-- A cleanup takes away what is stored for its registration. -/
lemma stored_cleanup_iff :
    Stored (ops ++ [.cleanup j]) key handle i ↔ Stored ops key handle i ∧ i ≠ j := by
  constructor
  · rintro ⟨hr, hl, hc⟩
    rw [registrations_cleanup] at hr hl
    rw [List.mem_append, List.mem_singleton, not_or] at hc
    exact ⟨⟨hr, hl, hc.1⟩, fun e => hc.2 (by rw [e])⟩
  · rintro ⟨⟨hr, hl, hc⟩, hne⟩
    refine ⟨?_, ?_, ?_⟩
    · rwa [registrations_cleanup]
    · rwa [registrations_cleanup]
    · rw [List.mem_append, List.mem_singleton, not_or]
      exact ⟨hc, fun e => hne (by cases e; rfl)⟩

/-- What was superseded was registered. -/
lemma Superseded.lt (hs : Superseded ops i) : i < (registrations ops).length := by
  obtain ⟨before, key, handle, later, after, rfl, hb⟩ := hs
  have hlt := hb.lt
  rw [registrations_middle, List.length_append]
  omega

/-- What is stored was not superseded. -/
lemma Stored.not_superseded (hs : Stored ops key handle i) : ¬ Superseded ops i := by
  rintro ⟨before, key', handle', later, after, rfl, hb⟩
  have hlt := hb.lt
  have hr := hs.registered
  rw [registrations_middle, List.getElem?_append_left hlt, hb.registered] at hr
  cases hr
  -- the registration that superseded it is a later one of the key
  apply hs.latest (registrations before).length later hlt
  rw [registrations_middle, List.getElem?_append_right (Nat.le_refl _), Nat.sub_self,
    List.getElem?_cons_zero]

/-- What is stored under a key is superseded by an operation that registers the key. -/
lemma superseded_concat_iff :
    Superseded (ops ++ [op]) i ↔
      Superseded ops i ∨
        ∃ key handle later, op = .register key later ∧ Stored ops key handle i := by
  constructor
  · rintro ⟨before, key, handle, later, after, e, hs⟩
    -- the registration that superseded it is the last operation, or one of those before
    rcases List.eq_nil_or_concat after with rfl | ⟨after, last, rfl⟩
    · obtain ⟨hb, ho⟩ := List.append_inj' e rfl
      rw [hb]
      exact .inr ⟨key, handle, later, List.singleton_inj.1 ho, hs⟩
    · rw [List.concat_eq_append, ← List.cons_append, ← List.append_assoc] at e
      obtain ⟨hb, -⟩ := List.append_inj' e rfl
      exact .inl ⟨before, key, handle, later, after, hb, hs⟩
  · rintro (⟨before, key, handle, later, after, rfl, hs⟩ | ⟨key, handle, later, rfl, hs⟩)
    · exact ⟨before, key, handle, later, after ++ [op], by simp, hs⟩
    · exact ⟨ops, key, handle, later, [], rfl, hs⟩

open Classical in
/-- A registration supersedes what is stored under its key. -/
lemma supersessions_register :
    supersessions (ops ++ [.register k h]) i =
      supersessions ops i + if ∃ handle, Stored ops k handle i then 1 else 0 := by
  have hs : Superseded (ops ++ [.register k h]) i ↔
      Superseded ops i ∨ ∃ handle, Stored ops k handle i := by
    rw [superseded_concat_iff]
    simp
  have hn : (∃ handle, Stored ops k handle i) → ¬ Superseded ops i :=
    fun ⟨_, hs⟩ => hs.not_superseded
  unfold supersessions
  rw [hs]
  by_cases he : ∃ handle, Stored ops k handle i
  · simp [he, hn he]
  · simp [he]

/-- A cleanup supersedes nothing. -/
lemma supersessions_cleanup : supersessions (ops ++ [.cleanup j]) i = supersessions ops i := by
  have hs : Superseded (ops ++ [.cleanup j]) i ↔ Superseded ops i := by
    rw [superseded_concat_iff]
    simp
  unfold supersessions
  rw [hs]

end Chartwright.Registry
