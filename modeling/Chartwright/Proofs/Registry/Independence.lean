import Chartwright.Proofs.Registry.Account

/-!
# Independence of keys

The operations of a history on one key are a history of their own, in which the registrations are
counted anew. The key fares in it as it does among the operations on other keys; only its
generations are others, as all keys share one counter. `SameFor` is the relation between the two
sessions that every operation keeps.
-/

namespace Chartwright.Registry

variable {η : Type}

/-- The place of a registration among those of its key. -/
def place (ops : List (Operation η)) (key : String) (i : Nat) : Nat :=
  ((registrations ops).take i).countP (·.1 = key)

/-- An operation of a history as one of a single key, if it is about this key. -/
def Operation.own? (ops : List (Operation η)) (key : String) : Operation η → Option (Operation η)
  | .register k h => if k = key then some (.register k h) else none
  | .cleanup i =>
    if (registrations ops)[i]?.any (·.1 = key) then some (.cleanup (place ops key i)) else none

/-- The operations of a history that are about a key, in their order. -/
def ownOperations (ops : List (Operation η)) (key : String) : List (Operation η) :=
  ops.filterMap (·.own? ops key)

/-- The handle that is stored under a key. -/
def storedHandle? (r : Registry η) (key : String) : Option η :=
  (Dict.get? r.entries key).map (·.handle)

/-! ## Histories of one key -/

section

variable {fails : η → Bool} {ops : List (Operation η)} {op : Operation η} {key k : String}
  {h : η} {i j : Nat}

/-- The registrations of the operations on a key are those of the key. -/
lemma registrations_ownOperations :
    registrations (ownOperations ops key) = (registrations ops).filter (·.1 = key) := by
  have each (op : Operation η) : (op.own? ops key).bind (·.registered?) =
      op.registered?.filter (·.1 = key) := by
    cases op with
    | register k h =>
      by_cases hk : k = key <;> simp [Operation.own?, Operation.registered?, Option.filter, hk]
    | cleanup i =>
      simp only [Operation.own?]
      split <;> rfl
  unfold registrations ownOperations
  rw [List.filterMap_filterMap, List.filter_filterMap]
  exact congrArg (List.filterMap · ops) (funext each)

/-- A registration of a key is found at its place among those of the key. -/
lemma getElem?_registrations_ownOperations (hr : (registrations ops)[i]? = some (key, h)) :
    (registrations (ownOperations ops key))[place ops key i]? = some (key, h) := by
  obtain ⟨hi, e⟩ := List.getElem?_eq_some_iff.1 hr
  have middle : (registrations ops).filter (·.1 = key) =
      ((registrations ops).take i).filter (·.1 = key) ++
        (key, h) :: ((registrations ops).drop (i + 1)).filter (·.1 = key) := by
    rw [← List.filter_cons_of_pos (by simp), ← List.filter_append, ← e, List.getElem_cons_drop,
      List.take_append_drop]
  rw [registrations_ownOperations, middle, place, List.countP_eq_length_filter,
    List.getElem?_append_right (Nat.le_refl _), Nat.sub_self, List.getElem?_cons_zero]

/-- An operation is about a key or not, whatever comes behind the history that it is from. -/
lemma Admissible.own?_concat (adm : Admissible fails ops) {o : Operation η} (ho : o ∈ ops) :
    o.own? (ops ++ [op]) key = o.own? ops key := by
  cases o with
  | register => rfl
  | cleanup i =>
    have hi := adm.cleanup_lt ho
    have e : ∃ more, registrations (ops ++ [op]) = registrations ops ++ more :=
      ⟨_, List.filterMap_append⟩
    obtain ⟨more, e⟩ := e
    simp only [Operation.own?, place, e, List.getElem?_append_left hi,
      List.take_append_of_le_length hi.le]

lemma Admissible.ownOperations_concat (adm : Admissible fails ops) :
    ownOperations (ops ++ [op]) key =
      ownOperations ops key ++ (op.own? (ops ++ [op]) key).toList := by
  unfold ownOperations
  rw [List.filterMap_append, List.filterMap_congr fun o ho => adm.own?_concat ho,
    List.filterMap_cons]
  cases op.own? (ops ++ [op]) key <;> rfl

lemma Admissible.ownOperations_register (adm : Admissible fails ops) :
    ownOperations (ops ++ [.register k h]) key =
      if k = key then ownOperations ops key ++ [.register k h] else ownOperations ops key := by
  rw [adm.ownOperations_concat, Operation.own?]
  split
  case isTrue => rfl
  case isFalse => exact List.append_nil _

lemma Admissible.ownOperations_cleanup (adm : Admissible fails ops)
    (hr : (registrations ops)[j]? = some (k, h)) :
    ownOperations (ops ++ [.cleanup j]) key =
      if k = key then ownOperations ops key ++ [.cleanup (place ops key j)]
      else ownOperations ops key := by
  rw [adm.ownOperations_concat, Operation.own?, place, registrations_cleanup, hr, Option.any_some]
  by_cases hk : k = key
  · rw [if_pos hk, if_pos (decide_eq_true hk)]
    rfl
  · rw [if_neg hk, if_neg (by simpa using hk)]
    exact List.append_nil _

/-- The operations on a key are a history that there can be. -/
lemma Admissible.ownOperations (adm : Admissible fails ops) (key : String) :
    Admissible fails (ownOperations ops key) := by
  induction ops using List.reverseRecOn with
  | nil => exact adm
  | append_singleton ops op ih =>
    have before := adm.before
    have own := ih before
    cases op with
    | register k h =>
      rw [before.ownOperations_register]
      split
      case isTrue =>
        have new : (k, h) ∈ registrations (ops ++ [.register k h]) := by
          rw [registrations_register]
          exact List.mem_append_right _ (List.mem_singleton_self _)
        refine own.register (adm.sound _ new) fun hm => ?_
        -- the handle would be one that was registered before
        rw [registrations_ownOperations] at hm
        obtain ⟨⟨k', h'⟩, hr, rfl⟩ := List.mem_map.1 hm
        obtain ⟨i, hi⟩ := List.mem_iff_getElem?.1 (List.mem_filter.1 hr).1
        exact adm.fresh hi
      case isFalse => exact own
    | cleanup j =>
      obtain ⟨k, h, hr⟩ := adm.exists_cleaned
      rw [before.ownOperations_cleanup hr]
      split
      case isTrue hk =>
        subst hk
        obtain ⟨hlt, -⟩ := List.getElem?_eq_some_iff.1 (getElem?_registrations_ownOperations hr)
        exact own.cleanup hlt
      case isFalse => exact own

end

/-! ## One key in two sessions -/

section

variable [DecidableEq η] {fails : η → Bool} {ops : List (Operation η)} {s t : Session η}
  {key k : String} {h : η} {i j : Nat}

lemma Agrees.storedHandle?_eq_some_iff (ag : Agrees ops s) :
    storedHandle? s.registry key = some h ↔ ∃ i, Stored ops key h i := by
  unfold storedHandle?
  rw [Option.map_eq_some_iff]
  constructor
  · rintro ⟨e, he, rfl⟩
    obtain ⟨i, hs, -⟩ := (ag.entry_iff key e).1 he
    exact ⟨i, hs⟩
  · rintro ⟨i, hs⟩
    exact ⟨⟨h, i + 1⟩, (ag.entry_iff key _).2 ⟨i, hs, rfl⟩, rfl⟩

/-- The generation tells no more about what is stored under a key than the handle does. -/
lemma Agrees.generation?_iff_storedHandle? (ag : Agrees ops s) (adm : Admissible fails ops)
    (hr : (registrations ops)[i]? = some (key, h)) :
    s.registry.generation? key = some (i + 1) ↔ storedHandle? s.registry key = some h := by
  rw [ag.generation?_iff, ag.storedHandle?_eq_some_iff]
  constructor
  · rintro ⟨handle, hs⟩
    cases hs.registered.symm.trans hr
    exact ⟨i, hs⟩
  · rintro ⟨j, hs⟩
    obtain rfl := adm.index_unique hr hs.registered
    exact ⟨h, hs⟩

/-- Two sessions are the same for a key, up to its generations. -/
structure SameFor (ops : List (Operation η)) (key : String) (s t : Session η) : Prop where
  stored : storedHandle? s.registry key = storedHandle? t.registry key
  calls : ∀ (i : Nat) h, (registrations ops)[i]? = some (key, h) →
    s.called.count h = t.called.count h

/-- What a registration makes of a session. -/
lemma Agrees.apply_register (ag : Agrees ops s) (adm : Admissible fails ops) (key k : String)
    (h : η) :
    storedHandle? (s.apply fails (.register k h)).registry key =
        (if k = key then some h else storedHandle? s.registry key) ∧
      (s.apply fails (.register k h)).called =
        s.called ++ (storedHandle? s.registry k).toList := by
  simp only [Session.apply, register_value h fun e he => ag.not_fails adm he]
  refine ⟨?_, rfl⟩
  simp only [storedHandle?, Dict.get?_put]
  split <;> rfl

/-- What a cleanup makes of a session. -/
lemma Agrees.apply_cleanup_stored (ag : Agrees ops s) (adm : Admissible fails ops) (key : String)
    (hr : (registrations ops)[j]? = some (k, h)) :
    storedHandle? (s.apply fails (.cleanup j)).registry key =
        (if k = key ∧ storedHandle? s.registry key = some h then none
          else storedHandle? s.registry key) ∧
      (s.apply fails (.cleanup j)).called = s.called ++ [h] := by
  rw [ag.apply_cleanup adm hr]
  refine ⟨?_, rfl⟩
  simp only [ag.generation?_iff_storedHandle? adm hr]
  by_cases hk : k = key
  · subst hk
    by_cases hh : storedHandle? s.registry k = some h
    · rw [if_pos hh, if_pos ⟨rfl, hh⟩]
      simp [storedHandle?, Dict.get?_erase]
    · simp only [hh, and_false, if_false]
  · simp only [hk, false_and, if_false]
    split
    case isTrue => simp [storedHandle?, Dict.get?_erase, hk]
    case isFalse => rfl

/-- The handles of one key are not those of another. -/
lemma Agrees.not_stored_elsewhere (ag : Agrees ops s) (adm : Admissible fails ops) (hk : k ≠ key)
    (hr : (registrations ops)[i]? = some (key, h)) : storedHandle? s.registry k ≠ some h := by
  intro e
  obtain ⟨j, hs⟩ := ag.storedHandle?_eq_some_iff.1 e
  obtain rfl := adm.index_unique hr hs.registered
  cases hr.symm.trans hs.registered
  exact hk rfl

/-- A registration of a key comes to the same for it in both sessions. -/
lemma SameFor.register_own (same : SameFor ops key s t) (agₛ : Agrees ops s)
    (agₜ : Agrees (ownOperations ops key) t)
    (adm : Admissible fails (ops ++ [.register key h])) :
    SameFor (ops ++ [.register key h]) key (s.apply fails (.register key h))
      (t.apply fails (.register key h)) := by
  have own : Admissible fails (ownOperations ops key ++ [.register key h]) := by
    have h' := adm.ownOperations key
    rwa [adm.before.ownOperations_register, if_pos rfl] at h'
  obtain ⟨storedₛ, calledₛ⟩ := agₛ.apply_register adm.before key key h
  obtain ⟨storedₜ, calledₜ⟩ := agₜ.apply_register own.before key key h
  refine ⟨by rw [storedₛ, storedₜ, if_pos rfl, if_pos rfl], fun i h' hr => ?_⟩
  rw [calledₛ, calledₜ]
  rcases getElem?_registrations_register.1 hr with hr | ⟨-, e⟩
  · rw [List.count_append, List.count_append, same.calls i h' hr, same.stored]
  · -- the new handle was not called in either session
    cases e
    exact (agₛ.count_fresh adm).1.trans (agₜ.count_fresh own).1.symm

/-- A registration of another key is nothing to a key. -/
lemma SameFor.register_other (same : SameFor ops key s t) (ag : Agrees ops s)
    (adm : Admissible fails ops) (hk : k ≠ key) :
    SameFor (ops ++ [.register k h]) key (s.apply fails (.register k h)) t := by
  obtain ⟨stored, called⟩ := ag.apply_register adm key k h
  refine ⟨by rw [stored, if_neg hk, same.stored], fun i h' hr => ?_⟩
  rcases getElem?_registrations_register.1 hr with hr | ⟨-, e⟩
  · have not_called : h' ∉ (storedHandle? s.registry k).toList := fun hm =>
      ag.not_stored_elsewhere adm hk hr (Option.mem_toList.1 hm)
    rw [called, List.count_append, List.count_eq_zero.2 not_called, Nat.add_zero,
      same.calls i h' hr]
  · cases e
    exact absurd rfl hk

/-- A cleanup of a key comes to the same for it in both sessions. -/
lemma SameFor.cleanup_own (same : SameFor ops key s t) (agₛ : Agrees ops s)
    (agₜ : Agrees (ownOperations ops key) t) (adm : Admissible fails ops)
    (hr : (registrations ops)[j]? = some (key, h)) :
    SameFor (ops ++ [.cleanup j]) key (s.apply fails (.cleanup j))
      (t.apply fails (.cleanup (place ops key j))) := by
  obtain ⟨storedₛ, calledₛ⟩ := agₛ.apply_cleanup_stored adm key hr
  obtain ⟨storedₜ, calledₜ⟩ := agₜ.apply_cleanup_stored (adm.ownOperations key) key
    (getElem?_registrations_ownOperations hr)
  refine ⟨by rw [storedₛ, storedₜ, same.stored], fun i h' hr' => ?_⟩
  rw [registrations_cleanup] at hr'
  rw [calledₛ, calledₜ, List.count_append, List.count_append, same.calls i h' hr']

/-- A cleanup of another key is nothing to a key. -/
lemma SameFor.cleanup_other (same : SameFor ops key s t) (ag : Agrees ops s)
    (adm : Admissible fails ops) (hk : k ≠ key)
    (hr : (registrations ops)[j]? = some (k, h)) :
    SameFor (ops ++ [.cleanup j]) key (s.apply fails (.cleanup j)) t := by
  obtain ⟨stored, called⟩ := ag.apply_cleanup_stored adm key hr
  refine ⟨by rw [stored, if_neg (fun e => hk e.1), same.stored], fun i h' hr' => ?_⟩
  rw [registrations_cleanup] at hr'
  have other : h' ∉ [h] := by
    rw [List.mem_singleton]
    rintro rfl
    obtain rfl := adm.index_unique hr' hr
    cases hr.symm.trans hr'
    exact hk rfl
  rw [called, List.count_append, List.count_eq_zero.2 other, Nat.add_zero, same.calls i h' hr']

/-- A key is the same in the session of a history and in that of its own operations. -/
lemma sameFor_ownOperations (adm : Admissible fails ops) (key : String) :
    SameFor ops key (session fails ops) (session fails (ownOperations ops key)) := by
  induction ops using List.reverseRecOn with
  | nil => exact ⟨rfl, fun _ _ _ => rfl⟩
  | append_singleton ops op ih =>
    have before := adm.before
    have same := ih before
    have agₛ := session_agrees before
    have agₜ := session_agrees (before.ownOperations key)
    cases op with
    | register k h =>
      rw [before.ownOperations_register, session_concat]
      split
      case isTrue hk =>
        subst hk
        rw [session_concat]
        exact same.register_own agₛ agₜ adm
      case isFalse hk => exact same.register_other agₛ before hk
    | cleanup j =>
      obtain ⟨k, h, hr⟩ := adm.exists_cleaned
      rw [before.ownOperations_cleanup hr, session_concat]
      split
      case isTrue hk =>
        subst hk
        rw [session_concat]
        exact same.cleanup_own agₛ agₜ before hr
      case isFalse hk => exact same.cleanup_other agₛ before hk hr

end

/-- A key fares in a history as it does when only its own operations are run. -/
structure Independent [DecidableEq η] (fails : η → Bool) (ops : List (Operation η))
    (key : String) : Prop where
  /-- The operations on the key can be run on their own. -/
  admissible : Admissible fails (ownOperations ops key)
  /-- They make the registrations of the key, in their order. -/
  registrations : registrations (ownOperations ops key) = (registrations ops).filter (·.1 = key)
  /-- What a cleanup names among all registrations, it names in its place among those. -/
  named : ∀ (i : Nat) h, (Registry.registrations ops)[i]? = some (key, h) →
    (Registry.registrations (ownOperations ops key))[place ops key i]? = some (key, h)
  contains : (session fails (ownOperations ops key)).registry.contains key =
    (session fails ops).registry.contains key
  handle : storedHandle? (session fails (ownOperations ops key)).registry key =
    storedHandle? (session fails ops).registry key
  /-- The registration that is stored is the same one, with a generation of its own. -/
  generation : ∀ (i : Nat) h, (Registry.registrations ops)[i]? = some (key, h) →
    ((session fails (ownOperations ops key)).registry.generation? key =
        some (place ops key i + 1) ↔
      (session fails ops).registry.generation? key = some (i + 1))
  calls : ∀ (i : Nat) h, (Registry.registrations ops)[i]? = some (key, h) →
    (session fails (ownOperations ops key)).called.count h = (session fails ops).called.count h

/-- The keys of a registry are independent. -/
theorem keys_independent [DecidableEq η] {fails : η → Bool} {ops : List (Operation η)}
    (adm : Admissible fails ops) (key : String) : Independent fails ops key := by
  have own := adm.ownOperations key
  have same := sameFor_ownOperations adm key
  have agₛ := session_agrees adm
  have agₜ := session_agrees own
  constructor
  case admissible => exact own
  case registrations => exact registrations_ownOperations
  case named => exact fun _ _ hr => getElem?_registrations_ownOperations hr
  case contains =>
    have e := congrArg Option.isSome same.stored
    rw [storedHandle?, storedHandle?, Option.isSome_map, Option.isSome_map] at e
    exact e.symm
  case handle => exact same.stored.symm
  case generation =>
    intro i h hr
    rw [agₛ.generation?_iff_storedHandle? adm hr, same.stored]
    exact agₜ.generation?_iff_storedHandle? own (getElem?_registrations_ownOperations hr)
  case calls => exact fun i h hr => (same.calls i h hr).symm

/-- A history of two keys: the shop registers again when the blog has come between. -/
def shopAndBlog : List (Operation Nat) :=
  [.register "shop" 10, .register "blog" 12, .register "shop" 11, .cleanup 0, .cleanup 1]

/-- The shop keeps its second registration, which is the third of all. -/
theorem shopAndBlog_independent :
    Admissible (fun _ => false) shopAndBlog ∧ Independent (fun _ => false) shopAndBlog "shop" ∧
      ownOperations shopAndBlog "shop" = [.register "shop" 10, .register "shop" 11, .cleanup 0] ∧
      (session (fun _ => false) shopAndBlog).registry.generation? "shop" = some 3 ∧
      (session (fun _ => false) (ownOperations shopAndBlog "shop")).registry.generation? "shop" =
        some 2 ∧
      (session (fun _ => false) shopAndBlog).called = [10, 10, 12] := by
  have adm : Admissible (fun _ => false) shopAndBlog :=
    ((((admissible_nil.register rfl (by decide)).register rfl (by decide)).register rfl
      (by decide)).cleanup (by decide)).cleanup (by decide)
  exact ⟨adm, keys_independent adm "shop", by decide, by decide, by decide, by decide⟩

end Chartwright.Registry
