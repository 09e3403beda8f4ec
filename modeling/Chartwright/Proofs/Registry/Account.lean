import Mathlib.Data.Set.Card
import Chartwright.Proofs.Dict
import Chartwright.Proofs.Log.Value
import Chartwright.Proofs.Registry.History

/-!
# Accounts of a registry

The registry, the registrations that it handed out and the handles that it called agree with the
history of its operations. `Agrees` is the invariant: every operation of an admissible history keeps
it.
-/

namespace Chartwright.Registry

/-- A registry in use: what it handed out and which handles it called, in order. -/
structure Session (η : Type) where
  registry : Registry η
  given : List (Registration η)
  called : List η

variable {η : Type}

/-- A session after an operation. A cleanup that was not handed out cannot be called. -/
def Session.apply (fails : η → Bool) (s : Session η) : Operation η → Session η
  | .register key handle =>
    let o := (s.registry.register fails key handle).value
    ⟨o.registry, s.given ++ o.result.toList, s.called ++ o.called.toList⟩
  | .cleanup i =>
    match s.given[i]? with
    | none => s
    | some g =>
      let o := s.registry.cleanup fails g
      ⟨o.registry, s.given, s.called ++ o.called.toList⟩

/-- The session of a history. -/
def session (fails : η → Bool) (ops : List (Operation η)) : Session η :=
  ops.foldl (Session.apply fails) ⟨.empty, [], []⟩

/-- One operation more. -/
lemma session_concat (fails : η → Bool) (ops : List (Operation η)) (op : Operation η) :
    session fails (ops ++ [op]) = (session fails ops).apply fails op := by
  rw [session, List.foldl_append]
  rfl

/-- Registering calls the handle that is stored under the key. -/
lemma register_value {fails : η → Bool} {r : Registry η} {key : String} (handle : η)
    (h : ∀ e, Dict.get? r.entries key = some e → fails e.handle = false) :
    (r.register fails key handle).value =
      ⟨⟨r.next + 1, Dict.put r.entries key ⟨handle, r.next⟩⟩,
        (Dict.get? r.entries key).map (·.handle), some ⟨key, handle, r.next⟩⟩ := by
  unfold register
  cases he : Dict.get? r.entries key with
  | none => rfl
  | some previous =>
    simp only [h previous he, Bool.false_eq_true, if_false]
    apply Logged.Gives.value_eq
    apply (Logged.gives_write _).bind
    exact Logged.gives_pure _

/-- The registrations that are handed out for those of a history. -/
def handedOut (rs : List (String × η)) : List (Registration η) :=
  rs.mapIdx fun i r => ⟨r.1, r.2, i + 1⟩

/-- What a session handed out for a registration. -/
lemma getElem?_handedOut {rs : List (String × η)} {i : Nat} {key : String} {h : η}
    (hr : rs[i]? = some (key, h)) : (handedOut rs)[i]? = some ⟨key, h, i + 1⟩ := by
  simp [handedOut, hr]

variable [DecidableEq η] {fails : η → Bool} {ops : List (Operation η)} {s : Session η}

/-- A session agrees with a history. -/
structure Agrees (ops : List (Operation η)) (s : Session η) : Prop where
  next : s.registry.next = (registrations ops).length + 1
  given : s.given = handedOut (registrations ops)
  keys_nodup : (Dict.keys s.registry.entries).Nodup
  entry_iff : ∀ key e, Dict.get? s.registry.entries key = some e ↔
    ∃ i, Stored ops key e.handle i ∧ e.generation = i + 1
  called_registered : ∀ h ∈ s.called,
    ∃ (i : Nat) (key : String), (registrations ops)[i]? = some (key, h)
  calls : ∀ i key h, (registrations ops)[i]? = some (key, h) →
    s.called.count h = ops.count (.cleanup i) + supersessions ops i

/-- At first there is nothing. -/
lemma agrees_nil : Agrees [] (session fails []) where
  next := rfl
  given := rfl
  keys_nodup := List.nodup_nil
  entry_iff key e := by
    constructor
    · intro h
      cases h
    · rintro ⟨i, hs, -⟩
      cases hs.registered
  called_registered h hh := by cases hh
  calls i key h hr := by cases hr

/-- The handles of a session that agrees with an admissible history do not fail. -/
lemma Agrees.not_fails (ag : Agrees ops s) (adm : Admissible fails ops) {key e}
    (he : Dict.get? s.registry.entries key = some e) : fails e.handle = false := by
  obtain ⟨i, hs, -⟩ := (ag.entry_iff key e).1 he
  exact adm.sound _ (List.mem_of_getElem? hs.registered)

/-- The handle that is stored under a key was registered for it. -/
lemma Agrees.previous_registered (ag : Agrees ops s) {key : String} {h : η}
    (hh : h ∈ ((Dict.get? s.registry.entries key).map (·.handle)).toList) :
    ∃ i : Nat, (registrations ops)[i]? = some (key, h) := by
  obtain ⟨e, he, rfl⟩ := Option.map_eq_some_iff.1 (Option.mem_toList.1 hh)
  obtain ⟨i, hs, -⟩ := (ag.entry_iff key e).1 he
  exact ⟨i, hs.registered⟩

open Classical in
/-- A registration calls the handle that it supersedes, and no other. -/
lemma Agrees.count_previous (ag : Agrees ops s) (adm : Admissible fails ops) {i : Nat}
    {key : String} {h : η} (hr : (registrations ops)[i]? = some (key, h)) (k : String) :
    ((Dict.get? s.registry.entries k).map (·.handle)).toList.count h =
      if ∃ handle, Stored ops k handle i then 1 else 0 := by
  cases he : Dict.get? s.registry.entries k with
  | none =>
    have hn : ¬ ∃ handle, Stored ops k handle i := by
      rintro ⟨handle, hs⟩
      have hk := (ag.entry_iff k ⟨handle, i + 1⟩).2 ⟨i, hs, rfl⟩
      rw [he] at hk
      cases hk
    rw [if_neg hn]
    rfl
  | some e =>
    obtain ⟨j, hj, -⟩ := (ag.entry_iff k e).1 he
    -- a handle belongs to one registration, so it tells whether that is the stored one
    by_cases hh : e.handle = h
    · subst hh
      obtain rfl := adm.index_unique hj.registered hr
      rw [if_pos ⟨_, hj⟩]
      simp
    · have hn : ¬ ∃ handle, Stored ops k handle i := by
        rintro ⟨handle, hs⟩
        obtain ⟨rfl, e⟩ := hs.unique hj
        have hx := hs.registered.symm.trans hr
        cases hx
        exact hh e.symm
      rw [if_neg hn]
      simp [hh]

/-- Nothing was done with a handle before it is registered. -/
lemma Agrees.count_fresh (ag : Agrees ops s) {key : String} {handle : η}
    (adm : Admissible fails (ops ++ [.register key handle])) :
    (s.called ++ ((Dict.get? s.registry.entries key).map (·.handle)).toList).count handle = 0 ∧
      (ops ++ [Operation.register key handle]).count (.cleanup (registrations ops).length) = 0 ∧
      supersessions (ops ++ [.register key handle]) (registrations ops).length = 0 := by
  refine ⟨List.count_eq_zero.2 fun hm => ?_, List.count_eq_zero.2 fun hm => ?_, ?_⟩
  · rcases List.mem_append.1 hm with hm | hm
    · obtain ⟨i, k, hr⟩ := ag.called_registered _ hm
      exact adm.fresh hr
    · obtain ⟨i, hr⟩ := ag.previous_registered hm
      exact adm.fresh hr
  · rcases List.mem_append.1 hm with hm | hm
    · exact Nat.lt_irrefl _ (adm.before.cleanup_lt hm)
    · cases List.mem_singleton.1 hm
  · have hsuperseded : ¬ Superseded ops (registrations ops).length :=
      fun hs => Nat.lt_irrefl _ hs.lt
    have hstored : ¬ ∃ h, Stored ops key h (registrations ops).length :=
      fun ⟨h, hs⟩ => Nat.lt_irrefl _ hs.lt
    rw [supersessions_register, supersessions, if_neg hsuperseded, if_neg hstored]

/-- A session that agrees with a history agrees after a registration. -/
lemma Agrees.register {key : String} {handle : η} (ag : Agrees ops s)
    (adm : Admissible fails (ops ++ [.register key handle])) :
    Agrees (ops ++ [.register key handle]) (s.apply fails (.register key handle)) := by
  have before := adm.before
  simp only [Session.apply, register_value handle fun e he => ag.not_fails before he]
  constructor
  case next =>
    simp only [registrations_register, List.length_append, List.length_singleton, ag.next]
  case given =>
    simp only [registrations_register, handedOut, List.mapIdx_concat, ag.given, ag.next,
      Option.toList_some]
  case keys_nodup => exact Dict.nodup_keys_put ag.keys_nodup _ _
  case entry_iff =>
    intro k e
    rw [Dict.get?_put]
    simp only [stored_register_iff before]
    split
    case isTrue hk =>
      subst hk
      rw [Option.some_inj, ag.next]
      constructor
      · rintro rfl
        exact ⟨_, .inl ⟨rfl, rfl, rfl⟩, rfl⟩
      · rintro ⟨i, ⟨-, hh, rfl⟩ | ⟨hne, -⟩, hg⟩
        · cases e
          cases hh
          cases hg
          rfl
        · exact absurd rfl hne
    case isFalse hk =>
      rw [ag.entry_iff]
      simp only [Ne.symm hk, false_and, false_or, ne_eq, not_false_eq_true, true_and]
  case called_registered =>
    intro h hh
    rcases List.mem_append.1 hh with hh | hh
    · obtain ⟨i, k, hr⟩ := ag.called_registered h hh
      exact ⟨i, k, getElem?_registrations_register.2 (.inl hr)⟩
    · obtain ⟨i, hr⟩ := ag.previous_registered hh
      exact ⟨i, key, getElem?_registrations_register.2 (.inl hr)⟩
  case calls =>
    intro i k h hr
    rcases getElem?_registrations_register.1 hr with hr | ⟨rfl, e⟩
    · have hop : List.count (Operation.cleanup i) [Operation.register key handle] = 0 := rfl
      rw [List.count_append, List.count_append, supersessions_register, ag.calls i k h hr,
        ag.count_previous before hr key, hop]
      omega
    · cases e
      obtain ⟨hcalled, hcleanup, hsuperseded⟩ := ag.count_fresh adm
      rw [hcalled, hcleanup, hsuperseded]

/-- A registration is stored where the entry of its key has its generation. -/
lemma Agrees.generation?_iff (ag : Agrees ops s) {i : Nat} {key : String} :
    s.registry.generation? key = some (i + 1) ↔ ∃ handle, Stored ops key handle i := by
  unfold generation?
  rw [Option.map_eq_some_iff]
  constructor
  · rintro ⟨e, he, hg⟩
    obtain ⟨j, hs, hj⟩ := (ag.entry_iff key e).1 he
    obtain rfl : i = j := by omega
    exact ⟨_, hs⟩
  · rintro ⟨handle, hs⟩
    exact ⟨⟨handle, i + 1⟩, (ag.entry_iff key _).2 ⟨i, hs, rfl⟩, rfl⟩

/-- A cleanup calls its handle, and removes the entry of its registration if that is stored. -/
lemma Agrees.apply_cleanup (ag : Agrees ops s) (adm : Admissible fails ops) {i : Nat}
    {key : String} {h : η} (hr : (registrations ops)[i]? = some (key, h)) :
    s.apply fails (.cleanup i) =
      ⟨if s.registry.generation? key = some (i + 1) then
          { s.registry with entries := Dict.erase s.registry.entries key }
        else s.registry, s.given, s.called ++ [h]⟩ := by
  have hg : s.given[i]? = some ⟨key, h, i + 1⟩ := by
    rw [ag.given]
    exact getElem?_handedOut hr
  have hf : fails h = false := adm.sound _ (List.mem_of_getElem? hr)
  simp only [Session.apply, hg, Registry.cleanup, hf, Bool.false_eq_true, if_false]
  split
  case isTrue => rfl
  case isFalse => rfl

/-- A session that agrees with a history agrees after a cleanup. -/
lemma Agrees.cleanup {j : Nat} (ag : Agrees ops s)
    (adm : Admissible fails (ops ++ [.cleanup j])) :
    Agrees (ops ++ [.cleanup j]) (s.apply fails (.cleanup j)) := by
  have before := adm.before
  obtain ⟨k, h, hr⟩ := adm.exists_cleaned
  rw [ag.apply_cleanup before hr]
  constructor
  case next =>
    rw [registrations_cleanup, ← ag.next]
    split <;> rfl
  case given => rw [registrations_cleanup, ← ag.given]
  case keys_nodup =>
    split
    case isTrue => exact Dict.nodup_keys_erase ag.keys_nodup _
    case isFalse => exact ag.keys_nodup
  case entry_iff =>
    intro key e
    simp only [stored_cleanup_iff]
    -- what is stored for another registration stays
    have keep : (¬ ∃ handle, Stored ops key handle j) →
        (Dict.get? s.registry.entries key = some e ↔
          ∃ i, (Stored ops key e.handle i ∧ i ≠ j) ∧ e.generation = i + 1) := by
      intro hn
      rw [ag.entry_iff]
      constructor
      · rintro ⟨i, hs, hg⟩
        exact ⟨i, ⟨hs, fun hi => hn ⟨_, hi ▸ hs⟩⟩, hg⟩
      · rintro ⟨i, ⟨hs, -⟩, hg⟩
        exact ⟨i, hs, hg⟩
    split
    case isTrue hg =>
      obtain ⟨handle, hs⟩ := ag.generation?_iff.1 hg
      simp only [Dict.get?_erase]
      split
      case isTrue hk =>
        subst hk
        simp only [reduceCtorEq, false_iff]
        rintro ⟨i, ⟨hs', hi⟩, -⟩
        exact hi (hs'.unique hs).1
      case isFalse hk =>
        apply keep
        rintro ⟨handle', hs'⟩
        cases hs'.registered.symm.trans hs.registered
        exact hk rfl
    case isFalse hg =>
      apply keep
      rintro ⟨handle, hs⟩
      cases hs.registered.symm.trans hr
      exact hg (ag.generation?_iff.2 ⟨_, hs⟩)
  case called_registered =>
    intro h' hh
    rw [registrations_cleanup]
    rcases List.mem_append.1 hh with hh | hh
    · exact ag.called_registered h' hh
    · rw [List.mem_singleton.1 hh]
      exact ⟨j, k, hr⟩
  case calls =>
    intro i key h' hr'
    rw [registrations_cleanup] at hr'
    rw [List.count_append, List.count_append, supersessions_cleanup, ag.calls i key h' hr']
    by_cases hi : i = j
    · subst hi
      cases hr.symm.trans hr'
      rw [List.count_singleton_self, List.count_singleton_self]
      omega
    · have hh : h ≠ h' := by
        rintro rfl
        exact hi (before.index_unique hr' hr)
      simp [hh, Ne.symm hi]

/-- The session of an admissible history agrees with it. -/
lemma session_agrees (adm : Admissible fails ops) : Agrees ops (session fails ops) := by
  -- from the end, as an operation is judged by the history before it
  induction ops using List.reverseRecOn with
  | nil => exact agrees_nil
  | append_singleton ops op ih =>
    rw [session_concat]
    cases op with
    | register key handle => exact (ih adm.before).register adm
    | cleanup j => exact (ih adm.before).cleanup adm

/-- What the operations of a history have come to. -/
structure Account (fails : η → Bool) (ops : List (Operation η)) : Prop where
  /-- The registrations are numbered from one. -/
  given : (session fails ops).given = handedOut (registrations ops)
  contains_iff : ∀ key, (session fails ops).registry.contains key = true ↔
    ∃ handle i, Stored ops key handle i
  generation : ∀ key handle i, Stored ops key handle i →
    (session fails ops).registry.generation? key = some (i + 1)
  size : (session fails ops).registry.size = Set.ncard {key | ∃ handle i, Stored ops key handle i}
  calls : ∀ i key handle, (registrations ops)[i]? = some (key, handle) →
    (session fails ops).called.count handle = ops.count (.cleanup i) + supersessions ops i
  /-- What is stored was never called. -/
  stored_not_called : ∀ key handle i, Stored ops key handle i → handle ∉ (session fails ops).called
  /-- What was superseded or cleaned up was called. -/
  left_called : ∀ i key handle, (registrations ops)[i]? = some (key, handle) →
    Superseded ops i ∨ .cleanup i ∈ ops → handle ∈ (session fails ops).called
  /-- A cleanup of what is not stored changes nothing in the registry. -/
  stale : ∀ i, i < (registrations ops).length → (¬ ∃ key handle, Stored ops key handle i) →
    (session fails (ops ++ [.cleanup i])).registry = (session fails ops).registry
  /-- When all are cleaned up, nothing is stored. -/
  cleared : (∀ i, i < (registrations ops).length → .cleanup i ∈ ops) →
    (session fails ops).registry.entries = []

/-- A key has an entry where one of its registrations is stored. -/
lemma Agrees.mem_keys_iff (ag : Agrees ops s) {key : String} :
    key ∈ Dict.keys s.registry.entries ↔ ∃ handle i, Stored ops key handle i := by
  rw [Dict.mem_keys_iff, Option.isSome_iff_exists]
  constructor
  · rintro ⟨e, he⟩
    obtain ⟨i, hs, -⟩ := (ag.entry_iff key e).1 he
    exact ⟨_, i, hs⟩
  · rintro ⟨handle, i, hs⟩
    exact ⟨⟨handle, i + 1⟩, (ag.entry_iff key _).2 ⟨i, hs, rfl⟩⟩

/-- The operations on a registry come to what their history says, in whatever order they came. -/
theorem session_account (adm : Admissible fails ops) : Account fails ops := by
  have ag := session_agrees adm
  constructor
  case given => exact ag.given
  case contains_iff =>
    intro key
    rw [← ag.mem_keys_iff, Dict.mem_keys_iff]
    rfl
  case generation => exact fun key handle i hs => ag.generation?_iff.2 ⟨handle, hs⟩
  case size =>
    have hs : {key | ∃ handle i, Stored ops key handle i} =
        ((Dict.keys (session fails ops).registry.entries).toFinset : Set String) := by
      ext key
      rw [List.coe_toFinset, Set.mem_ofPred_eq, Set.mem_ofPred_eq, ag.mem_keys_iff]
    rw [hs, Set.ncard_coe_finset, List.toFinset_card_of_nodup ag.keys_nodup, Dict.keys,
      List.length_map]
    rfl
  case calls => exact ag.calls
  case stored_not_called =>
    intro key handle i hs
    rw [← List.count_eq_zero, ag.calls i key handle hs.registered,
      List.count_eq_zero.2 hs.not_cleaned, supersessions, if_neg hs.not_superseded]
  case left_called =>
    intro i key handle hr hl
    rw [← List.count_pos_iff, ag.calls i key handle hr]
    rcases hl with hs | hc
    · rw [supersessions, if_pos hs]
      omega
    · have hp := List.count_pos_iff.2 hc
      omega
  case stale =>
    intro i hi hn
    obtain ⟨⟨key, h⟩, hr⟩ : ∃ r, (registrations ops)[i]? = some r :=
      ⟨_, List.getElem?_eq_getElem hi⟩
    rw [session_concat, ag.apply_cleanup adm hr]
    refine if_neg fun hg => hn ?_
    obtain ⟨handle, hs⟩ := ag.generation?_iff.1 hg
    exact ⟨key, handle, hs⟩
  case cleared =>
    intro hc
    have hk : Dict.keys (session fails ops).registry.entries = [] := by
      rw [List.eq_nil_iff_forall_not_mem]
      intro key hk
      obtain ⟨handle, i, hs⟩ := ag.mem_keys_iff.1 hk
      exact hs.not_cleaned (hc i hs.lt)
    exact List.map_eq_nil_iff.1 hk

/-- A history in which a late cleanup comes when its registration was superseded, and another one
comes twice. -/
def lateCleanup : List (Operation Nat) :=
  [.register "shop" 10, .register "shop" 11, .cleanup 0, .register "blog" 12, .cleanup 2,
    .cleanup 2]

/-- The account of a history with a late cleanup: the shop keeps its second registration. -/
theorem lateCleanup_account :
    Admissible (fun _ => false) lateCleanup ∧ Account (fun _ => false) lateCleanup ∧
      (session (fun _ => false) lateCleanup).registry.generation? "shop" = some 2 ∧
      (session (fun _ => false) lateCleanup).called = [10, 10, 12, 12] := by
  have adm : Admissible (fun _ => false) lateCleanup := by
    refine ⟨fun before i after e => ?_, fun _ _ => rfl, by decide⟩
    simp [lateCleanup, List.cons_eq_append_iff] at e
    obtain ⟨_, rfl, ⟨rfl, rfl, -⟩ | ⟨_, rfl, ⟨rfl, rfl, -⟩ | ⟨rfl, rfl, -⟩⟩⟩ := e
    · decide
    · decide
    · decide
  exact ⟨adm, session_account adm, by decide, by decide⟩

end Chartwright.Registry
