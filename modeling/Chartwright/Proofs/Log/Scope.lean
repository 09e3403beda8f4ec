import Chartwright.Proofs.Dict
import Chartwright.Proofs.Log.Value

/-!
# Scopes

What a scope of the log binds and gives back. Its keys are bound behind it as they were in front of
it, whatever ran inside, and all other keys as they were left. The same comes of handing out a token
for each binding, with which that binding is undone.
-/

namespace Chartwright

/-- What binding a key hands out: how the key was bound before. -/
structure LogToken where
  key : String
  before : Option Document

namespace LogContext

/-- Binds values one after the other and hands out a token for each. -/
def bindWithTokens : LogContext → Dict String Document → LogContext × List LogToken
  | context, [] => (context, [])
  | context, (key, value) :: values =>
    let (bound, tokens) := bindWithTokens (Dict.put context key value) values
    (bound, ⟨key, Dict.get? context key⟩ :: tokens)

/-- Undoes the binding that a token was handed out for. -/
def reset (context : LogContext) (token : LogToken) : LogContext :=
  match token.before with
  | some value => Dict.put context token.key value
  | none => Dict.erase context token.key

variable {old context : LogContext} {key k : String} {values : Dict String Document}

/-- Unbinding keys leaves the others. -/
lemma get?_unbind_of_not_mem {keys : List String} (h : k ∉ keys) :
    Dict.get? (unbind context keys) k = Dict.get? context k := by
  induction keys generalizing context with
  | nil => rfl
  | cons key keys ih =>
    obtain ⟨differ, h⟩ := not_or.1 (mt List.mem_cons.2 h)
    have step : unbind context (key :: keys) = unbind (Dict.erase context key) keys := rfl
    rw [step, ih h, Dict.get?_erase, if_neg (Ne.symm differ)]

/-- Restoring a key changes that key only. -/
lemma get?_restoreKey :
    Dict.get? (restoreKey old context key) k =
      if key = k then Dict.get? old k else Dict.get? context k := by
  unfold restoreKey
  cases h : Dict.get? old key with
  | some value =>
    simp only [Dict.get?_put]
    split
    case isTrue same => rw [← h, same]
    case isFalse => rfl
  | none =>
    simp only [Dict.get?_erase]
    split
    case isTrue same => rw [← h, same]
    case isFalse => rfl

/-- Restoring keys changes these only. -/
lemma get?_restore {keys : List String} :
    Dict.get? (restore old context keys) k =
      if k ∈ keys then Dict.get? old k else Dict.get? context k := by
  induction keys generalizing context with
  | nil => rfl
  | cons key keys ih =>
    have step : restore old context (key :: keys) = restore old (restoreKey old context key) keys :=
      rfl
    rw [step, ih, get?_restoreKey]
    by_cases hk : k ∈ keys
    · rw [if_pos hk, if_pos (List.mem_cons_of_mem _ hk)]
    · simp only [hk, List.mem_cons, or_false, if_false, eq_comm (a := k)]

/-- A key that is bound and restored at once is bound as before. -/
lemma restoreKey_put (old : LogContext) (key : String) (value : Document) :
    restoreKey old (Dict.put old key value) key = old := by
  unfold restoreKey
  cases h : Dict.get? old key with
  | some before => exact (Dict.put_put _ _ _ _).trans (Dict.put_of_get? h)
  | none => exact Dict.erase_put (Dict.get?_eq_none_iff.1 h) value

/-- A key is restored whether other values are bound before or after that. -/
lemma restoreKey_merge (fresh : key ∉ Dict.keys values)
    (kept : key ∈ Dict.keys old → key ∈ Dict.keys context) :
    restoreKey old (Dict.merge context values) key =
      Dict.merge (restoreKey old context key) values := by
  induction values generalizing context with
  | nil => rfl
  | cons p values ih =>
    obtain ⟨differ, fresh⟩ := not_or.1 (mt List.mem_cons.2 fresh)
    have step (c : LogContext) :
        Dict.merge c (p :: values) = Dict.merge (Dict.put c p.1 p.2) values := rfl
    rw [step, step, ih fresh fun h => Dict.mem_keys_put.2 (.inr (kept h))]
    congr 1
    unfold restoreKey
    cases h : Dict.get? old key with
    | some before =>
      have there : key ∈ Dict.keys old := Dict.mem_keys_iff.2 (h ▸ rfl)
      exact Dict.put_comm (kept there) differ _ _
    | none => exact Dict.erase_put_of_ne differ _ _

/-- What is bound and restored at once leaves nothing behind, the order of the keys included. -/
lemma restore_bind (distinct : (Dict.keys values).Nodup) (old : LogContext) :
    restore old (bind old values) (Dict.keys values) = old := by
  induction values with
  | nil => rfl
  | cons p values ih =>
    obtain ⟨fresh, distinct⟩ := List.nodup_cons.1 distinct
    have kept (h : p.1 ∈ Dict.keys old) : p.1 ∈ Dict.keys (Dict.put old p.1 p.2) :=
      Dict.mem_keys_put.2 (.inr h)
    calc restore old (bind old (p :: values)) (Dict.keys (p :: values))
      _ = restore old (restoreKey old (Dict.merge (Dict.put old p.1 p.2) values) p.1)
            (Dict.keys values) := rfl
      _ = restore old (bind old values) (Dict.keys values) := by
            rw [restoreKey_merge fresh kept, restoreKey_put]
            rfl
      _ = old := ih distinct

/-! ## Tokens -/

lemma bindWithTokens_fst (context : LogContext) (values : Dict String Document) :
    (bindWithTokens context values).1 = bind context values := by
  induction values generalizing context with
  | nil => rfl
  | cons p values ih => exact ih (Dict.put context p.1 p.2)

/-- The tokens of distinct keys keep how these are bound in the beginning. -/
lemma bindWithTokens_snd (distinct : (Dict.keys values).Nodup) (context : LogContext) :
    (bindWithTokens context values).2 =
      (Dict.keys values).map fun key => ⟨key, Dict.get? context key⟩ := by
  induction values generalizing context with
  | nil => rfl
  | cons p values ih =>
    obtain ⟨fresh, distinct⟩ := List.nodup_cons.1 distinct
    refine congrArg (LogToken.mk p.1 (Dict.get? context p.1) :: ·) ((ih distinct _).trans ?_)
    refine List.map_congr_left fun key hk => ?_
    have differ : p.1 ≠ key := by
      rintro rfl
      exact fresh hk
    rw [Dict.get?_put, if_neg differ]

/-- Undoing the bindings of distinct keys restores the keys. -/
lemma foldl_reset (distinct : (Dict.keys values).Nodup) (old context : LogContext) :
    (bindWithTokens old values).2.foldl reset context =
      restore old context (Dict.keys values) := by
  rw [bindWithTokens_snd distinct, List.foldl_map]
  rfl

end LogContext

namespace Logged

variable {α : Type} {x : Logged α} {a : α} {values : Dict String Document}

/-- A scope around a computation that leaves the context as it is leaves it so as well. -/
lemma Gives.scoped (h : x.Gives a) (distinct : (Dict.keys values).Nodup) :
    (Logged.within values x).Gives a := by
  intro context
  obtain ⟨value, left⟩ := h (context.bind values)
  refine ⟨value, ?_⟩
  have e : (Logged.within values x context).2.1 =
      LogContext.restore context (x (context.bind values)).2.1 (Dict.keys values) := rfl
  rw [e, left, LogContext.restore_bind distinct]

/-- A scope runs a computation between the binding of its values and the undoing of each. -/
lemma within_eq_tokens (distinct : (Dict.keys values).Nodup) (x : Logged α) (context : LogContext) :
    Logged.within values x context =
      let (bound, tokens) := context.bindWithTokens values
      let (a, left, records) := x bound
      (a, tokens.foldl LogContext.reset left, records) := by
  simp only [Logged.within, LogContext.bindWithTokens_fst, LogContext.foldl_reset distinct]

end Logged

end Chartwright
