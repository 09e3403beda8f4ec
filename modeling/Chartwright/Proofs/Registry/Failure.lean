import Chartwright.Proofs.Registry.Account

/-!
# Failing handles

Any handle may fail, and one that failed may work the next time. `Effect` says what an operation
makes of a session, one constructor for each way it can end. Main statement: an operation that fails
changes no entry and hands nothing out, whatever came before it, and generations keep telling the
entries apart.
-/

namespace Chartwright.Registry

variable {η : Type}

/-- An operation, and the handles that fail while it runs. -/
structure Attempt (η : Type) where
  fails : η → Bool
  operation : Operation η

/-- A session after some attempts. -/
def Session.after (s : Session η) (attempts : List (Attempt η)) : Session η :=
  attempts.foldl (fun s a => s.apply a.fails a.operation) s

/-- The session that some attempts lead to. -/
def attempted (attempts : List (Attempt η)) : Session η :=
  Session.after ⟨.empty, [], []⟩ attempts

/-- The entry of a registration is the one that is stored under its key. -/
def Holds (r : Registry η) (g : Registration η) : Prop :=
  Dict.get? r.entries g.key = some ⟨g.handle, g.generation⟩

/-- What an operation makes of a session. -/
inductive Effect (fails : η → Bool) (s : Session η) : Operation η → Session η → Prop where
  | registered {key handle} :
    (∀ previous, Dict.get? s.registry.entries key = some previous → fails previous.handle = false) →
    Effect fails s (.register key handle)
      ⟨⟨s.registry.next + 1, Dict.put s.registry.entries key ⟨handle, s.registry.next⟩⟩,
        s.given ++ [⟨key, handle, s.registry.next⟩],
        s.called ++ ((Dict.get? s.registry.entries key).map (·.handle)).toList⟩
  | refused {key handle previous} :
    Dict.get? s.registry.entries key = some previous →
    fails previous.handle = true →
    Effect fails s (.register key handle)
      ⟨⟨s.registry.next + 1, s.registry.entries⟩, s.given, s.called ++ [previous.handle]⟩
  | removed {i g} :
    s.given[i]? = some g →
    fails g.handle = false →
    s.registry.generation? g.key = some g.generation →
    Effect fails s (.cleanup i)
      ⟨⟨s.registry.next, Dict.erase s.registry.entries g.key⟩, s.given, s.called ++ [g.handle]⟩
  | stale {i g} :
    s.given[i]? = some g →
    fails g.handle = false →
    s.registry.generation? g.key ≠ some g.generation →
    Effect fails s (.cleanup i) ⟨s.registry, s.given, s.called ++ [g.handle]⟩
  | failed {i g} :
    s.given[i]? = some g →
    fails g.handle = true →
    Effect fails s (.cleanup i) ⟨s.registry, s.given, s.called ++ [g.handle]⟩
  | unknown {i} :
    s.given[i]? = none →
    Effect fails s (.cleanup i) s

/-- Generations tell apart what a session handed out, and nothing else is stored or called. -/
structure Sound (s : Session η) : Prop where
  keys_nodup : (Dict.keys s.registry.entries).Nodup
  stored_given : ∀ key e, Dict.get? s.registry.entries key = some e →
    ⟨key, e.handle, e.generation⟩ ∈ s.given
  increasing : (s.given.map (·.generation)).Pairwise (· < ·)
  below : ∀ g ∈ s.given, g.generation < s.registry.next
  called_given : ∀ h ∈ s.called, h ∈ s.given.map (·.handle)

variable {fails : η → Bool} {s t : Session η} {op : Operation η} {key : String} {handle : η}
  {previous : RegistryEntry η} {g : Registration η} {i : Nat}

/-! ## Single operations -/

/-- A registration whose predecessor fails has no result and writes no record. -/
lemma register_refused {r : Registry η} (stored : Dict.get? r.entries key = some previous)
    (failing : fails previous.handle = true) (context : LogContext) :
    r.register fails key handle context =
      (⟨⟨r.next + 1, r.entries⟩, some previous.handle, none⟩, context, []) := by
  simp only [register, stored, failing, if_true]
  rfl

lemma cleanup_failed (r : Registry η) (failing : fails g.handle = true) :
    r.cleanup fails g = ⟨r, some g.handle, none⟩ :=
  if_pos failing

lemma apply_refused (stored : Dict.get? s.registry.entries key = some previous)
    (failing : fails previous.handle = true) :
    s.apply fails (.register key handle) =
      ⟨⟨s.registry.next + 1, s.registry.entries⟩, s.given, s.called ++ [previous.handle]⟩ := by
  simp only [Session.apply, Logged.value, Logged.run, register_refused stored failing,
    Option.toList_none, Option.toList_some, List.append_nil]

lemma apply_failed (given : s.given[i]? = some g) (failing : fails g.handle = true) :
    s.apply fails (.cleanup i) = ⟨s.registry, s.given, s.called ++ [g.handle]⟩ := by
  simp only [Session.apply, given, cleanup_failed _ failing, Option.toList_some]

/-- An operation has the effect that the handles in its way decide on. -/
lemma effect_apply (fails : η → Bool) (s : Session η) (op : Operation η) :
    Effect fails s op (s.apply fails op) := by
  cases op with
  | register key handle =>
    by_cases failing : ∃ previous,
        Dict.get? s.registry.entries key = some previous ∧ fails previous.handle = true
    · obtain ⟨previous, stored, failing⟩ := failing
      rw [apply_refused stored failing]
      exact .refused stored failing
    · have working : ∀ previous, Dict.get? s.registry.entries key = some previous →
          fails previous.handle = false := by
        intro previous stored
        rw [← Bool.not_eq_true]
        exact fun h => failing ⟨previous, stored, h⟩
      simp only [Session.apply, register_value handle working]
      exact .registered working
  | cleanup i =>
    cases given : s.given[i]? with
    | none =>
      simp only [Session.apply, given]
      exact .unknown given
    | some g =>
      cases failing : fails g.handle with
      | true =>
        rw [apply_failed given failing]
        exact .failed given failing
      | false =>
        simp only [Session.apply, given, Registry.cleanup, failing, Bool.false_eq_true, if_false]
        split
        case isTrue stored => exact .removed given failing stored
        case isFalse gone => exact .stale given failing gone

/-! ## The invariant -/

lemma sound_start : Sound (⟨.empty, [], []⟩ : Session η) where
  keys_nodup := List.nodup_nil
  stored_given _ _ h := by cases h
  increasing := .nil
  below _ h := by cases h
  called_given _ h := by cases h

/-- A call that stores nothing: what it leaves in the registry was there before. -/
lemma Sound.call (sound : Sound s) {r : Registry η} (next : s.registry.next ≤ r.next)
    (distinct : (Dict.keys r.entries).Nodup)
    (kept : ∀ key e, Dict.get? r.entries key = some e → Dict.get? s.registry.entries key = some e)
    (given : handle ∈ s.given.map (·.handle)) : Sound ⟨r, s.given, s.called ++ [handle]⟩ where
  keys_nodup := distinct
  stored_given key e he := sound.stored_given key e (kept key e he)
  increasing := sound.increasing
  below g hg := Nat.lt_of_lt_of_le (sound.below g hg) next
  called_given := List.forall_mem_append.2 ⟨sound.called_given, List.forall_mem_singleton.2 given⟩

/-- The handle that is stored under a key was handed out. -/
lemma Sound.previous_given (sound : Sound s)
    (stored : Dict.get? s.registry.entries key = some previous) :
    previous.handle ∈ s.given.map (·.handle) :=
  List.mem_map.2 ⟨_, sound.stored_given key previous stored, rfl⟩

/-- A registration hands out a generation above all others. -/
lemma Sound.register (sound : Sound s) (key : String) (handle : η) :
    Sound ⟨⟨s.registry.next + 1, Dict.put s.registry.entries key ⟨handle, s.registry.next⟩⟩,
      s.given ++ [⟨key, handle, s.registry.next⟩],
      s.called ++ ((Dict.get? s.registry.entries key).map (·.handle)).toList⟩ where
  keys_nodup := Dict.nodup_keys_put sound.keys_nodup _ _
  stored_given k e he := by
    rw [Dict.get?_put] at he
    split at he
    case isTrue same =>
      cases he
      rw [same]
      exact List.mem_append_right _ List.mem_cons_self
    case isFalse => exact List.mem_append_left _ (sound.stored_given k e he)
  increasing := by
    rw [List.map_append]
    refine List.pairwise_append.2 ⟨sound.increasing, List.pairwise_singleton _ _, ?_⟩
    intro n hn m hm
    obtain ⟨g, hg, rfl⟩ := List.mem_map.1 hn
    rw [List.mem_singleton.1 hm]
    exact sound.below g hg
  below := by
    refine List.forall_mem_append.2 ⟨fun g hg => ?_, List.forall_mem_singleton.2 ?_⟩
    · exact Nat.lt_succ_of_lt (sound.below g hg)
    · exact Nat.lt_succ_self _
  called_given h hh := by
    rw [List.map_append]
    apply List.mem_append_left
    rcases List.mem_append.1 hh with hh | hh
    · exact sound.called_given h hh
    · obtain ⟨e, he, rfl⟩ := Option.map_eq_some_iff.1 (Option.mem_toList.1 hh)
      exact sound.previous_given he

/-- Every operation keeps a session sound, whether it fails or not. -/
lemma Effect.sound (effect : Effect fails s op t) (sound : Sound s) : Sound t := by
  have handle_given {i : Nat} {g : Registration η} (given : s.given[i]? = some g) :
      g.handle ∈ s.given.map (·.handle) :=
    List.mem_map.2 ⟨g, List.mem_of_getElem? given, rfl⟩
  cases effect with
  | registered working => exact sound.register _ _
  | refused stored failing =>
    exact sound.call (Nat.le_succ _) sound.keys_nodup (fun _ _ h => h) (sound.previous_given stored)
  | removed given working stored =>
    refine sound.call (Nat.le_refl _) (Dict.nodup_keys_erase sound.keys_nodup _) ?_
      (handle_given given)
    intro key e he
    rw [Dict.get?_erase] at he
    split at he
    case isTrue => cases he
    case isFalse => exact he
  | stale given working gone =>
    exact sound.call (Nat.le_refl _) sound.keys_nodup (fun _ _ h => h) (handle_given given)
  | failed given failing =>
    exact sound.call (Nat.le_refl _) sound.keys_nodup (fun _ _ h => h) (handle_given given)
  | unknown given => exact sound

/-- Attempts keep a session sound. -/
lemma Sound.after (sound : Sound s) (attempts : List (Attempt η)) : Sound (s.after attempts) := by
  induction attempts generalizing s with
  | nil => exact sound
  | cons a attempts ih => exact ih ((effect_apply a.fails s a.operation).sound sound)

/-- What was handed out stays handed out. -/
lemma Effect.given (effect : Effect fails s op t) (given : s.given[i]? = some g) :
    t.given[i]? = some g := by
  cases effect with
  | registered =>
    obtain ⟨hlt, -⟩ := List.getElem?_eq_some_iff.1 given
    exact (List.getElem?_append_left hlt).trans given
  | refused | removed | stale | failed | unknown => exact given

lemma given_after (given : s.given[i]? = some g) (attempts : List (Attempt η)) :
    (s.after attempts).given[i]? = some g := by
  induction attempts generalizing s with
  | nil => exact given
  | cons a attempts ih => exact ih ((effect_apply a.fails s a.operation).given given)

/-! ## Generations -/

/-- Two registrations of one generation are one. -/
lemma Sound.given_unique {g' : Registration η} (sound : Sound s) (hg : g ∈ s.given)
    (hg' : g' ∈ s.given) (same : g.generation = g'.generation) : g = g' :=
  List.inj_on_of_nodup_map (sound.increasing.imp Nat.ne_of_lt) hg hg' same

/-- The generation tells whether the entry of a registration is stored. -/
lemma Sound.generation?_iff_holds (sound : Sound s) (hg : g ∈ s.given) :
    s.registry.generation? g.key = some g.generation ↔ s.registry.Holds g := by
  unfold generation? Holds
  constructor
  · intro h
    obtain ⟨e, he, same⟩ := Option.map_eq_some_iff.1 h
    have one := sound.given_unique (sound.stored_given g.key e he) hg same
    rw [he, ← one]
  · intro h
    rw [h]
    rfl

/-- No two entries have one generation. -/
lemma Sound.generations_nodup (sound : Sound s) :
    (s.registry.entries.map (·.2.generation)).Nodup := by
  have given {p} (hp : p ∈ s.registry.entries) : ⟨p.1, p.2.handle, p.2.generation⟩ ∈ s.given :=
    sound.stored_given p.1 p.2 (Dict.get?_of_mem sound.keys_nodup hp)
  refine List.Nodup.map_on (fun p hp q hq same => ?_) sound.keys_nodup.of_map
  have one := sound.given_unique (given hp) (given hq) same
  obtain ⟨k, handle, generation⟩ := p
  obtain ⟨l, handle', generation'⟩ := q
  cases one
  rfl

lemma Sound.generation_lt (sound : Sound s) {p : String × RegistryEntry η}
    (hp : p ∈ s.registry.entries) : p.2.generation < s.registry.next :=
  sound.below _ (sound.stored_given p.1 p.2 (Dict.get?_of_mem sound.keys_nodup hp))

/-! ## Failures -/

/-- What a cleanup does whose handle works. -/
structure CleansUp (fails : η → Bool) (r : Registry η) (g : Registration η) : Prop where
  removes : r.Holds g →
    r.cleanup fails g = ⟨⟨r.next, Dict.erase r.entries g.key⟩, some g.handle, some ()⟩
  keeps : ¬ r.Holds g → r.cleanup fails g = ⟨r, some g.handle, some ()⟩

lemma Sound.cleansUp (sound : Sound s) (hg : g ∈ s.given) (working : fails g.handle = false) :
    CleansUp fails s.registry g := by
  constructor
  · intro holds
    have stored := (sound.generation?_iff_holds hg).2 holds
    simp only [Registry.cleanup, working, Bool.false_eq_true, if_false, stored, if_true]
  · intro gone
    have other := mt (sound.generation?_iff_holds hg).1 gone
    simp only [Registry.cleanup, working, Bool.false_eq_true, if_false, other]

/-- How a registry in use withstands handles that fail. -/
structure Withstands (s : Session η) : Prop where
  /-- A registration whose predecessor fails has no result and calls nothing else. All that changes
  in the registry is that a generation is used up. -/
  register_refused : ∀ fails key handle previous,
    Dict.get? s.registry.entries key = some previous → fails previous.handle = true →
    (∀ context, s.registry.register fails key handle context =
        (⟨⟨s.registry.next + 1, s.registry.entries⟩, some previous.handle, none⟩, context, [])) ∧
      s.apply fails (.register key handle) =
        ⟨⟨s.registry.next + 1, s.registry.entries⟩, s.given, s.called ++ [previous.handle]⟩
  /-- A cleanup whose handle fails has no result and changes nothing in the registry. -/
  cleanup_failed : ∀ fails i g, s.given[i]? = some g → fails g.handle = true →
    s.registry.cleanup fails g = ⟨s.registry, some g.handle, none⟩ ∧
      s.apply fails (.cleanup i) = ⟨s.registry, s.given, s.called ++ [g.handle]⟩
  /-- When it is called again, be it later, and its handle works, it removes its entry if that is
  still stored and nothing else. -/
  cleanup_again : ∀ fails i g later fails', s.given[i]? = some g → fails g.handle = true →
    fails' g.handle = false →
    CleansUp fails' ((s.apply fails (.cleanup i)).after later).registry g
  /-- A handle that was refused is not called, as only those are that were handed out. -/
  called_given : ∀ h ∈ s.called, h ∈ s.given.map (·.handle)
  generations_nodup : (s.registry.entries.map (·.2.generation)).Nodup
  generation_lt : ∀ p ∈ s.registry.entries, p.2.generation < s.registry.next

/-- A registry withstands failing handles, whatever has been attempted and whichever handles have
failed before. -/
theorem failures_withstood (attempts : List (Attempt η)) : Withstands (attempted attempts) := by
  have sound : Sound (attempted attempts) := sound_start.after attempts
  constructor
  case register_refused =>
    intro fails key handle previous stored failing
    exact ⟨Registry.register_refused stored failing, apply_refused stored failing⟩
  case cleanup_failed =>
    intro fails i g given failing
    exact ⟨Registry.cleanup_failed _ failing, apply_failed given failing⟩
  case cleanup_again =>
    intro fails i g later fails' given failing working
    have effect := effect_apply fails (attempted attempts) (.cleanup i)
    have later_given := given_after (effect.given given) later
    exact ((effect.sound sound).after later).cleansUp (List.mem_of_getElem? later_given) working
  case called_given => exact sound.called_given
  case generations_nodup => exact sound.generations_nodup
  case generation_lt => exact fun p hp => sound.generation_lt hp

/-- The first handle of a shop fails when it is superseded and when it is cleaned up, and works
when it is cleaned up once more. -/
def stubbornShop : List (Attempt Nat) := [
  ⟨fun _ => false, .register "shop" 10⟩, ⟨(· = 10), .register "shop" 11⟩,
  ⟨(· = 10), .cleanup 0⟩, ⟨fun _ => false, .register "blog" 12⟩]

/-- The shop keeps its first entry until it is cleaned up without failure. -/
theorem stubbornShop_withstood :
    Withstands (attempted stubbornShop) ∧
      (attempted stubbornShop).registry =
        ⟨4, [("shop", ⟨10, 1⟩), ("blog", ⟨12, 3⟩)]⟩ ∧
      (attempted stubbornShop).called = [10, 10] ∧
      (attempted (stubbornShop ++ [⟨fun _ => false, .cleanup 0⟩])).registry =
        ⟨4, [("blog", ⟨12, 3⟩)]⟩ :=
  ⟨failures_withstood stubbornShop, by decide, by decide, by decide⟩

end Chartwright.Registry
