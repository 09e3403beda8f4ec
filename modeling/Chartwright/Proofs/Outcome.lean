import Mathlib.Data.List.Forall2
import Mathlib.Tactic.Lemma

/-!
# Outcomes

Computations that may fail: a guard lets them go on where its condition is false, and a list of
them succeeds where all of them do. Where one fails, the first that does decides how. `Alike`
compares the outcomes of two computations.
-/

namespace Chartwright.Outcome

variable {ε α β : Type}

/-- A guard in front of further computations. -/
lemma guard_bind_ok_iff {p : Prop} [Decidable p] {e : ε} {f : β → Except ε α}
    {x : Except ε α} {a} : (if p then throw e >>= f else x) = .ok a ↔ ¬ p ∧ x = .ok a := by
  split
  case isTrue h => simp [h, throw, throwThe, MonadExceptOf.throw, bind, Except.bind]
  case isFalse h => simp [h]

/-- A guard in front of a result. -/
lemma guard_ok_iff {p : Prop} [Decidable p] {e : ε} {x : Except ε α} {a} :
    (if p then throw e else x) = .ok a ↔ ¬ p ∧ x = .ok a := by
  split
  case isTrue h => simp [h, throw, throwThe, MonadExceptOf.throw]
  case isFalse h => simp [h]

/-- A computation that is seen to succeed has a result. -/
lemma exists_ok_of_toBool {x : Except ε α} (h : x.toBool = true) : ∃ a, x = .ok a := by
  cases x with
  | error e => cases h
  | ok a => exact ⟨a, rfl⟩

/-- A computation fails where it does not succeed. -/
lemma exists_error_iff {x : Except ε α} : (∃ e, x = .error e) ↔ ¬ ∃ a, x = .ok a := by
  cases x with
  | error e => simp
  | ok a => simp

/-- One computation after the other succeeds where both do. -/
lemma bind_ok_iff {x : Except ε α} {f : α → Except ε β} {b} :
    (x >>= f) = .ok b ↔ ∃ a, x = .ok a ∧ f a = .ok b := by
  cases x with
  | error e => simp [bind, Except.bind]
  | ok a => simp [bind, Except.bind]

/-- One computation after the other fails where the first one does, or else the second one. -/
lemma bind_error_iff {x : Except ε α} {f : α → Except ε β} {e} :
    (x >>= f) = .error e ↔ x = .error e ∨ ∃ a, x = .ok a ∧ f a = .error e := by
  cases x with
  | error e' => simp [bind, Except.bind]
  | ok a => simp [bind, Except.bind]

/-- A function of the result of a computation has a result where the computation has one. -/
lemma map_ok_iff {f : α → β} {x : Except ε α} {b} :
    x.map f = .ok b ↔ ∃ a, x = .ok a ∧ f a = b := by
  cases x with
  | error e => simp [Except.map]
  | ok a => simp [Except.map]

/-- Errors that are told in another way leave the results as they are. -/
lemma mapError_ok_iff {δ : Type} {x : Except ε α} {f : ε → δ} {a} :
    x.mapError f = .ok a ↔ x = .ok a := by
  cases x with
  | error e => simp [Except.mapError]
  | ok a' => simp [Except.mapError]

/-- Errors that are told in another way are still errors. -/
lemma mapError_error_iff {δ : Type} {x : Except ε α} {f : ε → δ} {d} :
    x.mapError f = .error d ↔ ∃ e, x = .error e ∧ f e = d := by
  cases x with
  | error e => simp [Except.mapError]
  | ok a => simp [Except.mapError]

/-- An element of a list that has a property, and none before it has. -/
def IsFirst (P : α → Prop) (xs : List α) (x : α) : Prop :=
  ∃ before after, xs = before ++ x :: after ∧ P x ∧ ∀ y ∈ before, ¬ P y

/-- The first element is an element. -/
lemma IsFirst.mem {P : α → Prop} {xs x} (h : IsFirst P xs x) : x ∈ xs := by
  obtain ⟨before, after, rfl, -, -⟩ := h
  exact List.mem_append_right _ List.mem_cons_self

/-- The first element has the property. -/
lemma IsFirst.holds {P : α → Prop} {xs x} (h : IsFirst P xs x) : P x := by
  obtain ⟨before, after, -, hx, -⟩ := h
  exact hx

/-- The head of a list is its first element with a property if it has it. -/
lemma isFirst_cons {P : α → Prop} {y xs x} :
    IsFirst P (y :: xs) x ↔ (P y ∧ x = y) ∨ (¬ P y ∧ IsFirst P xs x) := by
  constructor
  · rintro ⟨before, after, e, hx, hb⟩
    cases before with
    | nil =>
      cases e
      exact .inl ⟨hx, rfl⟩
    | cons z before =>
      cases e
      exact .inr ⟨hb _ List.mem_cons_self, before, after, rfl, hx,
        fun y hy => hb y (List.mem_cons_of_mem _ hy)⟩
  · rintro (⟨hy, rfl⟩ | ⟨hy, before, after, rfl, hx, hb⟩)
    · exact ⟨[], xs, rfl, hy, fun _ h => absurd h List.not_mem_nil⟩
    · refine ⟨y :: before, after, rfl, hx, fun z hz => ?_⟩
      cases hz with
      | head => exact hy
      | tail _ hz => exact hb z hz

/-- There is one first element at most. -/
lemma IsFirst.unique {P : α → Prop} {xs x y} (hx : IsFirst P xs x) (hy : IsFirst P xs y) :
    x = y := by
  induction xs with
  | nil => cases hx.mem
  | cons z xs ih =>
    rcases isFirst_cons.1 hx with ⟨hz, rfl⟩ | ⟨hz, hx⟩
    · rcases isFirst_cons.1 hy with ⟨-, rfl⟩ | ⟨hz', -⟩
      · rfl
      · exact absurd hz hz'
    · rcases isFirst_cons.1 hy with ⟨hz', -⟩ | ⟨-, hy⟩
      · exact absurd hz' hz
      · exact ih hx hy

/-- What is found in a list is its first element that passes the test. -/
lemma isFirst_of_find? {p : α → Bool} {xs x} (h : xs.find? p = some x) :
    IsFirst (p · = true) xs x := by
  obtain ⟨hx, before, after, e, hb⟩ := List.find?_eq_some_iff_append.1 h
  exact ⟨before, after, e, hx, fun y hy hp => by simpa [hp] using hb y hy⟩

/-- A list of computations succeeds with the results of all of them. -/
lemma mapM_ok_iff {f : α → Except ε β} {xs : List α} {ys} :
    xs.mapM f = .ok ys ↔ List.Forall₂ (fun x y => f x = .ok y) xs ys := by
  induction xs generalizing ys with
  | nil => simp [pure, Except.pure, eq_comm]
  | cons x xs ih =>
    rw [List.mapM_cons, bind_ok_iff, List.forall₂_cons_left_iff]
    constructor
    · rintro ⟨y, hy, h⟩
      obtain ⟨ys', hys, h⟩ := bind_ok_iff.1 h
      cases h
      exact ⟨y, ys', hy, ih.1 hys, rfl⟩
    · rintro ⟨y, ys', hy, hys, rfl⟩
      exact ⟨y, hy, bind_ok_iff.2 ⟨ys', ih.2 hys, rfl⟩⟩

/-- A list of computations succeeds where all of them do. -/
lemma mapM_ok {f : α → Except ε β} {xs : List α} {ys} (h : xs.mapM f = .ok ys) :
    ∀ x ∈ xs, ∃ y, f x = .ok y := by
  induction xs generalizing ys with
  | nil => exact fun x hx => absurd hx List.not_mem_nil
  | cons x xs ih =>
    rw [List.mapM_cons, bind_ok_iff] at h
    obtain ⟨y, hy, h⟩ := h
    obtain ⟨ys, hys, -⟩ := bind_ok_iff.1 h
    intro z hz
    cases hz with
    | head => exact ⟨y, hy⟩
    | tail _ hz => exact ih hys z hz

/-- A list of computations fails with the first of them that does. -/
lemma mapM_error {f : α → Except ε β} {xs : List α} {e} (h : xs.mapM f = .error e) :
    ∃ x, IsFirst (fun x => ∃ e, f x = .error e) xs x ∧ f x = .error e := by
  induction xs with
  | nil => cases h
  | cons x xs ih =>
    rw [List.mapM_cons, bind_error_iff] at h
    rcases h with hx | ⟨y, hy, h⟩
    · exact ⟨x, isFirst_cons.2 (.inl ⟨⟨e, hx⟩, rfl⟩), hx⟩
    · rcases bind_error_iff.1 h with hxs | ⟨ys, -, h⟩
      · obtain ⟨z, hz, he⟩ := ih hxs
        have hn : ¬ ∃ e, f x = .error e := by
          rintro ⟨e, hx⟩
          rw [hy] at hx
          cases hx
        exact ⟨z, isFirst_cons.2 (.inr ⟨hn, hz⟩), he⟩
      · cases h

/-- An outcome is settled by what every success and every failure says of it, where the two exclude
each other and the failures are told apart. -/
lemma outcome_iff {x : Except ε α} {S : Prop} {R : ε → Prop}
    (ok : ∀ a, x = .ok a → S) (error : ∀ e, x = .error e → R e)
    (exclusive : ∀ e, S → ¬ R e) (unique : ∀ e e', R e → R e' → e = e') :
    ((∃ a, x = .ok a) ↔ S) ∧ ∀ e, x = .error e ↔ R e := by
  cases x with
  | error e =>
    have he : R e := error e rfl
    refine ⟨⟨?_, fun hs => absurd he (exclusive e hs)⟩, fun e' => ⟨?_, fun hr => ?_⟩⟩
    · rintro ⟨a, h⟩
      cases h
    · exact error e'
    · rw [unique e e' he hr]
  | ok a =>
    have hs : S := ok a rfl
    refine ⟨⟨fun _ => hs, fun _ => ⟨a, rfl⟩⟩, fun e => ⟨?_, fun hr => absurd hr (exclusive e hs)⟩⟩
    exact error e

/-- A computation is settled by conditions for its results and for its errors, if one of them is
met. -/
lemma settled_iff {x : Except ε α} {P : α → Prop} {R : ε → Prop} (ok : ∀ a, P a → x = .ok a)
    (error : ∀ e, R e → x = .error e) (total : (∃ a, P a) ∨ ∃ e, R e) :
    (∀ a, x = .ok a ↔ P a) ∧ ∀ e, x = .error e ↔ R e := by
  rcases total with ⟨a, ha⟩ | ⟨e, he⟩
  · have value := ok a ha
    refine ⟨fun a' => ⟨fun h => ?_, ok a'⟩, fun e => ⟨fun h => ?_, error e⟩⟩
    · cases h.symm.trans value
      exact ha
    · cases h.symm.trans value
  · have value := error e he
    refine ⟨fun a => ⟨fun h => ?_, ok a⟩, fun e' => ⟨fun h => ?_, error e'⟩⟩
    · cases h.symm.trans value
    · cases h.symm.trans value
      exact he

/-! ## Results one by one -/

/-- What is at a place of a list is related to what is at that place of the other. -/
lemma forall₂_getElem? {R : α → β → Prop} {xs ys} (h : List.Forall₂ R xs ys) {i : Nat} {x}
    (hx : xs[i]? = some x) : ∃ y, ys[i]? = some y ∧ R x y := by
  obtain ⟨hi, rfl⟩ := List.getElem?_eq_some_iff.1 hx
  have hi' : i < ys.length := h.length_eq ▸ hi
  exact ⟨ys[i], List.getElem?_eq_getElem hi', h.get hi hi'⟩

/-- What is in a list is related to something in the other. -/
lemma exists_of_forall₂ {R : α → β → Prop} {xs ys} (h : List.Forall₂ R xs ys) {x} (hx : x ∈ xs) :
    ∃ y ∈ ys, R x y := by
  obtain ⟨i, hi⟩ := List.mem_iff_getElem?.1 hx
  obtain ⟨y, hy, hr⟩ := forall₂_getElem? h hi
  exact ⟨y, List.mem_of_getElem? hy, hr⟩

/-- Results of the same list are the same where they are for each of its elements. -/
lemma forall₂_unique {R S : α → β → Prop} {xs ys zs} (hr : List.Forall₂ R xs ys)
    (hs : List.Forall₂ S xs zs) (h : ∀ x ∈ xs, ∀ y z, R x y → S x z → y = z) : ys = zs := by
  induction hr generalizing zs with
  | nil =>
    cases hs
    rfl
  | cons hy hys ih =>
    cases hs with
    | cons hz hzs =>
      rw [h _ List.mem_cons_self _ _ hy hz,
        ih hzs fun x hx => h x (List.mem_cons_of_mem _ hx)]

/-- A list of computations that succeeds gives each element a result of its own. -/
lemma exists_map_of_mapM [Nonempty β] {f : α → Except ε β} {xs : List α} {ys}
    (h : xs.mapM f = .ok ys) : ∃ g : α → β, ys = xs.map g ∧ ∀ x ∈ xs, f x = .ok (g x) := by
  classical
  choose! g hg using mapM_ok h
  refine ⟨g, forall₂_unique (mapM_ok_iff.1 h) (S := fun x y => g x = y) ?_ ?_, hg⟩
  · rw [List.forall₂_map_right_iff, List.forall₂_same]
    exact fun _ _ => rfl
  · rintro x hx y z hy rfl
    rw [hg x hx] at hy
    cases hy
    rfl

/-! ## Two computations -/

/-- Two computations fail in the same way, or both succeed with results that are related. -/
inductive Alike (R : α → β → Prop) : Except ε α → Except ε β → Prop where
  | error {e} :
    Alike R (.error e) (.error e)
  | ok {a b} :
    R a b →
    Alike R (.ok a) (.ok b)

section

variable {γ δ : Type} {R : α → β → Prop} {x : Except ε α} {y : Except ε β}

/-- A computation is like itself. -/
lemma alike_self (x : Except ε α) : Alike Eq x x := by
  cases x with
  | error e => exact .error
  | ok a => exact .ok rfl

/-- Computations that are alike go on alike. -/
lemma Alike.bind {S : γ → δ → Prop} {f : α → Except ε γ} {g : β → Except ε δ} (h : Alike R x y)
    (hf : ∀ a b, x = .ok a → y = .ok b → R a b → Alike S (f a) (g b)) :
    Alike S (x >>= f) (y >>= g) := by
  cases h with
  | error => exact .error
  | ok hr => exact hf _ _ rfl rfl hr

/-- Errors that are told in the same way leave computations alike. -/
lemma Alike.mapError {ζ : Type} {f : ε → ζ} (h : Alike R x y) :
    Alike R (x.mapError f) (y.mapError f) := by
  cases h with
  | error => exact .error
  | ok hr => exact .ok hr

/-- A list of computations in which one is replaced by one that is alike comes to the same but for
the result of that one. -/
lemma alike_mapM_set {R : β → β → Prop} {f : α → Except ε β} {xs : List α} {i : Nat} {x x'}
    (hi : xs[i]? = some x) (h : Alike R (f x) (f x')) :
    Alike (fun ys ys' => ∃ y y', ys[i]? = some y ∧ ys' = ys.set i y' ∧ f x = .ok y ∧
      f x' = .ok y' ∧ R y y') (xs.mapM f) ((xs.set i x').mapM f) := by
  induction xs generalizing i with
  | nil => cases hi
  | cons z xs ih =>
    cases i with
    | zero =>
      cases hi
      rw [List.set_cons_zero, List.mapM_cons, List.mapM_cons]
      refine h.bind fun y y' hy hy' hr => (alike_self (xs.mapM f)).bind ?_
      rintro ys _ - - rfl
      exact .ok ⟨y, y', rfl, rfl, hy, hy', hr⟩
    | succ i =>
      rw [List.set_cons_succ, List.mapM_cons, List.mapM_cons]
      refine (alike_self (f z)).bind ?_
      rintro w _ - - rfl
      refine (ih hi).bind ?_
      rintro ys _ - - ⟨y, y', hy, rfl, hr⟩
      exact .ok ⟨y, y', hy, rfl, hr⟩

/-- A list of computations comes to the same in another order, where all that fail do so in the same
way: each element has one result in both. -/
lemma alike_mapM_of_perm [Nonempty β] {f : α → Except ε β} {xs xs' : List α} (h : xs.Perm xs')
    (same : ∀ x ∈ xs, ∀ x' ∈ xs, ∀ e e', f x = .error e → f x' = .error e' → e = e') :
    Alike (fun ys ys' => ∃ g : α → β, ys = xs.map g ∧ ys' = xs'.map g)
      (xs.mapM f) (xs'.mapM f) := by
  cases hx : xs.mapM f with
  | ok ys =>
    obtain ⟨g, rfl, hg⟩ := exists_map_of_mapM hx
    have hx' : xs'.mapM f = .ok (xs'.map g) := by
      rw [mapM_ok_iff, List.forall₂_map_right_iff, List.forall₂_same]
      exact fun x hm => hg x (h.mem_iff.2 hm)
    rw [hx']
    exact .ok ⟨g, rfl, rfl⟩
  | error e =>
    obtain ⟨z, hz, he⟩ := mapM_error hx
    cases hx' : xs'.mapM f with
    | ok ys' =>
      obtain ⟨y, hy⟩ := mapM_ok hx' z (h.mem_iff.1 hz.mem)
      rw [he] at hy
      cases hy
    | error e' =>
      obtain ⟨z', hz', he'⟩ := mapM_error hx'
      rw [same z hz.mem z' (h.mem_iff.2 hz'.mem) e e' he he']
      exact .error

end

end Chartwright.Outcome
