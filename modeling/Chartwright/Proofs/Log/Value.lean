import Mathlib.Tactic.Lemma
import Chartwright.Log.Context

/-!
# Values of logged computations

A computation that only writes records has one value, whatever is bound, and leaves the context
as it is. `Gives` says so of a computation and its value; it is closed under everything that the
operations on rollouts are built from.
-/

namespace Chartwright.Logged

variable {α β : Type}

/-- The value of a computation where nothing is bound. -/
def value (x : Logged α) : α := x.run.1

/-- The value of a value. -/
@[simp]
lemma value_pure (a : α) : (Pure.pure a : Logged α).value = a := rfl

/-- The value of a computation in every context, which is left as it is. -/
def Gives (x : Logged α) (a : α) : Prop :=
  ∀ context, (x context).1 = a ∧ (x context).2.1 = context

/-- The value that a computation gives is its value where nothing is bound. -/
lemma Gives.value_eq {x : Logged α} {a} (h : x.Gives a) : x.value = a :=
  (h []).1

/-- A value gives itself. -/
lemma gives_pure (a : α) : (Pure.pure a : Logged α).Gives a :=
  fun _ => ⟨rfl, rfl⟩

/-- One computation after the other gives what the second one gives. -/
lemma Gives.bind {x : Logged α} {f : α → Logged β} {a b}
    (hx : x.Gives a) (hf : (f a).Gives b) : (x >>= f).Gives b := by
  intro context
  obtain ⟨ex, cx⟩ := hx context
  obtain ⟨ef, cf⟩ := hf context
  have e : (x >>= f) context = ((f (x context).1 (x context).2.1).1,
      (f (x context).1 (x context).2.1).2.1,
      (x context).2.2 ++ (f (x context).1 (x context).2.1).2.2) := rfl
  rw [e, ex, cx]
  exact ⟨ef, cf⟩

/-- What comes behind a computation that has a value in a context. -/
lemma Gives.bind_value {x : Logged α} {f : α → Logged β} {a b} {context : LogContext}
    (hx : (x context).1 = a) (hf : (f a).Gives b) : ((x >>= f) context).1 = b := by
  have e : ((x >>= f) context).1 = (f (x context).1 (x context).2.1).1 := rfl
  rw [e, hx]
  exact (hf _).1

/-- A function of the value that a computation gives. -/
lemma Gives.map {x : Logged α} {a} (f : α → β) (h : x.Gives a) : (f <$> x).Gives (f a) :=
  h.bind (gives_pure (f a))

/-- A choice between two computations, and one computation behind both. -/
lemma Gives.ite_bind {p : Prop} [Decidable p] {x y : Logged α} {f : α → Logged β} {a b}
    (h : (if p then x else y).Gives a) (hf : (f a).Gives b) :
    (if p then x >>= f else y >>= f).Gives b := by
  split
  case isTrue hp =>
    rw [if_pos hp] at h
    exact h.bind hf
  case isFalse hp =>
    rw [if_neg hp] at h
    exact h.bind hf

/-- Writing a record gives nothing. -/
lemma gives_write (r : LogRecord) : (write r).Gives () :=
  fun _ => ⟨rfl, rfl⟩

/-- Writing records gives nothing. -/
lemma gives_writeAll (rs : List LogRecord) : (writeAll rs).Gives () := by
  induction rs with
  | nil => exact gives_pure ()
  | cons r rs ih => exact (gives_write r).bind ih

end Chartwright.Logged
