import Chartwright.Log.Context

/-!
# Cancellation

For each key, the handle that cancels the rollout which is under way. A new registration cancels
the one before it. Generations tell registrations apart, so the late end of an old rollout does
not remove the entry of a newer one.
-/

namespace Chartwright

/-- A handle with the generation of its registration. -/
structure RegistryEntry (η : Type) where
  handle : η
  generation : Nat
deriving DecidableEq, Repr

/-- The stored handles by key, and the generation of the next registration. -/
structure Registry (η : Type) where
  next : Nat
  entries : Dict String (RegistryEntry η)
deriving DecidableEq, Repr

/-- What a registration hands out, to be cleaned up later. -/
structure Registration (η : Type) where
  key : String
  handle : η
  generation : Nat
deriving DecidableEq, Repr

namespace Registry

variable {η : Type}

/-- Nothing is registered yet. -/
def empty : Registry η := ⟨1, []⟩

/-- The generation of the entry of a key. -/
def generation? (r : Registry η) (key : String) : Option Nat :=
  (Dict.get? r.entries key).map (·.generation)

/-- Whether a key has an entry. -/
def contains (r : Registry η) (key : String) : Bool := Dict.contains r.entries key

/-- The number of entries. -/
def size (r : Registry η) : Nat := r.entries.length

/-- The registry after an operation, the handle that the operation calls, and its result; there is
none if that handle fails. -/
structure Outcome (η α : Type) where
  registry : Registry η
  called : Option η
  result : Option α
deriving DecidableEq, Repr

/-- The record of a registration that takes the place of another. -/
def supersededRecord (key : String) (previous generation : Nat) : LogRecord where
  level := .debug
  event := "rollout_superseded"
  fields := [("key", .text key), ("previous_generation", .int previous),
    ("generation", .int generation)]

/-- Registers a handle under a key and calls the one that is stored there. If that one fails, only
a generation is used up. -/
def register (fails : η → Bool) (r : Registry η) (key : String) (handle : η) :
    Logged (Outcome η (Registration η)) :=
  let generation := r.next
  let stored : Registry η := ⟨generation + 1, Dict.put r.entries key ⟨handle, generation⟩⟩
  let registration : Registration η := ⟨key, handle, generation⟩
  match Dict.get? r.entries key with
  | none => return ⟨stored, none, some registration⟩
  | some previous =>
    if fails previous.handle then
      return ⟨{ r with next := generation + 1 }, some previous.handle, none⟩
    else do
      Logged.write (supersededRecord key previous.generation generation)
      return ⟨stored, some previous.handle, some registration⟩

/-- Calls the handle of a registration and removes its entry, unless the handle fails or the entry
is that of another registration. -/
def cleanup (fails : η → Bool) (r : Registry η) (g : Registration η) : Outcome η Unit :=
  if fails g.handle then ⟨r, some g.handle, none⟩
  else if r.generation? g.key = some g.generation then
    ⟨{ r with entries := Dict.erase r.entries g.key }, some g.handle, some ()⟩
  else ⟨r, some g.handle, some ()⟩

end Registry

/-- A flag that tells a rollout to stop. -/
structure CancelScope where
  cancelled : Bool
deriving DecidableEq, Repr

/-- A scope that is not cancelled. -/
def CancelScope.fresh : CancelScope := ⟨false⟩

/-- Cancels a scope; a second time changes nothing. -/
def CancelScope.cancel (_ : CancelScope) : CancelScope := ⟨true⟩

/-- What waiting for no time at all returns: whether the scope is cancelled. -/
def CancelScope.poll (s : CancelScope) : Bool := s.cancelled

end Chartwright
