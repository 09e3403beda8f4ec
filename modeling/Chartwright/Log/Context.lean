import Chartwright.Log.Record

/-!
# Log context

Values that are bound to every record. A scope binds values and, however it is left, binds or
unbinds their keys again as they were before.

This is what one thread of control sees of the context variables of a structured logger: a binding
replaces an earlier one of its key, and a reset gives every key that was bound the binding, or none,
that it had then. Other threads have contexts of their own, which are left out.
-/

namespace Chartwright

/-- The values that are bound. -/
abbrev LogContext := Dict String Document

namespace LogContext

/-- Binds values. -/
def bind (context : LogContext) (values : Dict String Document) : LogContext :=
  Dict.merge context values

/-- Unbinds keys. -/
def unbind (context : LogContext) (keys : List String) : LogContext :=
  keys.foldl Dict.erase context

/-- Gives a key the binding that it has in an older context. -/
def restoreKey (old context : LogContext) (key : String) : LogContext :=
  match Dict.get? old key with
  | some value => Dict.put context key value
  | none => Dict.erase context key

/-- Gives keys the bindings that they have in an older context. -/
def restore (old context : LogContext) (keys : List String) : LogContext :=
  keys.foldl (restoreKey old) context

/-- A record with the bound values; its own fields win. -/
def stamp (context : LogContext) (r : LogRecord) : LogRecord :=
  { r with fields := Dict.merge context r.fields }

end LogContext

/-- A computation that writes records and reads and changes what is bound. -/
def Logged (α : Type) := LogContext → α × LogContext × List LogRecord

namespace Logged

/-- A value without any record. -/
def pure {α : Type} (a : α) : Logged α := fun context => (a, context, [])

/-- One computation after the other. -/
def bind {α β : Type} (x : Logged α) (f : α → Logged β) : Logged β := fun context =>
  let (a, context, before) := x context
  let (b, context, after) := f a context
  (b, context, before ++ after)

instance : Monad Logged where
  pure := Logged.pure
  bind := Logged.bind

/-- Writes a record with the values that are bound. -/
def write (r : LogRecord) : Logged Unit := fun context => ((), context, [context.stamp r])

/-- Writes records in order. -/
def writeAll : List LogRecord → Logged Unit
  | [] => pure ()
  | r :: rs => bind (write r) fun _ => writeAll rs

/-- Runs a computation with values bound, and restores their keys behind it. -/
def within {α : Type} (values : Dict String Document) (x : Logged α) : Logged α := fun context =>
  let (a, after, records) := x (context.bind values)
  (a, LogContext.restore context after (Dict.keys values), records)

/-- The value and the records of a computation where nothing is bound. -/
def run {α : Type} (x : Logged α) : α × List LogRecord :=
  let (a, _, records) := x []
  (a, records)

end Logged

end Chartwright
