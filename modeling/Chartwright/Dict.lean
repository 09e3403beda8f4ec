/-!
# Dictionaries

Finite maps whose order is that of first insertion: overwriting a key keeps its place.
-/

namespace Chartwright

/-- Keys with their values, in order. -/
abbrev Dict (κ : Type) (υ : Type) := List (κ × υ)

namespace Dict

variable {κ υ : Type} [DecidableEq κ]

/-- The keys in order. -/
def keys (d : Dict κ υ) : List κ := d.map (·.1)

/-- The value under a key. -/
def get? : Dict κ υ → κ → Option υ
  | [], _ => none
  | (k, v) :: rest, key => if k = key then some v else get? rest key

/-- Sets the value under a key: in its place if it is there, else at the end. -/
def put : Dict κ υ → κ → υ → Dict κ υ
  | [], key, value => [(key, value)]
  | (k, v) :: rest, key, value => if k = key then (k, value) :: rest else (k, v) :: put rest key value

/-- Sets the values of a second dictionary, in its order. -/
def merge (d e : Dict κ υ) : Dict κ υ := e.foldl (fun d (k, v) => d.put k v) d

/-- The dictionary of a list in which a later value of a key replaces an earlier one. -/
def ofList (entries : List (κ × υ)) : Dict κ υ := merge [] entries

/-- Removes a key. -/
def erase (d : Dict κ υ) (key : κ) : Dict κ υ := d.filter (·.1 ≠ key)

/-- Whether a key is there. -/
def contains (d : Dict κ υ) (key : κ) : Bool := (d.get? key).isSome

end Dict

end Chartwright
