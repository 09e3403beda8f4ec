import Chartwright.Text.Split

/-!
# Paths

Names separated by slashes. Empty names and single dots say nothing and are dropped; a double dot
stays, since only the directories can tell where it leads.
-/

namespace Chartwright

/-- A path from the working directory or, if it is absolute, from the root. -/
structure Path where
  absolute : Bool
  names : List String
deriving DecidableEq, Repr

namespace Path

/-- The names of a text between its slashes. -/
def namesOf (s : String) : List String :=
  ((Text.words '/' s.toList).map String.ofList).filter (· ≠ ".")

/-- The path that a text denotes. -/
def ofString (s : String) : Path := ⟨s.toList.head? = some '/', namesOf s⟩

/-- A path continued by another, which replaces it if it is absolute. -/
def join (p : Path) (s : String) : Path :=
  if (ofString s).absolute then ofString s else { p with names := p.names ++ namesOf s }

/-- The text of a path. -/
def render (p : Path) : String :=
  let names := "/".intercalate p.names
  if p.absolute then "/" ++ names else if p.names = [] then "." else names

end Path

end Chartwright
