import Chartwright.Settings
import Chartwright.Settings.DotEnv

/-!
# Sources of settings

Where settings come from: values that are given, variables of the environment, the lines of a
`.env` file, defaults. An earlier source wins.
-/

namespace Chartwright

open Schema

namespace Settings

/-- What the name of a variable for a setting starts with. -/
def variableStart : String := "appchart_"

/-- The value of the last variable with a name, in any case. -/
def lookupVariable (bound : List (String × Option String)) (name : String) : Option String :=
  (bound.reverse.find? fun (key, _) => lowerCase key = variableStart ++ name).bind (·.2)
where
  /-- Lower case as far as names of settings have any. -/
  lowerCase (s : String) : String := s.map Char.toLower

/-- The sources of settings. -/
structure Sources where
  given : Document
  environment : List (String × String)
  dotEnv : Option String

/-- Nothing is given. -/
def Sources.none : Sources := ⟨.mapping [], [], .none⟩

/-- The document of the settings that the sources give. -/
def Sources.document (s : Sources) : Document :=
  let lines := s.dotEnv.elim [] (DotEnv.read s.environment)
  let environment := s.environment.map fun (name, value) => (name, some value)
  .object (names.filterMap fun name =>
    let value :=
      (s.given.get? name).or
        (((lookupVariable environment name).or (lookupVariable lines name)).map .text)
    value.map (name, ·))

/-- The settings that the sources give. -/
def Sources.load (s : Sources) : Except Rejection Settings := shape.read s.document

/-- The settings that were loaded first; a failure is not kept. -/
structure Cache where
  loaded : Option Settings
deriving DecidableEq, Repr

/-- The settings of the cache, or those of the sources if there are none yet. -/
def Cache.get (cache : Cache) (s : Sources) : Except Rejection Settings × Cache :=
  match cache.loaded with
  | some settings => (.ok settings, cache)
  | .none =>
    match s.load with
    | .ok settings => (.ok settings, ⟨some settings⟩)
    | .error rejection => (.error rejection, cache)

end Settings

end Chartwright
