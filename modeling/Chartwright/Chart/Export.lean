import Chartwright.Chart.Basic
import Chartwright.Files.Tree

/-!
# Export

The files of a chart in a directory of its name, which takes the place of whatever was there.
-/

namespace Chartwright.Chart

open FileTree

/-- The directory of a chart. -/
def exportPath (root : Path) (config : ChartConfig) : Path := root.join config.appName

/-- Removes an earlier export, if there is something in its place. -/
def clear (p : Path) : FileStep := fun t =>
  match t.locate p with
  | .error (.nameTooLong shown) => (t, some (.nameTooLong shown))
  | .error _ => (t, none)
  | .ok place => if (t.node? place).isSome then removeDirectory p t else (t, none)

/-- Writes a text to a file below a directory. -/
def writeText (directory : Path) (path text : String) : FileStep :=
  .ofExcept (·.writeFile (directory.join path) (Text.encode text))

/-- What an export does, step by step. -/
def exportSteps (c : Chart) (root : Path) (config : ChartConfig) : List FileStep :=
  let directory := exportPath root config
  clear directory :: makeDirectory directory "templates" ::
    (c.files config).map fun (path, text) => writeText directory path text

/-- Writes the files of a chart. The tree shows how far a failed export came. -/
def exportTo (c : Chart) (root : Path) (config : ChartConfig) : FileStep :=
  .all (c.exportSteps root config)

end Chartwright.Chart
