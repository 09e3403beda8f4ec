import Chartwright.Command.Ending

/-!
# The program

The command line on a real disk: what the arguments name is read into a file tree, the command runs
on the tree, and a chart that it wrote there is written to the disk.
-/

namespace Chartwright.Program

/-- Adds the file or directory at a path to a tree. -/
def addNode (t : FileTree) (p : Path) : IO FileTree := do
  let file := System.mkFilePath [p.render]
  match t.locate p with
  | .error _ => return t
  | .ok place =>
    if ← file.isDir then return Dict.put t place .directory
    else if ← file.pathExists then return Dict.put t place (.file (← IO.FS.readBinFile file))
    else return t

/-- Adds what a text names to a tree: the directories on the way, and what is in a directory. -/
def addNamed (t : FileTree) (text : String) : IO FileTree := do
  let path := Path.ofString text
  let lengths := (List.range (path.names.length + 1)).drop 1
  let t ← lengths.foldlM (fun t n => addNode t { path with names := path.names.take n }) t
  if t.isDirectory path then
    let entries ← (System.mkFilePath [path.render]).readDir
    entries.foldlM (fun t entry => addNode t (path.join entry.fileName)) t
  else return t

/-- The variables of the environment that settings can come from. -/
def environment : IO (List (String × String)) :=
  Settings.names.foldlM (fun found name => do
    let lower := Settings.variableStart ++ name
    let upper := lower.map Char.toUpper
    let value := (← IO.getEnv lower).or (← IO.getEnv upper)
    return found ++ (value.map (upper, ·)).toList) []

/-- Writes the files below a directory of a tree to the disk, in place of what is there. -/
def writeBelow (t : FileTree) (directory : Path) : IO Unit := do
  let file := System.mkFilePath [directory.render]
  if ← file.isDir then IO.FS.removeDirAll file
  match t.locate directory with
  | .error _ => return
  | .ok place =>
    for (name, content) in t.filesBelow place do
      let path := directory.join name
      IO.FS.createDirAll { path with names := path.names.dropLast }.render
      IO.FS.writeBinFile path.render content

/-- The words at the end of the program; the cells of a table are set apart by tabs. -/
def displayText : Command.Display → String
  | .text text => text
  | .table title rows =>
    String.join ((title :: rows.map ("\t".intercalate ·)).map (· ++ "\n"))
  | .notice shown | .message shown => shown ++ "\n"
  | .usage => "Usage error\n" ++ Command.helpText
  | .crash (.settings rejection) => Command.rejectionLine rejection ++ "\n"
  | .crash .undecodable => "a file is not in UTF-8\n"
  | .crash (.raised error) => (AnyError.foreign error).summary ++ "\n"
  | .crash (.fault fault) => fault.text ++ "\n"

/-- Runs a command line and returns its exit status. -/
def run (args : List String) : IO UInt32 := do
  let libraries := Command.Libraries.own
  let tree ← (Command.dotEnvFile :: Command.namedPaths args).foldlM addNamed []
  let (tree, result) := Command.run libraries args (← environment) tree
  if let .ok (.chart directory) := result then writeBelow tree directory
  let ending := libraries.ending result
  let stream ← if ending.status = 0 then IO.getStdout else IO.getStderr
  stream.putStr (displayText ending.display)
  return ending.status.toUInt32

end Chartwright.Program

/-- Runs the command line. -/
def main (args : List String) : IO UInt32 := Chartwright.Program.run args
