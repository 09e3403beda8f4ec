import Chartwright.Dict
import Chartwright.Files.Path
import Chartwright.Text.Bytes
import Chartwright.Text.Quoted

/-!
# File trees

The files and directories around a working directory, and what programs do with them. A place is a
list of names: one above the working directory starts with double dots, and one that is reached
from the root starts with a slash.
-/

namespace Chartwright

/-- What is at a place. -/
inductive FileNode where
  | file (content : ByteArray)
  | directory

/-- Decides whether two nodes are equal. -/
def FileNode.decEq : (a b : FileNode) → Decidable (a = b)
  | .file ⟨⟨x⟩⟩, .file ⟨⟨y⟩⟩ => if h : x = y then isTrue (by rw [h]) else isFalse (by simp [h])
  | .directory, .directory => isTrue rfl
  | .file _, .directory | .directory, .file _ => isFalse (by simp)

instance : DecidableEq FileNode := FileNode.decEq

/-- A place in a file tree. -/
abbrev Place := List String

/-- The nodes of a file tree. -/
abbrev FileTree := Dict Place FileNode

/-- Why the file system refuses something. -/
inductive FileFault where
  | notFound (path : String)
  /-- A directory to be made is there, or something else in its place. -/
  | alreadyThere (path : String)
  | notDirectory (path : String)
  | isDirectory (path : String)
  | nameTooLong (path : String)
  /-- A directory to be removed is none. -/
  | notRemovable (path : String)
  | nullCharacter
deriving DecidableEq, Repr

/-- The text of a fault, with its number. -/
def FileFault.text : FileFault → String
  | .notFound path => "[Errno 2] No such file or directory: " ++ Text.quoted path
  | .alreadyThere path => "[Errno 17] File exists: " ++ Text.quoted path
  | .notDirectory path => "[Errno 20] Not a directory: " ++ Text.quoted path
  | .isDirectory path => "[Errno 21] Is a directory: " ++ Text.quoted path
  | .nameTooLong path => "[Errno 36] File name too long: " ++ Text.quoted path
  | .notRemovable path => "[Errno 20] Not a directory: PosixPath(" ++ Text.quoted path ++ ")"
  | .nullCharacter => "embedded null byte"

/-- What a program does to a file tree. It may fail on the way, with some of it done. -/
abbrev FileStep := FileTree → FileTree × Option FileFault

namespace FileStep

/-- A step that leaves the tree as it was where it fails. -/
def ofExcept (step : FileTree → Except FileFault FileTree) : FileStep := fun t =>
  match step t with
  | .ok t => (t, none)
  | .error fault => (t, some fault)

/-- Runs steps until one fails. -/
def all : List FileStep → FileStep
  | [], t => (t, none)
  | step :: steps, t =>
    match step t with
    | (t, none) => all steps t
    | (t, some fault) => (t, some fault)

end FileStep

namespace FileTree

/-- The root. -/
def root : Place := ["/"]

/-- Whether a place is the working directory or one above it. -/
def isAbove (place : Place) : Bool := place.all (· = "..")

/-- The node at a place. The root, the working directory and those above it are always there. -/
def node? (t : FileTree) (place : Place) : Option FileNode :=
  if isAbove place ∨ place = root then some .directory else Dict.get? t place

/-- The place that a name leads to. -/
def step (place : Place) (name : String) : Place :=
  if name = ".." ∧ !isAbove place then (if place = root then root else place.dropLast)
  else place ++ [name]

/-- The place that a path starts from. -/
def origin (p : Path) : Place := if p.absolute then root else []

/-- The greatest number of bytes of a name. -/
def nameLimit : Nat := 255

/-- The place that names lead to from a place; all but the last have to lead to directories. -/
def walk (t : FileTree) (shown : String) : Place → List String → Except FileFault Place
  | place, [] => .ok place
  | place, name :: names =>
    match t.node? place with
    | none => .error (.notFound shown)
    | some (.file _) => .error (.notDirectory shown)
    | some .directory =>
      if nameLimit < name.utf8ByteSize then .error (.nameTooLong shown)
      else walk t shown (step place name) names

/-- Whether a path can be no path of a file system, as it has a null character. -/
def hasNull (p : Path) : Bool := p.render.toList.contains '\x00'

/-- The place of a path. -/
def locate (t : FileTree) (p : Path) : Except FileFault Place :=
  if hasNull p then .error .nullCharacter else t.walk p.render (origin p) p.names

/-- The place that a path leads to where all directories on its way are there. -/
def destination (p : Path) : Place := p.names.foldl step (origin p)

/-- The node that a path leads to. -/
def at? (t : FileTree) (p : Path) : Option FileNode :=
  match t.locate p with
  | .ok place => t.node? place
  | .error _ => none

/-- The node that a text names as a path. An empty text names nothing, and behind a last slash
only a directory is found. -/
def named? (t : FileTree) (text : String) : Option FileNode :=
  let cs := text.toList
  if cs = [] then none
  else
    match t.at? (.ofString text) with
    | some (.file content) =>
      if ['/'].isSuffixOf cs || ['/', '.'].isSuffixOf cs then none else some (.file content)
    | node => node

/-- Whether a path leads to a directory. -/
def isDirectory (t : FileTree) (p : Path) : Bool := t.at? p = some .directory

/-- The name and the content of a file that is directly in a directory. -/
def fileIn? (place : Place) : Place × FileNode → Option (String × ByteArray)
  | (_, .directory) => none
  | (q, .file content) =>
    match q.getLast? with
    | some name => if q = place ++ [name] then some (name, content) else none
    | none => none

/-- The files directly in a directory, by name. -/
def filesIn (t : FileTree) (p : Path) : List (String × ByteArray) :=
  match t.locate p with
  | .error _ => []
  | .ok place => (t.filterMap (fileIn? place)).mergeSort fun a b => a.1 ≤ b.1

/-- Whether a place is another one or lies below it. -/
def isUnder (place q : Place) : Bool := place.isPrefixOf q

/-- Whether a place is not below the working directory. -/
def isOutside (q : Place) : Bool := q.head? = some ".." || q.head? = some "/"

/-- Removes a directory: first what is in it, then the directory itself, to which its path has to
lead once more. -/
def removeDirectory (p : Path) : FileStep := fun t =>
  match t.locate p with
  | .error fault => (t, some fault)
  | .ok place =>
    match t.node? place with
    | none => (t, some (.notFound p.render))
    | some (.file _) => (t, some (.notRemovable p.render))
    | some .directory =>
      let emptied : FileTree := t.filter fun (q, _) => !isUnder place q || q = place
      match locate emptied p with
      | .error fault => (emptied, some fault)
      | .ok place => (Dict.erase emptied place, none)

/-- Makes the directories that names lead through from a place, where they are not there yet. A
file is in the way of all directories behind it, and of one in its place. -/
def makeDirectories (shown : String) (blocked : FileFault) : Place → List String → FileStep
  | _, [], t => (t, none)
  | place, name :: names, t =>
    if nameLimit < name.utf8ByteSize then (t, some (.nameTooLong shown))
    else
      match t.node? (step place name) with
      | some .directory => makeDirectories shown blocked (step place name) names t
      | some (.file _) => (t, some blocked)
      | none =>
        makeDirectories shown (.alreadyThere shown) (step place name) names
          (Dict.put t (step place name) .directory)

/-- Makes a directory in another one that a path leads to, and the directories on the way there. The
new directory must not be there yet. -/
def makeDirectory (p : Path) (name : String) : FileStep := fun t =>
  let shown := (p.join name).render
  if hasNull (p.join name) then (t, some .nullCharacter)
  else
    match makeDirectories shown (.notDirectory shown) (origin p) p.names t with
    | (t, some fault) => (t, some fault)
    | (t, none) =>
      let place := step (destination p) name
      if nameLimit < name.utf8ByteSize then (t, some (.nameTooLong shown))
      else if (t.node? place).isSome then (t, some (.alreadyThere shown))
      else (Dict.put t place .directory, none)

/-- Writes a file, in a directory that is there. -/
def writeFile (t : FileTree) (p : Path) (content : ByteArray) : Except FileFault FileTree := do
  let place ← t.locate p
  match t.node? place with
  | some .directory => throw (.isDirectory p.render)
  | _ =>
    match t.node? place.dropLast with
    | some .directory => return Dict.put t place (.file content)
    | some (.file _) => throw (.notDirectory p.render)
    | none => throw (.notFound p.render)

/-- The tree of some files and directories, with the directories that they lie in. -/
def ofEntries (entries : List (String × FileNode)) : FileTree :=
  entries.foldl (fun t (path, node) =>
    let names := Path.namesOf path
    let t := (makeDirectories path (.notDirectory path) [] names.dropLast t).1
    match node with
    | .directory => (makeDirectories path (.notDirectory path) [] names t).1
    | .file content => Dict.put t names (.file content)) []

/-- The path and the content of a file that is at or below a place. -/
def fileBelow? (place : Place) : Place × FileNode → Option (String × ByteArray)
  | (_, .directory) => none
  | (q, .file content) =>
    if isUnder place q && (place ≠ [] || !isOutside q) then
      some ("/".intercalate (q.drop place.length), content)
    else none

/-- The files at or below a place, with their paths from there. -/
def filesBelow (t : FileTree) (place : Place) : List (String × ByteArray) :=
  t.filterMap (fileBelow? place)

end FileTree

end Chartwright
