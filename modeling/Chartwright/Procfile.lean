import Chartwright.Json.Reader
import Chartwright.Report
import Chartwright.Spec.Deployment
import Chartwright.Text.Lines

/-!
# Procfiles

A procfile lists the processes of a deployment, each with its command. One of them is routable,
that is, it receives the traffic from outside: `web` if there is one, else the least name.
-/

namespace Chartwright

/-- The processes of a deployment, in order, with the name of the routable one. -/
structure Procfile where
  processes : Dict String (List String)
  routable : String
deriving DecidableEq, Repr

namespace Procfile

/-- Why there is no procfile. -/
inductive Problem where
  /-- No line, and no entry, defines a process. -/
  | empty
  /-- The metadata of a build is no JSON text. -/
  | unreadable
  /-- The metadata of a build has something else where an object should be. -/
  | notObject
  /-- The metadata of a build has something else where a list or a text should be. -/
  | wrongType
deriving DecidableEq, Repr

/-- The name of the process that is routable whenever it is there. -/
def preferredName : String := "web"

/-- The characters of process names. -/
def isNameChar (c : Char) : Bool :=
  ('a' ≤ c && c ≤ 'z') || ('A' ≤ c && c ≤ 'Z') || Text.isDigit c || c = '_' || c = '-'

/-- The least of some names by code points. -/
def leastName? : List String → Option String
  | [] => none
  | name :: names => some (names.foldl (fun a b => if b < a then b else a) name)

/-- The routable one of some names. -/
def routableName? (names : List String) : Option String :=
  if preferredName ∈ names then some preferredName else leastName? names

/-- The procfile of some processes, unless there are none. -/
def ofProcesses (processes : Dict String (List String)) : Except Problem Procfile :=
  match routableName? (Dict.keys processes) with
  | some routable => .ok ⟨processes, routable⟩
  | none => .error .empty

/-- Whether a process is the routable one. -/
def isRoutable (p : Procfile) (name : String) : Bool := p.routable = name

/-- The names of the processes by code points. -/
def sortedNames (p : Procfile) : List String := (Dict.keys p.processes).mergeSort (· ≤ ·)

/-- The name and the command that a line defines: the name ends at the first colon, and what is
behind it is the command. Blanks around either are dropped; lines that start with a number sign
define nothing. -/
def definition? (line : List Char) : Option (String × String) :=
  let stripped := Text.strip line
  let (name, rest) := stripped.span isNameChar
  match name, rest with
  | _ :: _, ':' :: rest =>
    let command := Text.strip rest
    if command = [] then none else some (String.ofList name, String.ofList command)
  | _, _ => none

/-- The definitions of a text, line by line. -/
def definitions (text : String) : List (String × String) :=
  (Text.splitLines text.toList).filterMap definition?

/-- Reads a procfile; of two definitions of a name the later counts. -/
def parse (text : String) : Except Problem Procfile :=
  ofProcesses (Dict.ofList ((definitions text).map fun (name, command) => (name, [command])))

/-- The procfile of the processes of a deployment. -/
def ofSpecs (specs : List ProcessSpec) : Except Problem Procfile :=
  ofProcesses (Dict.ofList (specs.map fun spec => (spec.name, spec.command)))

/-- Writes the processes of a deployment as a procfile. -/
def render (specs : List ProcessSpec) : String :=
  String.join (specs.map fun spec => spec.name ++ ": " ++ " ".intercalate spec.command ++ "\n")

/-- The name that a process type gives: one of name characters alone, though a newline may follow
it, which is dropped. -/
def nameOfType? (type : String) : Option String :=
  let cs := type.toList
  let name := if cs.getLast? = some '\n' then cs.dropLast else cs
  if name ≠ [] ∧ name.all isNameChar then some (String.ofList name) else none

/-- The process type of an entry of build metadata; absent counts as empty. -/
def typeOfEntry (entry : Document) : Except Problem String :=
  match entry with
  | .mapping _ =>
    match entry.get? "type" with
    | none => .ok ""
    | some (.text type) => .ok type
    | some _ => .error .wrongType
  | _ => .error .notObject

/-- The entries of build metadata; what is empty or absent has none. -/
def entriesOfMetadata (metadata : Document) : Except Problem (List Document) :=
  match metadata with
  | .mapping _ =>
    match metadata.get? "processes" with
    | none => .ok []
    | some d =>
      if d.isEmpty then .ok []
      else match d with
        | .list entries => .ok entries
        | .mapping _ | .text _ => .error .notObject
        | _ => .error .wrongType
  | _ => .error .notObject

/-- The procfile of build metadata: the command of a process is its type. -/
def ofMetadata (metadata : Document) : Except Problem Procfile := do
  let entries ← entriesOfMetadata metadata
  let types ← entries.mapM typeOfEntry
  ofProcesses (Dict.ofList ((types.filterMap nameOfType?).map fun name => (name, [name])))

/-- Reads the procfile of build metadata in JSON. -/
def parseMetadata (text : String) : Except Problem Procfile :=
  match Json.read? text with
  | some metadata => ofMetadata metadata
  | none => .error .unreadable

end Procfile

end Chartwright
