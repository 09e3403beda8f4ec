import Chartwright.Yaml.Scalar

/-!
# Writing YAML

The block form of a document: one entry a line, nested mappings two columns further in, lists in
a mapping at the column of its keys. The parts of a document are values and no objects, so none is
written as an alias of another one that is the same. Numbers may have any number of digits, and
values any depth.
-/

namespace Chartwright.Yaml

/-- Spaces before a line. -/
def spaces (indent : Nat) : List Char := List.replicate indent ' '

/-- The length of the type's tag, which counts towards the length of a key. -/
def tagLength : Scalar → Nat
  | .null | .bool _ => 6
  | .int _ | .text _ => 5
  | .float _ => 7
  | .date _ | .moment _ => 11

/-- Whether a key is written on one line with its colon: it is short, not empty, and unbroken. -/
def isSimpleKey (key : Scalar) : Bool :=
  let cs := (plainText key).toList
  cs ≠ [] && !cs.any isBreak && cs.length + tagLength key < 128

mutual

/-- A value behind the colon of a one-line key. -/
def writeValue (indent column : Nat) : Document → List Char
  | .scalar s => ' ' :: writeScalar false (indent + 2) (column + 1) s ++ ['\n']
  | .list [] => " []\n".toList
  | .mapping [] => " \x7b\x7d\n".toList
  | .list items => '\n' :: writeItems indent false items
  | .mapping entries => '\n' :: writeEntries (indent + 2) false entries

/-- A node behind a dash, a question mark or a colon that stands at the start of its line. -/
def writeNode (indent : Nat) : Document → List Char
  | .scalar s => ' ' :: writeScalar false (indent + 2) (indent + 2) s ++ ['\n']
  | .list [] => " []\n".toList
  | .mapping [] => " \x7b\x7d\n".toList
  | .list items => ' ' :: writeItems (indent + 2) true items
  | .mapping entries => ' ' :: writeEntries (indent + 2) true entries

/-- The items of a list; the first may go on with the line that is open. -/
def writeItems (indent : Nat) (opened : Bool) : List Document → List Char
  | [] => []
  | item :: items =>
    (if opened then [] else spaces indent) ++ '-' :: writeNode indent item ++
      writeItems indent false items

/-- The entries of a mapping; the first may go on with the line that is open. -/
def writeEntries (indent : Nat) (opened : Bool) : List (Scalar × Document) → List Char
  | [] => []
  | (key, value) :: entries =>
    (if opened then [] else spaces indent) ++
      (if isSimpleKey key then
        let name := writeScalar true (indent + 2) indent key
        name ++ ':' :: writeValue indent (indent + name.length + 1) value
      else
        '?' :: ' ' :: writeScalar false (indent + 2) (indent + 2) key ++
          '\n' :: spaces indent ++ ':' :: writeNode indent value) ++
      writeEntries indent false entries

end

/-- A document in YAML. -/
def print (d : Document) : String :=
  String.ofList <|
    match d with
    | .scalar s => writeScalar false 0 0 s ++ ['\n']
    | .list [] => "[]\n".toList
    | .mapping [] => "\x7b\x7d\n".toList
    | .list items => writeItems 0 true items
    | .mapping entries => writeEntries 0 true entries

end Chartwright.Yaml
