import Chartwright.Yaml.Resolve

/-!
# Tokens

What a YAML text consists of. Blocks that are marked by indentation alone have tokens for their
start and their end, too.
-/

namespace Chartwright.Yaml

/-- What a tag says about a value. -/
inductive Tag where
  /-- Nothing: the text decides, even between quotes. -/
  | open
  | scalar (type : PlainType)
  | sequence
  | mapping
deriving DecidableEq, Repr

namespace Tag

/-- What the tags of YAML itself start with. -/
def authority : String := "tag:yaml.org,2002:"

/-- The tags by their short names. -/
def names : List (String × Tag) := [
  ("null", .scalar .null), ("bool", .scalar .bool), ("int", .scalar .int),
  ("float", .scalar .float), ("timestamp", .scalar .timestamp), ("str", .scalar .text),
  ("seq", .sequence), ("map", .mapping)]

/-- The tag of a text behind its exclamation mark; other tags are not known. -/
def ofText? (s : String) : Option Tag :=
  if s = "" then some .open
  else
    names.findSome? fun (name, tag) =>
      if s = "!" ++ name ∨ s = "<" ++ authority ++ name ++ ">" then some tag else none

end Tag

/-- A token. -/
inductive Token where
  | directive
  | documentStart
  | documentEnd
  | sequenceStart
  | mappingStart
  | blockEnd
  | flowSequenceStart
  | flowSequenceEnd
  | flowMappingStart
  | flowMappingEnd
  /-- The dash before an item. -/
  | item
  /-- The comma behind an entry. -/
  | comma
  | key
  | value
  | alias (name : String)
  | anchor (name : String)
  | tag (tag : Tag)
  | scalar (text : String) (plain : Bool)
deriving DecidableEq, Repr

end Chartwright.Yaml
