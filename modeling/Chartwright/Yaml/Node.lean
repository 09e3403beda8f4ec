import Chartwright.Yaml.Token.Basic

/-!
# Nodes

The tree that the tokens of a document make up. Where a value is left out, a plain empty scalar
takes its place, which reads as null.
-/

namespace Chartwright.Yaml

/-- A node of a document. -/
inductive Node where
  | scalar (type : PlainType) (text : String)
  | sequence (items : List Node)
  | mapping (entries : List (Node × Node))
  | alias (name : String)
  | anchored (name : String) (node : Node)
deriving Repr

namespace Node

/-- The node where nothing is written. -/
def blank : Node := .scalar .null ""

/-- What stands before a node. -/
structure Properties where
  tag : Option Tag
  anchor : Option String

/-- Reads the properties of a node: a tag, an anchor, or both in either order. -/
def properties : List Token → Properties × List Token
  | .anchor a :: .tag t :: rest => (⟨some t, some a⟩, rest)
  | .tag t :: .anchor a :: rest => (⟨some t, some a⟩, rest)
  | .anchor a :: rest => (⟨none, some a⟩, rest)
  | .tag t :: rest => (⟨some t, none⟩, rest)
  | tokens => (⟨none, none⟩, tokens)

/-- A scalar under its tag. -/
def ofScalar? (tag : Option Tag) (text : String) (plain : Bool) : Option Node :=
  match tag with
  | none => some (.scalar (if plain then plainType text else .text) text)
  | some .open => some (.scalar (plainType text) text)
  | some (.scalar type) => some (.scalar type text)
  | some _ => none

/-- A sequence under its tag. -/
def ofItems? (tag : Option Tag) (items : List Node) : Option Node :=
  if tag ∈ [none, some .open, some .sequence] then some (.sequence items) else none

/-- A mapping under its tag. -/
def ofEntries? (tag : Option Tag) (entries : List (Node × Node)) : Option Node :=
  if tag ∈ [none, some .open, some .mapping] then some (.mapping entries) else none

/-- A node with its anchor. -/
def underAnchor (anchor : Option String) (node : Node) : Node := anchor.elim node (.anchored · node)

/-- Where a node stands, which decides what it may be. -/
inductive Position where
  /-- Between brackets: no block. -/
  | flow
  | block
  /-- In a block mapping: also items that are not indented further. -/
  | entry
deriving DecidableEq

/-- Drops the comma that every entry but the first has before it. -/
def separated? (first : Bool) (tokens : List Token) : Option (List Token) :=
  match first, tokens with
  | true, _ => some tokens
  | false, .comma :: rest => some rest
  | false, _ => none

mutual

/-- Parses a node. -/
def parse? (position : Position) : (fuel : Nat) → List Token → Option (Node × List Token)
  | 0, _ => none
  | fuel + 1, tokens =>
    match tokens with
    | .alias name :: rest => some (.alias name, rest)
    | _ =>
      let (props, rest) := properties tokens
      (content? position props fuel rest).map fun (node, rest) =>
        (underAnchor props.anchor node, rest)

/-- Parses what stands behind the properties of a node; behind properties it may be nothing. -/
def content? (position : Position) (props : Properties) :
    (fuel : Nat) → List Token → Option (Node × List Token)
  | 0, _ => none
  | fuel + 1, tokens => do
    let nothing := do
      guard (props.tag.isSome || props.anchor.isSome)
      let node ← ofScalar? props.tag "" true
      some (node, tokens)
    match tokens with
    | .scalar text plain :: rest =>
      let node ← ofScalar? props.tag text plain
      some (node, rest)
    | .flowSequenceStart :: rest =>
      let (items, rest) ← flowItems? true fuel rest
      let node ← ofItems? props.tag items
      some (node, rest)
    | .flowMappingStart :: rest =>
      let (entries, rest) ← flowEntries? true fuel rest
      let node ← ofEntries? props.tag entries
      some (node, rest)
    | .item :: _ =>
      if position = .entry then
        let (items, rest) ← looseItems? fuel tokens
        let node ← ofItems? props.tag items
        some (node, rest)
      else nothing
    | .sequenceStart :: rest =>
      if position = .flow then nothing
      else
        let (items, rest) ← blockItems? fuel rest
        let node ← ofItems? props.tag items
        some (node, rest)
    | .mappingStart :: rest =>
      if position = .flow then nothing
      else
        let (entries, rest) ← blockEntries? fuel rest
        let node ← ofEntries? props.tag entries
        some (node, rest)
    | _ => nothing

/-- Parses the items of a block sequence up to its end. -/
def blockItems? : (fuel : Nat) → List Token → Option (List Node × List Token)
  | 0, _ => none
  | fuel + 1, tokens => do
    match tokens with
    | .blockEnd :: rest => some ([], rest)
    | .item :: rest =>
      let (item, rest) ← valueOr? [.item, .blockEnd] .block fuel rest
      let (items, rest) ← blockItems? fuel rest
      some (item :: items, rest)
    | _ => none

/-- Parses items that are not indented further than the mapping that they are in. -/
def looseItems? : (fuel : Nat) → List Token → Option (List Node × List Token)
  | 0, _ => none
  | fuel + 1, tokens => do
    match tokens with
    | .item :: rest =>
      let (item, rest) ← valueOr? [.item, .key, .value, .blockEnd] .block fuel rest
      let (items, rest) ← looseItems? fuel rest
      some (item :: items, rest)
    | _ => some ([], tokens)

/-- Parses the entries of a block mapping up to its end. -/
def blockEntries? : (fuel : Nat) → List Token → Option (List (Node × Node) × List Token)
  | 0, _ => none
  | fuel + 1, tokens => do
    match tokens with
    | .blockEnd :: rest => some ([], rest)
    | .key :: rest =>
      let ends := [.key, .value, .blockEnd]
      let (key, rest) ← valueOr? ends .entry fuel rest
      let (value, rest) ← entryValue? ends .entry fuel rest
      let (entries, rest) ← blockEntries? fuel rest
      some ((key, value) :: entries, rest)
    | _ => none

/-- Parses the items of a flow sequence up to its bracket; an item may be a mapping of one entry. -/
def flowItems? (first : Bool) : (fuel : Nat) → List Token → Option (List Node × List Token)
  | 0, _ => none
  | fuel + 1, tokens => do
    match tokens with
    | .flowSequenceEnd :: rest => some ([], rest)
    | _ =>
      let tokens ← separated? first tokens
      match tokens with
      | .flowSequenceEnd :: rest => some ([], rest)
      | .key :: rest =>
        let (key, rest) ← valueOr? [.value, .comma, .flowSequenceEnd] .flow fuel rest
        let (value, rest) ← entryValue? [.comma, .flowSequenceEnd] .flow fuel rest
        let (items, rest) ← flowItems? false fuel rest
        some (.mapping [(key, value)] :: items, rest)
      | _ =>
        let (item, rest) ← parse? .flow fuel tokens
        let (items, rest) ← flowItems? false fuel rest
        some (item :: items, rest)

/-- Parses the entries of a flow mapping up to its bracket; an entry may be a key alone. -/
def flowEntries? (first : Bool) :
    (fuel : Nat) → List Token → Option (List (Node × Node) × List Token)
  | 0, _ => none
  | fuel + 1, tokens => do
    match tokens with
    | .flowMappingEnd :: rest => some ([], rest)
    | _ =>
      let tokens ← separated? first tokens
      match tokens with
      | .flowMappingEnd :: rest => some ([], rest)
      | .key :: rest =>
        let (key, rest) ← valueOr? [.value, .comma, .flowMappingEnd] .flow fuel rest
        let (value, rest) ← entryValue? [.comma, .flowMappingEnd] .flow fuel rest
        let (entries, rest) ← flowEntries? false fuel rest
        some ((key, value) :: entries, rest)
      | _ =>
        let (key, rest) ← parse? .flow fuel tokens
        let (entries, rest) ← flowEntries? false fuel rest
        some ((key, blank) :: entries, rest)

/-- Parses the value of an entry, if there is one. -/
def entryValue? (ends : List Token) (position : Position) :
    (fuel : Nat) → List Token → Option (Node × List Token)
  | 0, _ => none
  | fuel + 1, tokens =>
    match tokens with
    | .value :: rest => valueOr? ends position fuel rest
    | _ => some (blank, tokens)

/-- Parses a node, unless one of the tokens comes before which it was left out. -/
def valueOr? (ends : List Token) (position : Position) :
    (fuel : Nat) → List Token → Option (Node × List Token)
  | 0, _ => none
  | fuel + 1, tokens =>
    match tokens with
    | [] => none
    | t :: _ => if t ∈ ends then some (blank, tokens) else parse? position fuel tokens

end

/-- Drops the tokens that end a document. -/
def dropEnds (tokens : List Token) : List Token := tokens.dropWhile (· = .documentEnd)

/-- Parses the node of a document that starts with its own line; it may be empty. -/
def parseBody? (fuel : Nat) (tokens : List Token) : Option (Node × List Token) :=
  match tokens with
  | [] | .directive :: _ | .documentStart :: _ | .documentEnd :: _ => some (blank, tokens)
  | _ => parse? .block fuel tokens

/-- Parses the tokens of one document; without any document there is nothing. -/
def ofTokens? (tokens : List Token) : Option Node := do
  let fuel := 4 * tokens.length + 4
  let (node, rest) ←
    match tokens with
    | [] => some (blank, [])
    | .directive :: _ | .documentStart :: _ =>
      match tokens.dropWhile (· = .directive) with
      | .documentStart :: rest => parseBody? fuel rest
      | _ => none
    | _ => parse? .block fuel tokens
  guard (dropEnds rest = [])
  some node

end Node

end Chartwright.Yaml
