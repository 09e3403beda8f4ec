import Chartwright.Schema.Scalar

/-!
# Shapes

A shape says which documents stand for the values of a type: `decode` reads a value or lists all
that is wrong, `encode` writes the value down under the names of its fields.

Reading is lax, as validation of data models is. Issues are listed in the order of the fields, with
those of a field in the place of it, and keys that no field uses come last. A field that has another
key may come under either; the other key wins, and then the name is no field. What is asked of a
record as a whole is looked at where nothing else is wrong. A document that is no plain tree of
values has no shape, and there is no limit to its depth.
-/

namespace Chartwright.Schema

mutual

/-- The shapes of the values of a type. -/
inductive Shape : Type → Type 1 where
  /-- Texts that keep a rule. -/
  | text (rule : TextRule) : Shape String
  /-- Integers within limits. -/
  | integer (bounds : List Bound) : Shape Int
  /-- Truth values. -/
  | flag : Shape Bool
  /-- Lengths of time. -/
  | duration : Shape Duration
  /-- Points in time. -/
  | moment : Shape Moment
  /-- One of several words. -/
  | choice {α : Type} (options : List (String × α)) (name : α → String) : Shape α
  /-- Mappings with any content. -/
  | free : Shape (Dict String Document)
  /-- Lists of values of one shape. -/
  | list {α : Type} (item : Shape α) : Shape (List α)
  /-- Mappings to values of one shape. -/
  | table {α : Type} (value : Shape α) : Shape (Dict String α)
  /-- A value or null. -/
  | optional {α : Type} (inner : Shape α) : Shape (Option α)
  /-- Mappings with fixed keys; a closed one has no others. `make` may refuse the fields. -/
  | record {α β : Type} (title : String) (closed : Bool) (fields : Fields α)
      (make : α → Except String β) (parts : β → α) : Shape β

/-- The fields of a record, as a tuple that ends in the unit. -/
inductive Fields : Type → Type 1 where
  /-- No further field. -/
  | done : Fields Unit
  /-- A field with its name, the other key it may come under, and its value where it is absent. -/
  | field {α β : Type} (name : String) (other : Option String) (shape : Shape α)
      (absent : Option α) (rest : Fields β) : Fields (α × β)

end

/-- The text keys of a mapping; the first of the other keys, if there is one. -/
def textKeys (entries : List (Scalar × Document)) : Dict String Document :=
  entries.filterMap fun (k, v) => match k with
    | .text s => some (s, v)
    | _ => none

/-- The issues for keys that are no texts. -/
def keyIssues (cause : Cause) (entries : List (Scalar × Document)) : List Issue :=
  entries.filterMap fun (k, _) => match k with
    | .text _ => none
    | k => some ⟨[.key k, .key (.text "[key]")], cause⟩

/-- A value, unless there are issues. -/
def conclude {α : Type} (issues : List Issue) (value : Option α) : Except (List Issue) α :=
  match issues, value with
  | [], some a => .ok a
  | _, _ => .error issues

/-- The key under which a field is found: the other key wins over the name. -/
def findField (entries : List (Scalar × Document)) (name : String) (other : Option String) :
    Option (String × Document) :=
  match other with
  | some key =>
    match Dict.get? entries (.text key) with
    | some v => some (key, v)
    | none => (Dict.get? entries (.text name)).map (name, ·)
  | none => (Dict.get? entries (.text name)).map (name, ·)

/-- The keys of a mapping that the fields use. -/
def Fields.usedKeys {α : Type} (entries : List (Scalar × Document)) : Fields α → List String
  | .done => []
  | .field name other _ _ rest =>
    ((findField entries name other).map (·.1)).toList ++ rest.usedKeys entries

/-- The issues for the keys that no field uses. -/
def unknownKeys (entries : List (Scalar × Document)) (used : List String) : List Issue :=
  entries.filterMap fun (k, _) => match k with
    | .text s => if s ∈ used then none else some ⟨[.key k], .unknownKey⟩
    | _ => some ⟨[.key k], .keyNotText⟩

/-- Lifts the result for a scalar. -/
def atHere {α : Type} : Except Cause α → Except (List Issue) α
  | .ok a => .ok a
  | .error cause => .error [⟨[], cause⟩]

/-- Decodes the items of a list; the issues of all of them are kept. -/
def decodeItems {α : Type} (decode : Document → Except (List Issue) α) :
    (index : Nat) → List Document → List Issue × List α
  | _, [] => ([], [])
  | index, d :: ds =>
    let (issues, values) := decodeItems decode (index + 1) ds
    match decode d with
    | .ok a => (issues, a :: values)
    | .error found => (found.map (·.under (.index index)) ++ issues, values)

/-- Decodes the entries of a mapping; the issues of all of them are kept. -/
def decodeEntries {α : Type} (decode : Document → Except (List Issue) α) :
    List (Scalar × Document) → List Issue × Dict String α
  | [] => ([], [])
  | (k, d) :: entries =>
    let (issues, values) := decodeEntries decode entries
    let keyIssue := keyIssues .notText [(k, d)]
    match decode d, k with
    | .ok a, .text s => (issues, (s, a) :: values)
    | .ok _, _ => (keyIssue ++ issues, values)
    | .error found, _ => (keyIssue ++ found.map (·.under (.key k)) ++ issues, values)

mutual

/-- Reads a value of a shape, or lists what is wrong, in the order of the fields. -/
def Shape.decode : {α : Type} → Shape α → Document → Except (List Issue) α
  | _, .text rule, d => atHere (readText rule d)
  | _, .integer bounds, d => atHere (readInteger bounds d)
  | _, .flag, d => atHere (readFlag d)
  | _, .duration, d => atHere (readDuration d)
  | _, .moment, d => atHere (readMoment d)
  | _, .choice options _, d =>
    match d with
    | .text s =>
      match options.lookup s with
      | some a => .ok a
      | none => .error [⟨[], .notChoice (options.map (·.1))⟩]
    | _ => .error [⟨[], .notChoice (options.map (·.1))⟩]
  | _, .free, d =>
    match d with
    | .mapping entries => conclude (keyIssues .notText entries) (some (textKeys entries))
    | _ => .error [⟨[], .notMapping⟩]
  | _, .list item, d =>
    match d with
    | .list items =>
      let (issues, values) := decodeItems item.decode 0 items
      conclude issues (some values)
    | _ => .error [⟨[], .notList⟩]
  | _, .table value, d =>
    match d with
    | .mapping entries =>
      let (issues, values) := decodeEntries value.decode entries
      conclude issues (some values)
    | _ => .error [⟨[], .notMapping⟩]
  | _, .optional inner, d =>
    match d with
    | .null => .ok none
    | d => (inner.decode d).map some
  | _, .record title closed fields make _, d =>
    match d with
    | .mapping entries =>
      let (issues, tuple) := fields.decode entries
      let unknown := if closed then unknownKeys entries (fields.usedKeys entries) else []
      match conclude (issues ++ unknown) tuple with
      | .error found => .error found
      | .ok tuple =>
        match make tuple with
        | .ok value => .ok value
        | .error text => .error [⟨[], .rule text⟩]
    | _ => .error [⟨[], .notRecord title⟩]

/-- Reads the fields of a record from the entries of a mapping. A field goes by its other key, if it
has one: an issue shows that key where nothing is given, and the one that is given elsewhere. -/
def Fields.decode : {α : Type} → Fields α → List (Scalar × Document) → List Issue × Option α
  | _, .done, _ => ([], some ())
  | _, .field name other shape absent rest, entries =>
    let (issues, tuple) := rest.decode entries
    let usual := other.getD name
    match findField entries name other, absent with
    | some (given, d), _ =>
      match shape.decode d with
      | .ok a => (issues, tuple.map (a, ·))
      | .error found => (found.map (·.under (.field given usual)) ++ issues, none)
    | none, some a => (issues, tuple.map (a, ·))
    | none, none => (⟨[.key (.text usual)], .missing⟩ :: issues, none)

end

mutual

/-- Writes a value; fields go under their names. -/
def Shape.encode : {α : Type} → Shape α → α → Document
  | _, .text _, s => .text s
  | _, .integer _, n => .int n
  | _, .flag, b => .bool b
  | _, .duration, d => .object [("us", .int d.microseconds)]
  | _, .moment, m => .text m.iso
  | _, .choice _ name, a => .text (name a)
  | _, .free, entries => .object entries
  | _, .list item, values => .list (values.map item.encode)
  | _, .table value, entries => .object (entries.map fun (k, v) => (k, value.encode v))
  | _, .optional inner, a =>
    match a with
    | none => .null
    | some a => inner.encode a
  | _, .record _ _ fields _ parts, value => .object (fields.encode (parts value))

/-- Writes the fields of a record under their names. -/
def Fields.encode : {α : Type} → Fields α → α → List (String × Document)
  | _, .done, _ => []
  | _, .field name _ shape _ rest, (a, tuple) => (name, shape.encode a) :: rest.encode tuple

end

/-- The name of a shape in reports: the title of a record. -/
def Shape.title {α : Type} : Shape α → String
  | .record title .. => title
  | _ => ""

/-- Why a document has not the shape of a record. -/
structure Rejection where
  title : String
  issues : List Issue
deriving DecidableEq, Repr

/-- Reads a value of a shape, or says why not. -/
def Shape.read {α : Type} (shape : Shape α) (d : Document) : Except Rejection α :=
  (shape.decode d).mapError (⟨shape.title, ·⟩)

/-- A field that has to be there. -/
abbrev Fields.required {α β : Type} (name : String) (shape : Shape α) (rest : Fields β) :
    Fields (α × β) := .field name none shape none rest

/-- A field that may be absent. -/
abbrev Fields.withDefault {α β : Type} (name : String) (shape : Shape α) (absent : α)
    (rest : Fields β) : Fields (α × β) := .field name none shape (some absent) rest

/-- A field that may be absent, and has another key. -/
abbrev Fields.aliased {α β : Type} (name other : String) (shape : Shape α) (absent : α)
    (rest : Fields β) : Fields (α × β) := .field name (some other) shape (some absent) rest

end Chartwright.Schema
