import Chartwright.Report
import Chartwright.Text.Split
import Chartwright.Yaml.Node
import Chartwright.Yaml.Token.Lexer

/-!
# Reading YAML

The value of a YAML text with one document. Plain scalars have the types of YAML 1.1, aliases stand
for the values of their anchors, merge keys bring in the entries of other mappings, and of a key
that occurs more than once the last value counts. There is no limit to the digits of a number or to
the depth of a value.

This is not all of YAML. Refused as malformed are binary values, sets, ordered mappings and pairs,
handles for tags, values that contain themselves, and escapes of half a surrogate pair; and a number
under a tag has to be written as it can be without one.
-/

namespace Chartwright.Yaml

/-- Why a text has no value. -/
inductive ReadProblem where
  | malformed
  /-- A scalar has no value of its type; the error is that of whatever makes the values. -/
  | noSuchValue (error : ForeignError)
deriving DecidableEq, Repr

/-- There is no value like the one that is written. -/
def ReadProblem.ofValue (message : String) : ReadProblem :=
  .noSuchValue ⟨"ValueError", some message⟩

/-- There is nothing to be read behind a tag for numbers. -/
def ReadProblem.noNumber : ReadProblem :=
  .noSuchValue ⟨"IndexError", some "string index out of range"⟩

/-- The value of digits to a base, of which there has to be at least one. -/
def readDigits (base : Nat) (digits : List Char) : Except ReadProblem Nat :=
  if digits = [] then
    .error (.ofValue ("invalid literal for int() with base " ++ toString base ++ ": ''"))
  else .ok (digits.foldl (fun n c => base * n + (Json.hexValue? c).getD 0) 0)

/-- The value of an integer. -/
def readInt (text : String) : Except ReadProblem Int := do
  let cs := text.toList.filter (· ≠ '_')
  let magnitude ←
    match dropSign cs with
    | '0' :: 'b' :: digits => readDigits 2 digits
    | '0' :: 'x' :: digits => readDigits 16 digits
    | '0' :: digits => .ok (digits.foldl (fun n c => 8 * n + Text.digitValue c) 0)
    | digits => .ok ((Text.splitAt ':' digits).foldl (fun n part => 60 * n + Text.natOfDigits part) 0)
  return if cs.head? = some '-' then -magnitude else magnitude

/-- Reads a decimal number without a sign. -/
def readDecimal? (cs : List Char) : Option Binary64 := do
  let (whole, rest) := Text.spanDigits cs
  let (fraction, rest) :=
    match rest with
    | '.' :: rest => Text.spanDigits rest
    | _ => ([], rest)
  guard (whole ++ fraction ≠ [])
  let (exponent, rest) := Json.readExponent rest
  guard (rest = [])
  some (.ofDecimal false (Text.natOfDigits (whole ++ fraction))
    (exponent.getD 0 - fraction.length))

/-- The value of digits to base sixty whose last group may have a fraction, summed up from the
last group on. -/
def readSixties? (cs : List Char) : Option Binary64 := do
  let groups ← (Text.splitAt ':' cs).reverse.mapM readDecimal?
  let weights := (List.range groups.length).map fun k => Binary64.ofInt (sixtyPow k)
  some ((groups.zip weights).foldl (fun sum (group, weight) => sum.add (group.mul weight))
    (.ofInt 0))

/-- The value of a float. -/
def readFloat? (text : String) : Option Binary64 :=
  let cs := (text.toList.filter (· ≠ '_')).map Char.toLower
  let negative := cs.head? = some '-'
  let body := dropSign cs
  if body = ".inf".toList then some (.infinite negative)
  else if body = ".nan".toList then some .nan
  else
    (if ':' ∈ body then readSixties? body else readDecimal? body).map fun x =>
      if negative then x.neg else x

/-- What is wrong with a timestamp, if anything is. -/
def stampProblem? (s : Stamp) : Option String :=
  let (hour, minute, second) :=
    match s.time with
    | some (hour, minute, second, _) => (hour, minute, second)
    | none => (0, 0, 0)
  if s.year = 0 then some "year 0 is out of range"
  else if s.month = 0 ∨ 12 < s.month then some "month must be in 1..12"
  else if (Date.ofCivil? s.year s.month s.day).isNone then some "day is out of range for month"
  else if 24 ≤ hour then some "hour must be in 0..23"
  else if 60 ≤ minute then some "minute must be in 0..59"
  else if 60 ≤ second then some "second must be in 0..59"
  else none

/-- The value of a timestamp: a date, or a moment; of a fraction six digits count. -/
def readStamp (s : Stamp) : Except ReadProblem Scalar :=
  match stampProblem? s, Date.ofCivil? s.year s.month s.day with
  | none, some date =>
    match s.time with
    | none => .ok (.date date)
    | some (hour, minute, second, fraction) =>
      if s.offset.any fun minutes => 24 * 60 ≤ minutes.natAbs then
        .error (.ofValue "offset must be less than a day")
      else
        let micros := Text.natOfDigits ((fraction ++ List.replicate 6 '0').take 6)
        let wall := ((hour * 60 + minute) * 60 + second) * 1000000 + micros
        let offset := s.offset.map (· * Moment.minuteMicroseconds)
        .ok (.moment ⟨date.days * Duration.dayMicroseconds + wall, offset⟩)
  | problem, _ => .error (.ofValue (problem.getD ""))

/-- The words for what is true. -/
def trueWords : List String := ["yes", "true", "on"]

/-- The words for what is false. -/
def falseWords : List String := ["no", "false", "off"]

/-- Whether a text has nothing in it but what may stand between digits. -/
def isWithoutNumber (text : String) : Bool := text.toList.all (· = '_')

/-- The value of a scalar. Only a tag makes a text a scalar of a type that it has not the form of. -/
def readScalar (type : PlainType) (text : String) : Except ReadProblem Scalar :=
  match type with
  | .null => .ok .null
  | .text => .ok (.text text)
  | .bool =>
    let word := text.map Char.toLower
    if word ∈ trueWords then .ok (.bool true)
    else if word ∈ falseWords then .ok (.bool false)
    else .error (.noSuchValue ⟨"KeyError", some (Text.quoted word)⟩)
  | .int =>
    if isWithoutNumber text then .error .noNumber
    else if isInt text.toList then (readInt text).map .int
    else .error (.noSuchValue ⟨"ValueError", none⟩)
  | .float =>
    if isWithoutNumber text then .error .noNumber
    else (readFloat? text).elim (.error (.noSuchValue ⟨"ValueError", none⟩)) (.ok <| .float ·)
  | .timestamp =>
    (readStamp? text.toList).elim (.error (.noSuchValue ⟨"AttributeError", none⟩)) readStamp
  | .merge | .value => .error .malformed

/-- The values of the anchors so far. -/
abbrev Anchors := Dict String Document

/-- The key of an entry. -/
inductive EntryKey where
  /-- The value holds entries, or is a list of mappings that do. -/
  | merge
  | key (key : Scalar)

/-- The entries that a merged value brings in; of several mappings the first wins. -/
def mergedEntries (value : Document) : Except ReadProblem (List (Scalar × Document)) :=
  match value with
  | .mapping entries => .ok entries
  | .list items => do
    let all ← items.reverse.mapM fun
      | .mapping entries => .ok entries
      | _ => .error .malformed
    return all.flatten
  | .scalar _ => .error .malformed

/-- The mapping of some entries: merged ones come first, so that the others win. -/
def mappingOf (entries : List (EntryKey × Document)) : Except ReadProblem Document := do
  let merged ← entries.mapM fun
    | (.merge, value) => mergedEntries value
    | _ => .ok []
  let own := entries.filterMap fun
    | (.key key, value) => some (key, value)
    | _ => none
  return .mapping (Dict.ofList (merged.flatten ++ own))

namespace Node

/-- The keys that have a meaning of their own: the sign for merging, and an equals sign, which is
a text only here. -/
def specialKey? : Node → Option EntryKey
  | .scalar .merge _ => some .merge
  | .scalar .value text => some (.key (.text text))
  | _ => none

mutual

/-- The value of a node. -/
def read (anchors : Anchors) : Node → Except ReadProblem (Document × Anchors)
  | .scalar type text => do return (.scalar (← readScalar type text), anchors)
  | .sequence items => do
    let (items, anchors) ← readItems anchors items
    return (.list items, anchors)
  | .mapping entries => do
    let (entries, anchors) ← readEntries anchors entries
    return (← mappingOf entries, anchors)
  | .alias name =>
    match Dict.get? anchors name with
    | some value => .ok (value, anchors)
    | none => .error .malformed
  | .anchored name node => do
    let (value, anchors) ← node.read anchors
    if Dict.contains anchors name then throw .malformed
    return (value, Dict.put anchors name value)

/-- The values of nodes. -/
def readItems (anchors : Anchors) : List Node → Except ReadProblem (List Document × Anchors)
  | [] => .ok ([], anchors)
  | node :: nodes => do
    let (value, anchors) ← node.read anchors
    let (values, anchors) ← readItems anchors nodes
    return (value :: values, anchors)

/-- The entries of a mapping; keys are scalars. -/
def readEntries (anchors : Anchors) :
    List (Node × Node) → Except ReadProblem (List (EntryKey × Document) × Anchors)
  | [] => .ok ([], anchors)
  | (key, value) :: entries => do
    let (key, anchors) ←
      match specialKey? key with
      | some key => .ok (key, anchors)
      | none => do
        match ← key.read anchors with
        | (.scalar key, anchors) => .ok (.key key, anchors)
        | _ => throw .malformed
    let (value, anchors) ← value.read anchors
    let (entries, anchors) ← readEntries anchors entries
    return ((key, value) :: entries, anchors)

end

end Node

/-- Reads a text with one document. -/
def read (text : String) : Except ReadProblem Document :=
  match Token.scan? text >>= Node.ofTokens? with
  | some node => (node.read []).map (·.1)
  | none => .error .malformed

end Chartwright.Yaml
