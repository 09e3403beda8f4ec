import Chartwright.Document.Basic
import Chartwright.Number.Shortest
import Chartwright.Yaml.Style

/-!
# Writing scalars

The text of a scalar in its style. Lines are folded at a single space once they are longer than
`width` characters; between double quotes a fold may come anywhere.
-/

namespace Chartwright.Yaml

/-- The length from which lines are folded. -/
def width : Nat := 80

/-- Doubles in YAML. -/
def floatLayout : FloatLayout where
  infinity := ".inf"
  nan := ".nan"
  pointBeforeExponent := true

/-- A newline and the indentation of the next line. -/
def newLine (indent : Nat) : List Char := '\n' :: List.replicate indent ' '

/-- What a run of characters consists of. -/
inductive RunKind where
  | spaces | breaks | other
deriving DecidableEq, Repr

/-- The kind of run that a character belongs to. -/
def RunKind.of (c : Char) : RunKind :=
  if c = ' ' then .spaces else if isBreak c then .breaks else .other

/-- Cuts a text into maximal runs of one kind. -/
def runs : List Char → List (RunKind × List Char)
  | [] => []
  | c :: cs =>
    match runs cs with
    | (kind, run) :: rest =>
      if RunKind.of c = kind then (kind, c :: run) :: rest else (RunKind.of c, [c]) :: (kind, run) :: rest
    | [] => [(RunKind.of c, [c])]

/-- Breaks between single quotes: the first newline is written twice. -/
def writeBreaks (indent : Nat) (breaks : List Char) : List Char :=
  (if breaks.head? = some '\n' then ['\n'] else []) ++ breaks ++ List.replicate indent ' '

/-- A character between single quotes. -/
def singleChar (c : Char) : List Char := if c = '\x27' then ['\x27', '\x27'] else [c]

/-- Writes the runs of a text that has no double quotes around it. `first` tells whether nothing
of the text is written yet. -/
def writeRuns (fold quoted : Bool) (indent : Nat) :
    (column : Nat) → (first : Bool) → List (RunKind × List Char) → List Char
  | _, _, [] => []
  | column, first, (.spaces, run) :: rest =>
    if run.length = 1 ∧ width < column ∧ fold ∧ !(quoted && (first || rest.isEmpty)) then
      newLine indent ++ writeRuns fold quoted indent indent false rest
    else run ++ writeRuns fold quoted indent (column + run.length) false rest
  | _, _, (.breaks, run) :: rest =>
    writeBreaks indent run ++ writeRuns fold quoted indent indent false rest
  | column, _, (.other, run) :: rest =>
    let text := if quoted then run.flatMap singleChar else run
    text ++ writeRuns fold quoted indent (column + text.length) false rest

/-- Escapes with one letter between double quotes. -/
def shortEscapes : List (Char × Char) := [
  ('\x00', '0'), ('\x07', 'a'), ('\x08', 'b'), ('\t', 't'), ('\n', 'n'), ('\x0b', 'v'),
  ('\x0c', 'f'), ('\x0d', 'r'), ('\x1b', 'e'), ('\x22', '\x22'), ('\\', '\\'), ('\u0085', 'N'),
  ('\u2028', 'L'), ('\u2029', 'P')]

/-- The hexadecimal digits of a number in upper case, filled up to a width. -/
def upperHex (digits n : Nat) : List Char :=
  let hex := (Nat.toDigits 16 n).map Char.toUpper
  List.replicate (digits - hex.length) '0' ++ hex

/-- The escape of a character between double quotes, if it needs one. -/
def doubleEscape? (c : Char) : Option (List Char) :=
  let n := c.toNat
  match shortEscapes.lookup c with
  | some letter => some ['\\', letter]
  | none =>
    if c ≠ '\ufeff' ∧ ((0x20 ≤ n ∧ n ≤ 0x7e) ∨ (0xa0 ≤ n ∧ n ≤ 0xd7ff) ∨ (0xe000 ≤ n ∧ n ≤ 0xfffd))
    then none
    else some ('\\' ::
      if n < 0x100 then 'x' :: upperHex 2 n
      else if n < 0x10000 then 'u' :: upperHex 4 n
      else 'U' :: upperHex 8 n)

/-- The end of a folded line between double quotes, up to the next character: a backslash, the
break, and a backslash more if that character is a space. -/
def foldDouble (indent : Nat) (next : Option Char) : List Char :=
  '\\' :: newLine indent ++ if next = some ' ' then ['\\'] else []

/-- The column behind a fold. -/
def columnAfterFold (indent : Nat) (next : Option Char) : Nat :=
  if next = some ' ' then indent + 1 else indent

/-- Writes a text between double quotes. `pending` are the characters seen and not yet written, in
reverse; `seen` counts the characters before the next one, and `length` those of the whole text. -/
def writeDouble (fold : Bool) (indent length : Nat) :
    (seen column : Nat) → (pending : List Char) → List Char → List Char
  | _, _, pending, [] => pending.reverse
  | seen, column, pending, c :: rest =>
    let inside : Bool := fold && 0 < seen && seen + 1 < length
    match doubleEscape? c with
    | some escape =>
      let written := pending.reverse ++ escape
      let column := column + written.length
      if inside && width + 1 < column then
        written ++ foldDouble indent rest.head? ++
          writeDouble fold indent length (seen + 1) (columnAfterFold indent rest.head?) [] rest
      else written ++ writeDouble fold indent length (seen + 1) column [] rest
    | none =>
      if inside && (c = ' ' || pending.isEmpty) && width < column + pending.length then
        pending.reverse ++ foldDouble indent (some c) ++
          writeDouble fold indent length (seen + 1) (columnAfterFold indent (some c)) [c] rest
      else writeDouble fold indent length (seen + 1) column (c :: pending) rest

/-- The text of a scalar in plain style, unless it is a text. -/
def plainText : Scalar → String
  | .null => "null"
  | .bool true => "true"
  | .bool false => "false"
  | .int n => toString n
  | .float x => floatLayout.render x
  | .text s => s
  | .date d => d.render
  | .moment m => m.render " "

/-- The style of a scalar: only texts can need quotes. -/
def Style.ofScalar (simpleKey : Bool) : Scalar → Style
  | .text s => styleOf simpleKey s
  | _ => .plain

/-- Writes a scalar that starts at a column; further lines of it are indented. -/
def writeScalar (simpleKey : Bool) (indent column : Nat) (value : Scalar) : List Char :=
  let cs := (plainText value).toList
  match Style.ofScalar simpleKey value with
  | .plain => writeRuns (!simpleKey) false indent column true (runs cs)
  | .single => '\x27' :: writeRuns (!simpleKey) true indent (column + 1) true (runs cs) ++ ['\x27']
  | .double => '\x22' :: writeDouble (!simpleKey) indent cs.length 0 (column + 1) [] cs ++ ['\x22']

end Chartwright.Yaml
