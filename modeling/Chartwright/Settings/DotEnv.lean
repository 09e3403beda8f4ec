import Chartwright.Dict
import Chartwright.Text.Blank

/-!
# The `.env` format

Lines of names and values: `NAME=value`, with an optional `export` before it. Values may stand
between quotes and refer to other names; a number sign behind a blank starts a comment.
-/

namespace Chartwright.DotEnv

/-- Characters that end a line. -/
def isLineEnd (c : Char) : Bool := c = '\n' || c = '\x0d'

/-- Blanks within a line. -/
def isInlineBlank (c : Char) : Bool := Text.isBlank c && !isLineEnd c

/-- The rest of a text behind the end of its first line. -/
def nextLine (cs : List Char) : List Char :=
  match cs.dropWhile (!isLineEnd ·) with
  | '\x0d' :: '\n' :: rest => rest
  | _ :: rest => rest
  | [] => []

/-- What stands between quotes, and what follows. A quote behind a backslash closes only if no other
does. -/
def readQuoted? (mark : Char) : List Char → Option (List Char × List Char)
  | [] => none
  | '\\' :: tail@(c :: rest) =>
    if c = mark then
      match readQuoted? mark rest with
      | some (inside, after) => some ('\\' :: c :: inside, after)
      | none => some (['\\'], rest)
    else (readQuoted? mark tail).map fun (inside, after) => ('\\' :: inside, after)
  | c :: rest =>
    if c = mark then some ([], rest)
    else (readQuoted? mark rest).map fun (inside, after) => (c :: inside, after)

/-- Escapes between double quotes. -/
def doubleEscape? : Char → Option Char
  | '\\' => some '\\'
  | '\x27' => some '\x27'
  | '\x22' => some '\x22'
  | 'a' => some '\x07'
  | 'b' => some '\x08'
  | 'f' => some '\x0c'
  | 'n' => some '\n'
  | 'r' => some '\x0d'
  | 't' => some '\t'
  | 'v' => some '\x0b'
  | _ => none

/-- Escapes between single quotes. -/
def singleEscape? : Char → Option Char
  | '\\' => some '\\'
  | '\x27' => some '\x27'
  | _ => none

/-- Replaces escapes by what they stand for. -/
def unescape (escape? : Char → Option Char) : List Char → List Char
  | '\\' :: tail@(c :: rest) =>
    match escape? c with
    | some d => d :: unescape escape? rest
    | none => '\\' :: unescape escape? tail
  | c :: rest => c :: unescape escape? rest
  | [] => []

/-- A value without quotes, up to a comment. -/
def plainValue : List Char → List Char
  | [] => []
  | c :: rest =>
    if Text.isBlank c ∧ (rest.dropWhile Text.isBlank).head? = some '#' then []
    else c :: plainValue rest

/-- Whether nothing but blanks and a comment is left of a line. -/
def lineIsDone (cs : List Char) : Bool :=
  match cs.dropWhile isInlineBlank with
  | [] => true
  | c :: _ => c = '#' || isLineEnd c

/-- The value behind an equals sign, and what follows it. -/
def readValue? (cs : List Char) : Option (List Char × List Char) :=
  match cs with
  | '\x27' :: rest => (readQuoted? '\x27' rest).map fun (s, rest) => (unescape singleEscape? s, rest)
  | '\x22' :: rest => (readQuoted? '\x22' rest).map fun (s, rest) => (unescape doubleEscape? s, rest)
  | cs =>
    let line := cs.takeWhile (!isLineEnd ·)
    some (Text.dropEndWhile Text.isBlank (plainValue line), cs.dropWhile (!isLineEnd ·))

/-- The name at the start of a line, and what follows it. -/
def readName? (cs : List Char) : Option (List Char × List Char) :=
  match cs with
  | '\x27' :: rest =>
    match rest.span (· ≠ '\x27') with
    | ([], _) => none
    | (name, _ :: rest) => some (name, rest)
    | (_, []) => none
  | cs =>
    match cs.span fun c => !(c = '=' || c = '#' || Text.isBlank c) with
    | ([], _) => none
    | (name, rest) => some (name, rest)

/-- Drops an `export` and the blanks behind it. -/
def dropExport (cs : List Char) : List Char :=
  let word := "export".toList
  if word.isPrefixOf cs then
    let rest := cs.drop word.length
    if (rest.head?.map isInlineBlank).getD false then rest.dropWhile isInlineBlank else cs
  else cs

/-- Ends a definition: nothing but a comment may follow on its line. -/
def finish (name : List Char) (value : Option (List Char)) (rest : List Char) :
    Option (String × Option String) × List Char :=
  (if lineIsDone rest then some (String.ofList name, value.map String.ofList) else none,
    nextLine rest)

/-- Reads the definition at the start of a text, if it has one, and returns what follows its line.
A name alone is defined without a value. -/
def readDefinition (cs : List Char) : Option (String × Option String) × List Char :=
  let cs := dropExport cs
  match if cs.head? = some '#' then none else readName? cs with
  | none => (none, nextLine cs)
  | some (name, rest) =>
    match rest.dropWhile isInlineBlank with
    | '=' :: rest =>
      let behind := rest.dropWhile isInlineBlank
      match readValue? behind with
      | some (value, rest) => finish name (some value) rest
      | none => (none, nextLine behind)
    | rest => finish name none rest

/-- Reads definitions line by line; a line that is none is skipped. -/
def readAll : (fuel : Nat) → List Char → List (String × Option String)
  | 0, _ => []
  | fuel + 1, cs =>
    match cs.dropWhile Text.isBlank with
    | [] => []
    | cs =>
      let (definition, rest) := readDefinition cs
      definition.toList ++ readAll fuel rest

/-- A reference to a variable in a value, behind its dollar sign and brace: the name, the text
that takes its place if it is not defined, and what follows. -/
def reference? (cs : List Char) : Option (List Char × List Char × List Char) :=
  let (name, rest) := cs.span fun c => c ≠ '\x7d' && c ≠ ':'
  match rest with
  | '\x7d' :: rest => some (name, [], rest)
  | ':' :: '-' :: rest =>
    match rest.span (· ≠ '\x7d') with
    | (default, _ :: rest) => some (name, default, rest)
    | (_, []) => none
  | _ => none

/-- Replaces the references in a value. -/
def substitute (lookup : String → Option String) : (fuel : Nat) → List Char → List Char
  | 0, cs => cs
  | _ + 1, [] => []
  | fuel + 1, c :: rest =>
    match c, rest with
    | '$', '\x7b' :: tail =>
      match reference? tail with
      | some (name, default, after) =>
        ((lookup (String.ofList name)).elim default (·.toList)) ++ substitute lookup fuel after
      | none => c :: substitute lookup fuel rest
    | _, _ => c :: substitute lookup fuel rest

/-- Adds a definition. References in it are to the definitions before it, then to variables around
the file. -/
def define (around : List (String × String)) (table : Dict String (Option String))
    (definition : String × Option String) : Dict String (Option String) :=
  let lookup (name : String) : Option String :=
    match Dict.get? table name with
    | some value => some (value.getD "")
    | none => (around.reverse.find? (·.1 = name)).map (·.2)
  Dict.put table definition.1 <| definition.2.map fun value =>
    String.ofList (substitute lookup (value.length + 1) value.toList)

/-- The names that a text defines, with their values; of a name that is defined more than once the
last definition counts. -/
def read (around : List (String × String)) (text : String) : Dict String (Option String) :=
  (readAll (text.length + 1) text.toList).foldl (define around) []

end Chartwright.DotEnv
