import Chartwright.Json.Reader
import Chartwright.Text.Split
import Chartwright.Yaml.Cursor
import Chartwright.Yaml.Token.Basic

/-!
# Lexemes

The tokens that consist of more than one character: scalars in all styles, anchors, aliases, tags
and directives.
-/

namespace Chartwright.Yaml

/-- Characters that mark structure between brackets. -/
def flowIndicators : List Char := [',', '[', ']', '\x7b', '\x7d']

/-- The leading characters of a text that belong to a plain scalar. -/
def plainWord (inFlow : Bool) : List Char → List Char
  | [] => []
  | ch :: rest =>
    if isGap ch || (inFlow && (ch = '?' || ch ∈ flowIndicators)) ||
        (ch = ':' && rest.head?.all fun d => isGap d || (inFlow && d ∈ flowIndicators)) then []
    else ch :: plainWord inFlow rest

/-- A scalar without quotes. -/
structure PlainLexeme where
  text : List Char
  /-- Whether a line ended behind its last word. -/
  endsLine : Bool
  after : Cursor

/-- What separates two words of a plain scalar, whether a line ends there, and the place behind. -/
def plainGap (c : Cursor) : List Char × Bool × Cursor :=
  let spaces := c.rest.takeWhile (· = ' ')
  let c := c.skipSpaces
  match c.takeBreak? with
  | none => (spaces, false, c)
  | some (first, c) =>
    let (breaks, c) := c.allBreaks Cursor.skipSpaces
    if c.atSeparator then ([], true, c) else (foldBreaks first breaks, true, c)

/-- Reads a plain scalar: words that no indicator cuts short, on lines that are indented. -/
def plainScalar (inFlow : Bool) (indent : Nat) : (fuel : Nat) → Cursor → PlainLexeme
  | 0, c => ⟨[], false, c⟩
  | fuel + 1, c =>
    let word := plainWord inFlow c.rest
    let (gap, endsLine, after) := plainGap (c.skip word.length)
    let here : PlainLexeme := ⟨word, endsLine, after⟩
    if word = [] then ⟨[], false, c⟩
    else if gap = [] ∨ after.rest.head? = some '#' ∨ (!inFlow ∧ after.column < indent) then here
    else
      let more := plainScalar inFlow indent fuel after
      if more.text = [] then here else { more with text := word ++ gap ++ more.text }

/-- The escapes of one letter. -/
def escapeLetters : List (Char × Char) := [
  ('0', '\x00'), ('a', '\x07'), ('b', '\x08'), ('t', '\t'), ('\t', '\t'), ('n', '\n'),
  ('v', '\x0b'), ('f', '\x0c'), ('r', '\x0d'), ('e', '\x1b'), (' ', ' '), ('\x22', '\x22'),
  ('\\', '\\'), ('/', '/'), ('N', '\u0085'), ('_', '\u00a0'), ('L', '\u2028'), ('P', '\u2029')]

/-- The escapes of hexadecimal digits, with the number of them. -/
def escapeLengths : List (Char × Nat) := [('x', 2), ('u', 4), ('U', 8)]

/-- The character of some hexadecimal digits; half of a surrogate pair is none. -/
def hexChar? (digits : List Char) : Option Char := do
  let values ← digits.mapM Json.hexValue?
  let code := values.foldl (fun n v => 16 * n + v) 0
  guard (code < 0x110000 ∧ !Json.isSurrogate code)
  some (Char.ofNat code)

/-- What an escape behind its backslash stands for, and the place behind it. -/
def escape? (c : Cursor) : Option (List Char × Cursor) :=
  match c.rest with
  | [] => none
  | ch :: rest =>
    match escapeLetters.lookup ch, escapeLengths.lookup ch with
    | some escaped, _ => some ([escaped], c.next)
    | none, some count => do
      guard (count ≤ rest.length)
      let escaped ← hexChar? (rest.take count)
      some ([escaped], c.skip (count + 1))
    | none, none => do
      let (_, c) ← c.takeBreak?
      let (breaks, c) := c.allBreaks Cursor.skipBlanks
      guard (!c.atSeparator)
      some (breaks, c)

/-- What blanks inside quotes stand for, and the place behind them. -/
def quotedGap? (c : Cursor) : Option (List Char × Cursor) :=
  let blanks := c.rest.takeWhile fun ch => ch = ' ' || ch = '\t'
  let c := c.skipBlanks
  match c.takeBreak? with
  | none => some (blanks, c)
  | some (first, c) => do
    let (breaks, c) := c.allBreaks Cursor.skipBlanks
    guard (!c.atSeparator)
    some (foldBreaks first breaks, c)

/-- Reads a scalar between quotes, behind the opening one. -/
def quotedScalar? (quote : Char) : (fuel : Nat) → Cursor → Option (List Char × Cursor)
  | 0, _ => none
  | fuel + 1, c =>
    let andThen (found : List Char × Cursor) : Option (List Char × Cursor) :=
      (quotedScalar? quote fuel found.2).map fun (text, after) => (found.1 ++ text, after)
    match c.rest with
    | [] => none
    | ch :: rest =>
      if ch = quote then
        if quote = '\x27' ∧ rest.head? = some quote then andThen ([quote], c.skip 2)
        else some ([], c.next)
      else if ch = '\\' ∧ quote = '\x22' then (escape? c.next).bind andThen
      else if isGap ch then (quotedGap? c).bind andThen
      else andThen ([ch], c.next)

/-- What happens to the line breaks at the end of a block scalar. -/
inductive Chomping where
  | strip | clip | keep
deriving DecidableEq, Repr

/-- Reads a chomping indicator. -/
def chomping? (cs : List Char) : Option (Chomping × List Char) :=
  match cs with
  | '-' :: rest => some (.strip, rest)
  | '+' :: rest => some (.keep, rest)
  | _ => none

/-- Reads a digit that says how far a block scalar is indented. -/
def increment? (cs : List Char) : Option (Nat × List Char) :=
  match cs with
  | c :: rest => if Text.isDigit c then some (Text.digitValue c, rest) else none
  | [] => none

/-- The header of a block scalar: chomping and indentation in either order. -/
def blockHeader? (cs : List Char) : Option (Chomping × Option Nat × List Char) := do
  let (chomping, increment, rest) :=
    match chomping? cs, increment? cs with
    | some (chomping, rest), _ =>
      match increment? rest with
      | some (n, rest) => (chomping, some n, rest)
      | none => (chomping, none, rest)
    | none, some (n, rest) =>
      match chomping? rest with
      | some (chomping, rest) => (chomping, some n, rest)
      | none => (.clip, some n, rest)
    | none, none => (.clip, none, cs)
  guard (increment ≠ some 0)
  guard (rest.head?.all fun c => c = ' ' || endsLine c)
  some (chomping, increment, rest)

/-- The place behind the rest of a line that holds nothing but a comment. -/
def skipComment? (c : Cursor) : Option Cursor := do
  let c := c.skipSpaces
  let c := if c.rest.head? = some '#' then c.skipWhile (!endsLine ·) else c
  guard (c.rest.head?.all endsLine)
  some ((c.takeBreak?.map (·.2)).getD c)

/-- The breaks before a block scalar, and the deepest indentation among them and its first line. -/
def blockIndent : (fuel : Nat) → Cursor → List Char × Nat × Cursor
  | 0, c => ([], 0, c)
  | fuel + 1, c =>
    let c := c.skipSpaces
    match c.takeBreak? with
    | some (ch, after) =>
      let (breaks, deepest, last) := blockIndent fuel after
      (ch :: breaks, max c.column deepest, last)
    | none => ([], c.column, c)

/-- Reads the lines of a block scalar that start at its indentation. The breaks are those before
the line; the breaks behind the last line are returned apart. -/
def blockLines (folded : Bool) (indent : Nat) :
    (fuel : Nat) → (breaks : List Char) → Cursor → List Char × List Char × List Char × Cursor
  | 0, breaks, c => ([], [], breaks, c)
  | fuel + 1, breaks, c =>
    if c.column ≠ indent ∨ c.rest = [] then ([], [], breaks, c)
    else
      let blank (c : Cursor) := c.rest.head?.any fun ch => ch = ' ' || ch = '\t'
      let line := c.rest.takeWhile (!endsLine ·)
      let behind := c.skip line.length
      let (lineBreak, behind) :=
        match behind.takeBreak? with
        | some (ch, after) => ([ch], after)
        | none => ([], behind)
      let (next, after) := behind.allBreaks (Cursor.skipIndent indent)
      if after.column = indent ∧ after.rest ≠ [] then
        let joint :=
          if folded ∧ lineBreak = ['\n'] ∧ !blank c ∧ !blank after then
            if next = [] then [' '] else []
          else lineBreak
        let (text, lastBreak, rest, last) := blockLines folded indent fuel next after
        (breaks ++ line ++ joint ++ text, lastBreak, rest, last)
      else (breaks ++ line, lineBreak, next, after)

/-- Reads a block scalar behind its indicator; it is indented further than the block around it. -/
def blockScalar? (folded : Bool) (outer : Nat) (c : Cursor) : Option (List Char × Cursor) := do
  let (chomping, increment, rest) ← blockHeader? c.rest
  let c ← skipComment? (c.skip (c.rest.length - rest.length))
  let least := max outer 1
  let fuel := c.rest.length + 1
  let (indent, breaks, c) :=
    match increment with
    | some n =>
      let indent := least + n - 1
      let (breaks, c) := c.allBreaks (Cursor.skipIndent indent)
      (indent, breaks, c)
    | none =>
      let (breaks, deepest, c) := blockIndent fuel c
      (max least deepest, breaks, c)
  let (text, lastBreak, breaks, c) := blockLines folded indent fuel breaks c
  let ending :=
    match chomping with
    | .strip => []
    | .clip => lastBreak
    | .keep => lastBreak ++ breaks
  some (text ++ ending, c)

/-- The characters of anchors. -/
def isAnchorChar (c : Char) : Bool :=
  ('a' ≤ c && c ≤ 'z') || ('A' ≤ c && c ≤ 'Z') || Text.isDigit c || c = '-' || c = '_'

/-- The name of an anchor or an alias behind its indicator. -/
def anchorName? (c : Cursor) : Option (String × Cursor) := do
  let name := c.rest.takeWhile isAnchorChar
  let after := c.skip name.length
  guard (name ≠ [])
  guard (after.rest.head?.all fun ch =>
    isGap ch || ch ∈ ['?', ':', ',', ']', '\x7d', '%', '@', '\x60'])
  some (String.ofList name, after)

/-- Reads a tag behind its exclamation mark. -/
def tag? (c : Cursor) : Option (Tag × Cursor) := do
  let text := c.rest.takeWhile (!isGap ·)
  let after := c.skip text.length
  guard (after.rest.head? ≠ some '\t')
  let tag ← Tag.ofText? (String.ofList text)
  some (tag, after)

/-- Whether a line is a directive that says nothing new: a version 1 of YAML, or one that is not
known and ignored. Handles for tags are not provided for. -/
def isDirective (line : List Char) : Bool :=
  match Text.words ' ' line with
  | name :: rest =>
    if String.ofList name = "%YAML" then
      match rest with
      | ('1' :: '.' :: minor) :: [] => minor ≠ [] && minor.all Text.isDigit
      | ('1' :: '.' :: minor) :: ('#' :: _) :: _ => minor ≠ [] && minor.all Text.isDigit
      | _ => false
    else
      String.ofList name ≠ "%TAG" && 1 < name.length && (name.drop 1).all isAnchorChar
  | [] => false

end Chartwright.Yaml
