import Chartwright.Yaml.Style

/-!
# Cursors

A place in a text that is being read, with its line and its column, and the steps that all scalars
share: over characters, over line breaks, over the blanks at the start of a line.
-/

namespace Chartwright.Yaml

/-- Whether a character ends a line of a text that is read. -/
def endsLine (c : Char) : Bool := c = '\x0d' || isBreak c

/-- What is left of a text, and where that starts. -/
structure Cursor where
  rest : List Char
  index : Nat
  line : Nat
  column : Nat
deriving Repr

namespace Cursor

/-- The start of a text. -/
def start (cs : List Char) : Cursor := ⟨cs, 0, 0, 0⟩

/-- The place behind one character. A byte-order mark takes no column. -/
def next (c : Cursor) : Cursor :=
  match c.rest with
  | [] => c
  | ch :: rest =>
    if isBreak ch || (ch = '\x0d' && rest.head? ≠ some '\n') then ⟨rest, c.index + 1, c.line + 1, 0⟩
    else ⟨rest, c.index + 1, c.line, if ch = '\ufeff' then c.column else c.column + 1⟩

/-- The place behind so many characters. -/
def skip : Nat → Cursor → Cursor
  | 0, c => c
  | n + 1, c => skip n c.next

/-- The place behind the leading characters of a class. -/
def skipWhile (p : Char → Bool) (c : Cursor) : Cursor := c.skip (c.rest.takeWhile p).length

/-- The place behind the leading spaces. -/
def skipSpaces (c : Cursor) : Cursor := c.skipWhile (· = ' ')

/-- The place behind the leading spaces and tabs. -/
def skipBlanks (c : Cursor) : Cursor := c.skipWhile fun ch => ch = ' ' || ch = '\t'

/-- The place behind the leading spaces that lie before a column. -/
def skipIndent (column : Nat) (c : Cursor) : Cursor :=
  c.skip (min (c.rest.takeWhile (· = ' ')).length (column - c.column))

/-- Whether the text is at its end, or has a gap, so many characters further on. -/
def gapAt (c : Cursor) (n : Nat) : Bool := (c.rest[n]?).all isGap

/-- Whether a line starts here that separates documents. -/
def atSeparator (c : Cursor) : Bool :=
  c.column = 0 && ("---".toList.isPrefixOf c.rest || "...".toList.isPrefixOf c.rest) && c.gapAt 3

/-- The character that a line break here stands for, and the place behind it. -/
def takeBreak? (c : Cursor) : Option (Char × Cursor) :=
  match c.rest with
  | '\x0d' :: '\n' :: _ => some ('\n', c.skip 2)
  | ch :: _ =>
    if ch = '\u2028' ∨ ch = '\u2029' then some (ch, c.next)
    else if endsLine ch then some ('\n', c.next)
    else none
  | [] => none

/-- The line breaks from here on, with the blanks that may stand before each; they end at a line
that separates documents. -/
def takeBreaks (skipBlanks : Cursor → Cursor) : (fuel : Nat) → Cursor → List Char × Cursor
  | 0, c => ([], c)
  | fuel + 1, c =>
    if c.atSeparator then ([], c)
    else
      match (skipBlanks c).takeBreak? with
      | some (ch, after) =>
        let (breaks, last) := takeBreaks skipBlanks fuel after
        (ch :: breaks, last)
      | none => ([], skipBlanks c)

/-- All line breaks from here on. -/
def allBreaks (c : Cursor) (skipBlanks : Cursor → Cursor) : List Char × Cursor :=
  takeBreaks skipBlanks (c.rest.length + 1) c

end Cursor

/-- What a line break in flowing text stands for, given the breaks right behind it: a space if
there are none, else those alone. -/
def foldBreaks (first : Char) (breaks : List Char) : List Char :=
  (if first ≠ '\n' then [first] else if breaks = [] then [' '] else []) ++ breaks

end Chartwright.Yaml
