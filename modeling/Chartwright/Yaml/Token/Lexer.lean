import Chartwright.Yaml.Token.Lexeme

/-!
# From text to tokens

A text becomes tokens. What stands before a colon turns out to be a key only there, so the lexer
remembers where the key would start, for the block it is in and for every open bracket.
-/

namespace Chartwright.Yaml

/-- Something that a colon would make a key. -/
structure KeyCandidate where
  /-- The number of tokens before it. -/
  position : Nat
  /-- Whether it stands where a block has its keys, so that it has to be one. -/
  required : Bool
  index : Nat
  line : Nat
  column : Nat
deriving Repr

/-- The state of the lexer. -/
structure Lexer where
  cursor : Cursor
  /-- The tokens so far, the last one first. -/
  tokens : List Token
  count : Nat
  /-- The columns of the open blocks, the innermost first. -/
  blocks : List Nat
  /-- Whether a key may start here. -/
  keyAllowed : Bool
  candidate : Option KeyCandidate
  /-- The candidates outside of the open brackets, the innermost first. -/
  outer : List (Option KeyCandidate)
deriving Repr

namespace Lexer

/-- The greatest distance between the start of a key and its colon. -/
def keyLimit : Nat := 1024

/-- The lexer at the start of a text. -/
def start (cs : List Char) : Lexer := ⟨.start cs, [], 0, [], true, none, []⟩

/-- Whether the place is between brackets. -/
def inFlow (s : Lexer) : Bool := s.outer ≠ []

/-- The least column that is indented further than the innermost block. -/
def indent (s : Lexer) : Nat := s.blocks.head?.elim 0 (· + 1)

/-- Adds a token. -/
def push (s : Lexer) (t : Token) : Lexer :=
  { s with tokens := t :: s.tokens, count := s.count + 1 }

/-- Adds a token before those from a position on. -/
def insert (s : Lexer) (position : Nat) (t : Token) : Lexer :=
  let later := s.count - position
  { s with
    tokens := s.tokens.take later ++ t :: s.tokens.drop later
    count := s.count + 1 }

/-- Moves on by so many characters. -/
def skip (s : Lexer) (n : Nat) : Lexer := { s with cursor := s.cursor.skip n }

/-- Says whether a key may come next. -/
def allowKey (s : Lexer) (allowed : Bool) : Lexer := { s with keyAllowed := allowed }

/-- Gives up the candidate, unless it has to be a key. -/
def forget? (s : Lexer) : Option Lexer :=
  if s.candidate.any (·.required) then none else some { s with candidate := none }

/-- Remembers this place as the start of a key, where one may start. -/
def remember? (s : Lexer) : Option Lexer :=
  if s.keyAllowed then do
    let s ← s.forget?
    let required := !s.inFlow && s.blocks.head? = some s.cursor.column
    some { s with
      candidate := some ⟨s.count, required, s.cursor.index, s.cursor.line, s.cursor.column⟩ }
  else some s

/-- Whether a candidate can no longer become a key. -/
def isStale (s : Lexer) (k : KeyCandidate) : Bool :=
  k.line ≠ s.cursor.line || keyLimit < s.cursor.index - k.index

/-- Gives up the candidates that can no longer become keys. -/
def dropStale? (s : Lexer) : Option Lexer :=
  if (s.candidate :: s.outer).any (·.any fun k => s.isStale k && k.required) then none
  else
    let fresh (k : Option KeyCandidate) := k.filter (!s.isStale ·)
    some { s with candidate := fresh s.candidate, outer := s.outer.map fresh }

/-- Moves on over spaces, comments and line breaks; behind a line break a block may have a key. -/
def skipIgnored : (fuel : Nat) → Lexer → Lexer
  | 0, s => s
  | fuel + 1, s =>
    let c := s.cursor.skipSpaces
    let c := if c.rest.head? = some '#' then c.skipWhile (!endsLine ·) else c
    match c.takeBreak? with
    | some (_, after) =>
      skipIgnored fuel { s with cursor := after, keyAllowed := s.keyAllowed || !s.inFlow }
    | none => { s with cursor := c }

/-- Closes some of the innermost blocks. -/
def closeBlocks : (n : Nat) → Lexer → Lexer
  | 0, s => s
  | n + 1, s => closeBlocks n { s.push .blockEnd with blocks := s.blocks.tail }

/-- Closes the blocks that are indented further than this place. -/
def closeDeeper (s : Lexer) : Lexer :=
  if s.inFlow then s
  else s.closeBlocks (s.blocks.takeWhile (s.cursor.column < ·)).length

/-- Moves on to the next token. -/
def approach? (s : Lexer) : Option Lexer := do
  let s := if s.cursor.index = 0 ∧ s.cursor.rest.head? = some '\ufeff' then s.skip 1 else s
  let s ← (s.skipIgnored (s.cursor.rest.length + 1)).dropStale?
  some s.closeDeeper

/-- Opens a block at a column, if it is indented further than the innermost one; its token comes
before those from a position on. -/
def openBlock (s : Lexer) (column position : Nat) (t : Token) : Lexer :=
  if s.indent ≤ column then { s.insert position t with blocks := column :: s.blocks } else s

/-- The start of a flow collection. -/
def openFlow? (s : Lexer) (t : Token) : Option Lexer := do
  let s ← s.remember?
  some ((({ s with candidate := none, outer := s.candidate :: s.outer }.allowKey true).skip 1).push t)

/-- The end of a flow collection. -/
def closeFlow? (s : Lexer) (t : Token) : Option Lexer := do
  let s ← s.forget?
  match s.outer with
  | candidate :: outer =>
    some (({ s with candidate, outer }.allowKey false).skip 1 |>.push t)
  | [] => none

/-- The comma between the entries of a flow collection. -/
def comma? (s : Lexer) : Option Lexer := do
  some (((← s.forget?).allowKey true).skip 1 |>.push .comma)

/-- The dash before an item. -/
def item? (s : Lexer) : Option Lexer := do
  guard (s.inFlow || s.keyAllowed)
  let s := if s.inFlow then s else s.openBlock s.cursor.column s.count .sequenceStart
  some (((← s.forget?).allowKey true).skip 1 |>.push .item)

/-- The question mark before a key. -/
def key? (s : Lexer) : Option Lexer := do
  guard (s.inFlow || s.keyAllowed)
  let s := if s.inFlow then s else s.openBlock s.cursor.column s.count .mappingStart
  some (((← s.forget?).allowKey (!s.inFlow)).skip 1 |>.push .key)

/-- The colon before a value: it makes the candidate a key, if there is one. -/
def value? (s : Lexer) : Option Lexer :=
  match s.candidate with
  | some k =>
    let s := { s with candidate := none }.insert k.position .key
    let s := if s.inFlow then s else s.openBlock k.column k.position .mappingStart
    some ((s.allowKey false).skip 1 |>.push .value)
  | none => do
    guard (s.inFlow || s.keyAllowed)
    let s := if s.inFlow then s else s.openBlock s.cursor.column s.count .mappingStart
    some ((s.allowKey (!s.inFlow)).skip 1 |>.push .value)

/-- A line that starts or ends a document, or a directive: it closes all blocks. -/
def line? (s : Lexer) (length : Nat) (t : Token) : Option Lexer := do
  let s ← (s.closeBlocks s.blocks.length).forget?
  some ((s.allowKey false).skip length |>.push t)

/-- A token that may be, or start, a key. -/
def lexeme? (s : Lexer) (read : Cursor → Option (Token × Cursor)) : Option Lexer := do
  let s ← s.remember?
  let (t, cursor) ← read s.cursor
  some (({ s with cursor }.allowKey false).push t)

/-- A scalar between quotes. -/
def quoted? (s : Lexer) (quote : Char) : Option Lexer :=
  s.lexeme? fun c =>
    (quotedScalar? quote (c.rest.length + 1) c.next).map fun (text, after) =>
      (.scalar (String.ofList text) false, after)

/-- A block scalar. -/
def block? (s : Lexer) (folded : Bool) : Option Lexer := do
  let s ← s.forget?
  let (text, cursor) ← blockScalar? folded s.indent s.cursor.next
  some (({ s with cursor }.allowKey true).push (.scalar (String.ofList text) false))

/-- A plain scalar; if a line ends behind it, a key may come next. -/
def plain? (s : Lexer) : Option Lexer := do
  let s ← s.remember?
  let lexeme := plainScalar s.inFlow s.indent (s.cursor.rest.length + 1) s.cursor
  some (({ s with cursor := lexeme.after }.allowKey lexeme.endsLine).push
    (.scalar (String.ofList lexeme.text) true))

/-- The indicators that start no plain scalar, whatever follows. -/
def indicators : List Char := flowIndicators ++
  ['-', '?', ':', '#', '&', '*', '!', '|', '>', '\x27', '\x22', '%', '@', '\x60']

/-- Whether a plain scalar starts here. -/
def startsPlain (s : Lexer) (ch : Char) : Bool :=
  !(isGap ch || ch ∈ indicators) ||
    (!s.cursor.gapAt 1 && (ch = '-' || (!s.inFlow && (ch = '?' || ch = ':'))))

/-- Reads the token that starts with a character here. -/
def token? (s : Lexer) (ch : Char) : Option Lexer :=
  let c := s.cursor
  if c.column = 0 ∧ ch = '%' then
    let line := c.rest.takeWhile (!endsLine ·)
    if isDirective line then s.line? line.length .directive else none
  else if c.atSeparator then s.line? 3 (if ch = '-' then .documentStart else .documentEnd)
  else match ch with
    | '[' => s.openFlow? .flowSequenceStart
    | '\x7b' => s.openFlow? .flowMappingStart
    | ']' => s.closeFlow? .flowSequenceEnd
    | '\x7d' => s.closeFlow? .flowMappingEnd
    | ',' => s.comma?
    | '*' => s.lexeme? fun c => (anchorName? c.next).map fun (n, after) => (.alias n, after)
    | '&' => s.lexeme? fun c => (anchorName? c.next).map fun (n, after) => (.anchor n, after)
    | '!' => s.lexeme? fun c => (tag? c.next).map fun (t, after) => (.tag t, after)
    | '\x27' | '\x22' => s.quoted? ch
    | _ =>
      if ch = '-' ∧ c.gapAt 1 then s.item?
      else if ch = '?' ∧ (s.inFlow ∨ c.gapAt 1) then s.key?
      else if ch = ':' ∧ (s.inFlow ∨ c.gapAt 1) then s.value?
      else if ch = '|' ∧ !s.inFlow then s.block? false
      else if ch = '>' ∧ !s.inFlow then s.block? true
      else if s.startsPlain ch then s.plain?
      else none

/-- Reads the tokens from here to the end of the text. -/
def run : (fuel : Nat) → Lexer → Option (List Token)
  | 0, _ => none
  | fuel + 1, s => do
    let s ← s.approach?
    match s.cursor.rest with
    | [] =>
      let s ← (s.closeBlocks s.blocks.length).forget?
      some s.tokens.reverse
    | ch :: _ => run fuel (← s.token? ch)

end Lexer

/-- Whether a character may occur in a text. -/
def isReadable (c : Char) : Bool :=
  let n := c.toNat
  c = '\t' || c = '\n' || c = '\x0d' || (0x20 ≤ n && n ≤ 0x7e) || n = 0x85 ||
    (0xa0 ≤ n && n ≤ 0xd7ff) || (0xe000 ≤ n && n ≤ 0xfffd) || 0x10000 ≤ n

/-- The tokens of a text. -/
def Token.scan? (text : String) : Option (List Token) :=
  let cs := text.toList
  if cs.all isReadable then Lexer.run (cs.length + 1) (.start cs) else none

end Chartwright.Yaml
