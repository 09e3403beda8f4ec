import Chartwright.Document.Basic
import Chartwright.Text.Digits

/-!
# Reading JSON

JSON texts, with `NaN` and the infinities as numbers. An object keeps the order of its keys; of a
key that occurs more than once the last value counts. Texts hold characters alone, so an escape of
half a surrogate pair is refused. Numbers may have any number of digits, and values may be nested to
any depth.
-/

namespace Chartwright.Json

/-- The blanks between tokens. -/
def skipBlanks (cs : List Char) : List Char := cs.dropWhile (· ∈ [' ', '\t', '\n', '\r'])

/-- The value of a hexadecimal digit. -/
def hexValue? (c : Char) : Option Nat :=
  if '0' ≤ c ∧ c ≤ '9' then some (c.toNat - 48)
  else if 'a' ≤ c ∧ c ≤ 'f' then some (c.toNat - 87)
  else if 'A' ≤ c ∧ c ≤ 'F' then some (c.toNat - 55)
  else none

/-- The code unit that four hexadecimal digits denote. -/
def codeUnit? (a b c d : Char) : Option Nat := do
  let ha ← hexValue? a
  let hb ← hexValue? b
  let hc ← hexValue? c
  let hd ← hexValue? d
  some (((ha * 16 + hb) * 16 + hc) * 16 + hd)

/-- The character of an escape with one letter. -/
def shortEscape? : Char → Option Char
  | '\x22' => some '\x22'
  | '\\' => some '\\'
  | '/' => some '/'
  | 'b' => some '\x08'
  | 'f' => some '\x0c'
  | 'n' => some '\n'
  | 'r' => some '\r'
  | 't' => some '\t'
  | _ => none

/-- Whether a code unit is half of a surrogate pair. -/
def isSurrogate (n : Nat) : Bool := 0xd800 ≤ n && n < 0xe000

/-- Joins a high and a low surrogate that follow each other; there is no character for one that
stands alone. -/
def joinSurrogates? : List Nat → Option (List Char)
  | [] => some []
  | [n] => if isSurrogate n then none else some [Char.ofNat n]
  | high :: low :: rest =>
    if 0xd800 ≤ high ∧ high < 0xdc00 ∧ 0xdc00 ≤ low ∧ low < 0xe000 then
      let code := 0x10000 + (high - 0xd800) * 0x400 + (low - 0xdc00)
      (joinSurrogates? rest).map (Char.ofNat code :: ·)
    else if isSurrogate high then none
    else (joinSurrogates? (low :: rest)).map (Char.ofNat high :: ·)

/-- The code units of a string up to its closing quote, and what follows. -/
def readUnits? : List Char → Option (List Nat × List Char)
  | '\x22' :: rest => some ([], rest)
  | '\\' :: 'u' :: a :: b :: c :: d :: rest => do
    let unit ← codeUnit? a b c d
    let (units, rest) ← readUnits? rest
    some (unit :: units, rest)
  | '\\' :: c :: rest => do
    let escaped ← shortEscape? c
    let (units, rest) ← readUnits? rest
    some (escaped.toNat :: units, rest)
  | c :: rest => do
    guard (0x20 ≤ c.toNat ∧ c ≠ '\\')
    let (units, rest) ← readUnits? rest
    some (c.toNat :: units, rest)
  | [] => none

/-- Reads a string behind its opening quote. -/
def readString? (cs : List Char) : Option (String × List Char) := do
  let (units, rest) ← readUnits? cs
  let text ← joinSurrogates? units
  some (String.ofList text, rest)

/-- The digits behind a decimal point, if there is at least one. -/
def readFraction (cs : List Char) : Option (List Char) × List Char :=
  match cs with
  | '.' :: rest =>
    match Text.spanDigits rest with
    | ([], _) => (none, cs)
    | (digits, rest) => (some digits, rest)
  | _ => (none, cs)

/-- The exponent of a number, if it has one. -/
def readExponent (cs : List Char) : Option Int × List Char :=
  match cs with
  | e :: rest =>
    if e = 'e' ∨ e = 'E' then
      let (negative, digits) :=
        match rest with
        | '-' :: rest => (true, rest)
        | '+' :: rest => (false, rest)
        | _ => (false, rest)
      match Text.spanDigits digits with
      | ([], _) => (none, cs)
      | (digits, rest) =>
        let n : Int := Text.natOfDigits digits
        (some (if negative then -n else n), rest)
    else (none, cs)
  | [] => (none, cs)

/-- Reads a number: an integer unless it has a fraction or an exponent. -/
def readNumber? (cs : List Char) : Option (Document × List Char) := do
  let (negative, body) :=
    match cs with
    | '-' :: rest => (true, rest)
    | _ => (false, cs)
  let (whole, rest) :=
    match body with
    | '0' :: rest => (['0'], rest)
    | _ => Text.spanDigits body
  guard (whole ≠ [])
  let (fraction, rest) := readFraction rest
  let (exponent, rest) := readExponent rest
  match fraction, exponent with
  | none, none =>
    let n : Int := Text.natOfDigits whole
    some (.int (if negative then -n else n), rest)
  | _, _ =>
    let digits := fraction.getD []
    let value := Text.natOfDigits (whole ++ digits)
    some (.float (.ofDecimal negative value (exponent.getD 0 - digits.length)), rest)

/-- The values that are written as words. -/
def words : List (String × Document) := [
  ("null", .null), ("true", .bool true), ("false", .bool false), ("NaN", .float .nan),
  ("Infinity", .float (.infinite false)), ("-Infinity", .float (.infinite true))]

/-- Removes a word from the front of a text. -/
def dropWord? (word : List Char) (cs : List Char) : Option (List Char) :=
  if word.isPrefixOf cs then some (cs.drop word.length) else none

/-- Reads one of the words. -/
def readWord? (cs : List Char) : Option (Document × List Char) :=
  words.findSome? fun (word, value) => (dropWord? word.toList cs).map (value, ·)

mutual

/-- Reads a value and returns what follows it. The fuel bounds the depth and length of the text. -/
def readValue? : (fuel : Nat) → List Char → Option (Document × List Char)
  | 0, _ => none
  | fuel + 1, cs =>
    match cs with
    | '\x22' :: rest => (readString? rest).map fun (s, rest) => (.text s, rest)
    | '[' :: rest =>
      match skipBlanks rest with
      | ']' :: rest => some (.list [], rest)
      | rest => (readItems? fuel rest).map fun (items, rest) => (.list items, rest)
    | '\x7b' :: rest =>
      match skipBlanks rest with
      | '\x7d' :: rest => some (.mapping [], rest)
      | rest => (readEntries? fuel rest).map fun (entries, rest) =>
        (.object (Dict.ofList entries), rest)
    | _ => (readWord? cs).or (readNumber? cs)

/-- Reads the items of a list up to its closing bracket. -/
def readItems? : (fuel : Nat) → List Char → Option (List Document × List Char)
  | 0, _ => none
  | fuel + 1, cs => do
    let (item, rest) ← readValue? fuel cs
    match skipBlanks rest with
    | ']' :: rest => some ([item], rest)
    | ',' :: rest =>
      let (items, rest) ← readItems? fuel (skipBlanks rest)
      some (item :: items, rest)
    | _ => none

/-- Reads the entries of an object up to its closing bracket. -/
def readEntries? : (fuel : Nat) → List Char → Option (List (String × Document) × List Char)
  | 0, _ => none
  | fuel + 1, cs => do
    let '\x22' :: rest := cs | none
    let (key, rest) ← readString? rest
    let ':' :: rest := skipBlanks rest | none
    let (value, rest) ← readValue? fuel (skipBlanks rest)
    match skipBlanks rest with
    | '\x7d' :: rest => some ([(key, value)], rest)
    | ',' :: rest =>
      let (entries, rest) ← readEntries? fuel (skipBlanks rest)
      some ((key, value) :: entries, rest)
    | _ => none

end

/-- Reads a whole text as one value. -/
def read? (text : String) : Option Document :=
  let cs := skipBlanks text.toList
  match readValue? (cs.length + 1) cs with
  | some (value, rest) => if skipBlanks rest = [] then some value else none
  | none => none

end Chartwright.Json
