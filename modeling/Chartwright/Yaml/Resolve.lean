import Chartwright.Text.Digits

/-!
# Types of plain scalars

Which type a scalar without quotes has in YAML 1.1. A text that would be read as another type has
to be quoted.
-/

namespace Chartwright.Yaml

/-- What a plain scalar is read as. -/
inductive PlainType where
  | null | bool | int | float | timestamp | merge | value | text
deriving DecidableEq, Repr

/-- The words for the truth values. -/
def boolWords : List String := [
  "yes", "Yes", "YES", "no", "No", "NO", "true", "True", "TRUE", "false", "False", "FALSE",
  "on", "On", "ON", "off", "Off", "OFF"]

/-- The words for null; the empty text is one. -/
def nullWords : List String := ["", "~", "null", "Null", "NULL"]

/-- Drops a sign. -/
def dropSign : List Char → List Char
  | '+' :: rest | '-' :: rest => rest
  | cs => cs

/-- Digits and the underscores that may stand between them. -/
def isDigitOrUnderscore (c : Char) : Bool := Text.isDigit c || c = '_'

/-- Drops groups of a number to base sixty, each a colon and one or two digits below sixty. -/
def dropSixties : List Char → List Char
  | ':' :: a :: tail@(b :: rest) =>
    if '0' ≤ a ∧ a ≤ '5' ∧ Text.isDigit b then dropSixties rest
    else if Text.isDigit a then dropSixties tail
    else ':' :: a :: tail
  | [':', a] => if Text.isDigit a then [] else [':', a]
  | cs => cs

/-- Digits in base sixty: a head, and at least one group behind it. -/
def sixtiesRest? (cs : List Char) : Option (List Char) :=
  let rest := cs.dropWhile isDigitOrUnderscore
  match rest with
  | ':' :: _ =>
    let after := dropSixties rest
    if after.length < rest.length then some after else none
  | _ => none

/-- Integers: binary, octal, decimal, hexadecimal, or to base sixty. -/
def isInt (cs : List Char) : Bool :=
  match dropSign cs with
  | '0' :: 'b' :: rest => rest ≠ [] && rest.all (fun c => c = '0' || c = '1' || c = '_')
  | '0' :: 'x' :: rest =>
    rest ≠ [] && rest.all (fun c =>
      isDigitOrUnderscore c || ('a' ≤ c && c ≤ 'f') || ('A' ≤ c && c ≤ 'F'))
  | ['0'] => true
  | '0' :: rest => rest.all (fun c => ('0' ≤ c && c ≤ '7') || c = '_')
  | c :: rest =>
    Text.isDigit c && (rest.all isDigitOrUnderscore || sixtiesRest? rest = some [])
  | [] => false

/-- An exponent with its sign, or nothing. -/
def isExponent : List Char → Bool
  | [] => true
  | e :: sign :: digits =>
    (e = 'e' || e = 'E') && (sign = '+' || sign = '-') && digits ≠ [] && digits.all Text.isDigit
  | _ => false

/-- Floats: with a decimal point, to base sixty with a point, infinite, or no number. -/
def isFloat (cs : List Char) : Bool :=
  let unsigned := dropSign cs
  (match unsigned with
    | c :: rest =>
      Text.isDigit c &&
        ((match rest.dropWhile isDigitOrUnderscore with
          | '.' :: fraction => isExponent (fraction.dropWhile isDigitOrUnderscore)
          | _ => false) ||
        (match sixtiesRest? rest with
          | some ('.' :: fraction) => fraction.all isDigitOrUnderscore
          | _ => false))
    | [] => false) ||
  (match cs with
    | '.' :: c :: rest =>
      Text.isDigit c && isExponent (rest.dropWhile isDigitOrUnderscore)
    | _ => false) ||
  unsigned ∈ [".inf".toList, ".Inf".toList, ".INF".toList] ||
  cs ∈ [".nan".toList, ".NaN".toList, ".NAN".toList]

/-- The parts of a timestamp. -/
structure Stamp where
  year : Nat
  month : Nat
  day : Nat
  /-- Hour, minute, second and the digits of the fraction. -/
  time : Option (Nat × Nat × Nat × List Char)
  /-- The offset in minutes, if there is one. -/
  offset : Option Int
deriving Repr

/-- Reads one or two digits. -/
def oneOrTwo? (cs : List Char) : Option (Nat × List Char) :=
  (Text.takeDigits? 2 cs).or (Text.takeDigits? 1 cs)

/-- Reads the offset of a timestamp, with blanks before it. -/
def readZone? (cs : List Char) : Option (Option Int) :=
  match cs, cs.dropWhile (fun c => c = ' ' || c = '\t') with
  | [], _ => some none
  | _, ['Z'] => some (some 0)
  | _, sign :: rest => do
    guard (sign = '+' ∨ sign = '-')
    let (hours, rest) ← oneOrTwo? rest
    let minutes ←
      match rest with
      | [] => some 0
      | ':' :: rest => do
        let (minutes, rest) ← Text.takeDigits? 2 rest
        guard (rest = [])
        some minutes
      | _ => none
    let total : Int := hours * 60 + minutes
    some (some (if sign = '-' then -total else total))
  | _, [] => none

/-- Reads a timestamp: a date, or a date with a time. -/
def readStamp? (cs : List Char) : Option Stamp := do
  let (year, rest) ← Text.takeDigits? 4 cs
  let '-' :: rest := rest | none
  let (month, afterMonth) ← oneOrTwo? rest
  let '-' :: afterDash := afterMonth | none
  let (day, afterDay) ← oneOrTwo? afterDash
  match afterDay with
  | [] =>
    guard (cs.length = 10)
    some ⟨year, month, day, none, none⟩
  | c :: rest =>
    guard (c ∈ ['T', 't', ' ', '\t'])
    let rest := if c = 'T' ∨ c = 't' then rest else rest.dropWhile (fun c => c = ' ' || c = '\t')
    let (hour, rest) ← oneOrTwo? rest
    let ':' :: rest := rest | none
    let (minute, rest) ← Text.takeDigits? 2 rest
    let ':' :: rest := rest | none
    let (second, rest) ← Text.takeDigits? 2 rest
    let (fraction, rest) :=
      match rest with
      | '.' :: rest => Text.spanDigits rest
      | _ => ([], rest)
    let offset ← readZone? rest
    some ⟨year, month, day, some (hour, minute, second, fraction), offset⟩

/-- The type of a plain scalar. -/
def plainType (s : String) : PlainType :=
  let cs := s.toList
  if s ∈ boolWords then .bool
  else if isFloat cs then .float
  else if isInt cs then .int
  else if s = "<<" then .merge
  else if s ∈ nullWords then .null
  else if (readStamp? cs).isSome then .timestamp
  else if s = "=" then .value
  else .text

end Chartwright.Yaml
