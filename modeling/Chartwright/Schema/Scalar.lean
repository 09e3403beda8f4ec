import Chartwright.Schema.Issue
import Chartwright.Text.Blank

/-!
# Reading scalars

How lenient the reading of texts, integers, flags, durations and moments is: numbers may come as
texts, flags as words, and times as numbers. Texts consist of characters. An integer of a document may
have any number of digits; only one that comes as a text may be too long.
-/

namespace Chartwright.Schema

/-- A pattern that a text has to match as a whole. -/
structure Pattern where
  source : String
  accepts : List Char → Bool

/-- What is asked of a text. -/
structure TextRule where
  least : Nat
  most : Option Nat
  pattern : Option Pattern

/-- Any text. -/
def TextRule.any : TextRule := ⟨0, none, none⟩

/-- Any text that is not empty. -/
def TextRule.nonEmpty : TextRule := ⟨1, none, none⟩

/-- The first thing that is wrong with a text: its length comes before the pattern. -/
def TextRule.check (rule : TextRule) (s : String) : Except Cause String :=
  if s.length < rule.least then .error (.tooShort rule.least)
  else
    match rule.most with
    | some most => if most < s.length then .error (.tooLong most) else matching
    | none => matching
where
  /-- Tests the pattern. -/
  matching : Except Cause String :=
    match rule.pattern with
    | some p => if p.accepts s.toList then .ok s else .error (.pattern p.source)
    | none => .ok s

/-- Reads a text. -/
def readText (rule : TextRule) : Document → Except Cause String
  | .text s => rule.check s
  | _ => .error .notText

/-- White space around a number; the information separators are none. -/
def isNumberBlank (c : Char) : Bool := Text.isBlank c && !(0x1c ≤ c.toNat && c.toNat ≤ 0x1f)

/-- The digits of a number in which single underscores may stand between digits. -/
def separatedDigits? : List Char → Option (List Char)
  | [] => none
  | [c] => if Text.isDigit c then some [c] else none
  | c :: '_' :: rest => if Text.isDigit c then (separatedDigits? rest).map (c :: ·) else none
  | c :: rest => if Text.isDigit c then (separatedDigits? rest).map (c :: ·) else none

/-- Whether a text is nothing or a point and at least one zero. -/
def isZeroFraction : List Char → Bool
  | [] => true
  | '.' :: zeros => zeros ≠ [] && zeros.all (· = '0')
  | _ => false

/-- The greatest number of characters of an integer that comes as a text. -/
def integerTextLimit : Nat := 4300

/-- Reads an integer from a text: a sign, digits, and zeros behind a point. -/
def integerOfText (s : String) : Except Cause Int :=
  let cs := Text.trimWhile isNumberBlank s.toList
  let (negative, unsigned) :=
    match cs with
    | '-' :: rest => (true, rest)
    | '+' :: rest => (false, rest)
    | _ => (false, cs)
  let (whole, fraction) := unsigned.span (· ≠ '.')
  match separatedDigits? whole, isZeroFraction fraction with
  | some digits, true =>
    if integerTextLimit < cs.length then .error .oversizedInteger
    else
      let n : Int := Text.natOfDigits digits
      .ok (if negative then -n else n)
  | _, _ => .error .unreadableInteger

/-- Whether an integer has 64 bits, the least of them excepted. -/
def fits64 (n : Int) : Bool := -(twoPow 63 : Int) < n && n < twoPow 63

/-- Reads an integer from a double without fraction. -/
def integerOfFloat (x : Binary64) : Except Cause Int :=
  match x with
  | .finite .. =>
    match x.toInt? with
    | some n => if fits64 n then .ok n else .error .oversizedInteger
    | none => .error .fractionalInteger
  | _ => .error .infiniteInteger

/-- The first limit that an integer does not keep. -/
def checkBounds (bounds : List Bound) (n : Int) : Except Cause Int :=
  match bounds.find? (fun b => !b.holds n) with
  | some b => .error (.bound b)
  | none => .ok n

/-- Reads an integer. -/
def readInteger (bounds : List Bound) (d : Document) : Except Cause Int := do
  let n ←
    match d with
    | .int n => .ok n
    | .bool b => .ok (if b then 1 else 0)
    | .float x => integerOfFloat x
    | .text s => integerOfText s
    | _ => .error .notInteger
  checkBounds bounds n

/-- The words for true and for false, in any case. -/
def flagOfText (s : String) : Except Cause Bool :=
  let word := s.map Char.toLower
  if word ∈ ["true", "t", "yes", "y", "on", "1"] then .ok true
  else if word ∈ ["false", "f", "no", "n", "off", "0"] then .ok false
  else .error .unreadableFlag

/-- One is true and zero is false. -/
def flagOfInt (n : Int) : Except Cause Bool :=
  if n = 1 then .ok true else if n = 0 then .ok false
  else if -(twoPow 63 : Int) ≤ n ∧ n < twoPow 63 then .error .unreadableFlag else .error .notFlag

/-- Reads a flag. -/
def readFlag : Document → Except Cause Bool
  | .bool b => .ok b
  | .text s => flagOfText s
  | .int n => flagOfInt n
  | .float x =>
    match integerOfFloat x with
    | .ok n => flagOfInt n
    | .error _ => .error .notFlag
  | _ => .error .notFlag

/-- Reads a duration: a text, or a number of seconds. -/
def readDuration : Document → Except Cause Duration
  | .text s => (Duration.read? s).elim (.error .unreadableDuration) .ok
  | .int n => (Duration.ofSeconds? n).elim (.error .unreadableDuration) .ok
  | .bool b => .ok (.ofSeconds (if b then 1 else 0))
  | .float x => (Duration.ofBinary64? x).elim (.error .unreadableDuration) .ok
  | _ => .error .notDuration

/-- Reads a moment: a moment or a date, a text of one, or a number of seconds after 1970. -/
def readMoment : Document → Except Cause Moment
  | .scalar (.moment m) => .ok m
  | .scalar (.date d) => .ok (.ofDate d)
  | .text s => (Moment.read? s).elim (.error .unreadableMoment) .ok
  | .int n => (Moment.ofTimestamp? n 0).elim (.error .momentOutOfRange) .ok
  | .float x => (Moment.ofBinary64? x).elim (.error .momentOutOfRange) .ok
  | _ => .error .notMoment

end Chartwright.Schema
