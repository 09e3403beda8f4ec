import Chartwright.Number.Power

/-!
# Digits

Numbers written in decimal, with and without a fixed width, and the reading of digits.
-/

namespace Chartwright.Text

/-- The digits `0` to `9`. -/
def isDigit (c : Char) : Bool := '0' ≤ c && c ≤ '9'

/-- The value of a digit. -/
def digitValue (c : Char) : Nat := c.toNat - '0'.toNat

/-- The number that a run of digits denotes. -/
def natOfDigits (cs : List Char) : Nat := cs.foldl (fun n c => 10 * n + digitValue c) 0

/-- A number in decimal, filled up with zeros to a width. -/
def padded (width n : Nat) : String :=
  let digits := Nat.toDigits 10 n
  String.ofList (List.replicate (width - digits.length) '0' ++ digits)

/-- Reads exactly `width` digits. -/
def takeDigits? : (width : Nat) → List Char → Option (Nat × List Char)
  | 0, cs => some (0, cs)
  | width + 1, c :: cs => do
    guard (isDigit c)
    let (n, rest) ← takeDigits? width cs
    some (digitValue c * tenPow width + n, rest)
  | _ + 1, [] => none

/-- Drops the first character, if it is of a class. -/
def skip? (p : Char → Bool) : List Char → Option (List Char)
  | c :: cs => if p c then some cs else none
  | [] => none

/-- Splits a text after its leading digits. -/
def spanDigits (cs : List Char) : List Char × List Char := cs.span isDigit

end Chartwright.Text
