import Chartwright.Text.Digits

/-!
# Clock times

The minutes and seconds of a clock time, as durations and moments share them.
-/

namespace Chartwright.Clock

/-- Reads two digits below 60. -/
def readSixty? (cs : List Char) : Option (Nat × List Char) := do
  let (n, rest) ← Text.takeDigits? 2 cs
  guard (n < 60)
  some (n, rest)

/-- Microseconds of a fraction of a second; further digits are dropped. -/
def microsOfDigits (digits : List Char) : Nat :=
  let six := digits.take 6
  Text.natOfDigits six * tenPow (6 - six.length)

/-- Reads the seconds of a clock time, `:SS` with an optional fraction. -/
def readSeconds? (cs : List Char) : Option (Nat × Nat × List Char) :=
  match cs with
  | ':' :: rest => do
    let (s, rest) ← readSixty? rest
    match rest with
    | c :: fraction =>
      if c = '.' ∨ c = ',' then
        let (digits, rest) := Text.spanDigits fraction
        guard (digits ≠ [])
        some (s, microsOfDigits digits, rest)
      else some (s, 0, rest)
    | [] => some (s, 0, [])
  | _ => some (0, 0, cs)

end Chartwright.Clock
