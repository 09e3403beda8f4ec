import Chartwright.Number.Binary64

/-!
# Shortest decimals

The text of a double has the fewest digits that read back as it and, of the texts with so many,
is the nearest one. A layout says how the digits are set out.
-/

namespace Chartwright

/-- A decimal number `digits * 10 ^ exponent`. -/
structure Decimal where
  digits : Nat
  exponent : Int
deriving DecidableEq, Repr

namespace Decimal

/-- Moves the trailing zeros of the digits into the exponent. -/
def normalize (fuel : Nat) (d : Decimal) : Decimal :=
  match fuel with
  | 0 => d
  | fuel + 1 =>
    if d.digits ≠ 0 ∧ d.digits % 10 = 0 then normalize fuel ⟨d.digits / 10, d.exponent + 1⟩ else d

/-- The exponent of the greatest power of ten that is not above a positive quotient. -/
def floorLog10 (num den : Nat) : Int :=
  if den ≤ num then (Nat.toDigits 10 (num / den)).length - 1
  else
    let count := (Nat.toDigits 10 (den / num)).length
    if den = num * tenPow (count - 1) then -(count - 1 : Nat) else -count

/-- The reals that read as one double, as multiples of a common unit. -/
structure Interval where
  low : Nat
  value : Nat
  high : Nat
  closed : Bool

/-- Whether a multiple of the unit lies in the interval. -/
def Interval.contains (i : Interval) (n : Nat) : Bool :=
  if i.closed then i.low ≤ n && n ≤ i.high else i.low < n && n < i.high

/-- The neighbour of the value on a grid of the given step that lies in the interval; of two the
nearer, of two equally near the even one. -/
def Interval.onGrid? (i : Interval) (step : Nat) : Option Nat :=
  let below := i.value / step
  let above := below + 1
  match i.contains (below * step), i.contains (above * step) with
  | true, true =>
    let left := i.value - below * step
    let right := above * step - i.value
    some (if left < right then below else if right < left then above else below + below % 2)
  | true, false => some below
  | false, true => some above
  | false, false => none

/-- Tries the grids of `places`, `places + 1`, … digits; `top` is the exponent of the first
digit and `unit` the divisor and multiplier that bring the interval to the grid. -/
def search (m : Nat) (e top : Int) : (fuel places : Nat) → Decimal
  | 0, _ => ⟨0, 0⟩
  | fuel + 1, places =>
    let k := top + 1 - places
    let unit := (if 2 ≤ e then twoPow (e - 2).toNat else 1) * (if k < 0 then tenPow (-k).toNat else 1)
    let step := (if 0 ≤ k then tenPow k.toNat else 1) * (if e < 2 then twoPow (2 - e).toNat else 1)
    let gap := if m = twoPow 52 ∧ Binary64.leastExponent < e then 1 else 2
    let interval : Interval :=
      ⟨(4 * m - gap) * unit, 4 * m * unit, (4 * m + 2) * unit, m % 2 = 0⟩
    match interval.onGrid? step with
    | some digits => ⟨digits, k⟩
    | none => search m e top fuel (places + 1)

/-- The shortest decimal that reads as the positive double `m * 2 ^ e`. -/
def shortest (m : Nat) (e : Int) : Decimal :=
  let (num, den) := Binary64.magnitudeRatio m e
  normalize 20 (search m e (floorLog10 num den) 17 1)

end Decimal

/-- How the digits of a double are set out. -/
structure FloatLayout where
  /-- The text of infinity, which a sign may precede. -/
  infinity : String
  /-- The text of the number that is none. -/
  nan : String
  /-- Whether a single digit before an exponent is followed by a point and a zero. -/
  pointBeforeExponent : Bool

namespace FloatLayout

/-- Digits and decimal exponent in positional form when the first digit stands between the fourth
place behind the point and the sixteenth before it, else with an exponent of two digits or more. -/
def decimal (layout : FloatLayout) (d : Decimal) : String :=
  let digits := Nat.toDigits 10 d.digits
  let point : Int := digits.length + d.exponent
  if -4 < point ∧ point ≤ 16 then
    if point ≤ 0 then
      String.ofList ('0' :: '.' :: List.replicate (-point).toNat '0' ++ digits)
    else if 0 ≤ d.exponent then
      String.ofList (digits ++ List.replicate d.exponent.toNat '0' ++ ['.', '0'])
    else
      String.ofList (digits.take point.toNat ++ '.' :: digits.drop point.toNat)
  else
    let power := (point - 1).natAbs
    let sign := if point - 1 < 0 then '-' else '+'
    let rest := digits.drop 1
    let fraction :=
      if rest ≠ [] then '.' :: rest else if layout.pointBeforeExponent then ['.', '0'] else []
    let exponent := Nat.toDigits 10 power
    String.ofList (digits.take 1 ++ fraction ++ 'e' :: sign ::
      List.replicate (2 - exponent.length) '0' ++ exponent)

/-- The text of a double. -/
def render (layout : FloatLayout) : Binary64 → String
  | .nan => layout.nan
  | .infinite negative => (if negative then "-" else "") ++ layout.infinity
  | .finite negative m e =>
    (if negative then "-" else "") ++
      if m = 0 then "0.0" else layout.decimal (Decimal.shortest m e)

end FloatLayout

end Chartwright
