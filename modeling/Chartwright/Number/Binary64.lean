import Chartwright.Number.Power

/-!
# Double-precision numbers

Doubles as exact values, with the rounding of a quotient to the nearest of them. Everything is
integer arithmetic, so the value of an operation can be reasoned about.
-/

namespace Chartwright

/-- A double. A finite one is `mantissa * 2 ^ exponent`, with `mantissa < 2 ^ 53` and the least
exponent that allows it. -/
inductive Binary64 where
  | finite (negative : Bool) (mantissa : Nat) (exponent : Int)
  | infinite (negative : Bool)
  | nan
deriving DecidableEq, Repr, Inhabited

namespace Binary64

/-- The exponent of the smallest positive double. -/
def leastExponent : Int := -1074

/-- The exponent of the largest finite doubles. -/
def greatestExponent : Int := 971

/-- A quotient rounded to the nearest integer, a half to the even one. -/
def roundDiv (num den : Nat) : Nat :=
  let q := num / den
  let twice := 2 * (num % den)
  if twice < den then q else if den < twice then q + 1 else q + q % 2

/-- A quotient divided by `2 ^ e`, as a numerator and a denominator. -/
def scaleDown (num den : Nat) (e : Int) : Nat × Nat :=
  if 0 ≤ e then (num, den * twoPow e.toNat) else (num * twoPow (-e).toNat, den)

/-- The exponent of the greatest power of two that is not above a positive quotient. -/
def floorLog2 (num den : Nat) : Int :=
  let guess : Int := num.log2 - den.log2
  let (n, d) := scaleDown num den guess
  if n < d then guess - 1 else guess

/-- The double nearest to `num / den`, a tie going to the even mantissa. -/
def ofRatio (negative : Bool) (num den : Nat) : Binary64 :=
  if num = 0 then .finite negative 0 leastExponent
  else
    let e := max leastExponent (floorLog2 num den - 52)
    let (n, d) := scaleDown num den e
    let m := roundDiv n d
    let (m, e) := if m = twoPow 53 then (twoPow 52, e + 1) else (m, e)
    if greatestExponent < e then .infinite negative else .finite negative m e

/-- The double nearest to an integer. -/
def ofInt (n : Int) : Binary64 := ofRatio (n < 0) n.natAbs 1

/-- The double nearest to `digits * 10 ^ exponent`. -/
def ofDecimal (negative : Bool) (digits : Nat) (exponent : Int) : Binary64 :=
  let size : Int := (Nat.toDigits 10 digits).length + exponent
  if digits = 0 ∨ size < -400 then .finite negative 0 leastExponent
  else if 400 < size then .infinite negative
  else if 0 ≤ exponent then ofRatio negative (digits * tenPow exponent.toNat) 1
  else ofRatio negative digits (tenPow (-exponent).toNat)

/-- A finite magnitude `m * 2 ^ e` as a quotient. -/
def magnitudeRatio (m : Nat) (e : Int) : Nat × Nat := scaleDown m 1 (-e)

/-- The product of two doubles, rounded once. -/
def mul : Binary64 → Binary64 → Binary64
  | .finite s m e, .finite s' m' e' =>
    let (num, den) := magnitudeRatio (m * m') (e + e')
    ofRatio (s != s') num den
  | .finite s m _, .infinite s' => if m = 0 then .nan else .infinite (s != s')
  | .infinite s, .finite s' m _ => if m = 0 then .nan else .infinite (s != s')
  | .infinite s, .infinite s' => .infinite (s != s')
  | .nan, _ => .nan
  | _, .nan => .nan

/-- The opposite of a double. -/
def neg : Binary64 → Binary64
  | .finite s m e => .finite (!s) m e
  | .infinite s => .infinite (!s)
  | .nan => .nan

/-- The sum of two doubles, rounded once. -/
def add : Binary64 → Binary64 → Binary64
  | .finite s m e, .finite s' m' e' =>
    let least := min e e'
    let scaled (negative : Bool) (m : Nat) (e : Int) : Int :=
      (if negative then -1 else 1) * (m * twoPow (e - least).toNat : Nat)
    let sum := scaled s m e + scaled s' m' e'
    let (num, den) := magnitudeRatio sum.natAbs least
    ofRatio (if sum = 0 then s && s' else sum < 0) num den
  | .infinite s, .infinite s' => if s = s' then .infinite s else .nan
  | .infinite s, .finite .. => .infinite s
  | .finite .., .infinite s => .infinite s
  | .nan, _ => .nan
  | _, .nan => .nan

/-- The greatest integer that is not above a finite double. -/
def floor? : Binary64 → Option Int
  | .finite negative m e =>
    let (num, den) := magnitudeRatio m e
    some (Int.fdiv (if negative then -num else num) den)
  | _ => none

/-- The integer that a finite double without fraction is. -/
def toInt? : Binary64 → Option Int
  | .finite negative m e =>
    let (num, den) := magnitudeRatio m e
    if num % den = 0 then some (if negative then -(num / den : Nat) else (num / den : Nat)) else none
  | _ => none

end Binary64

end Chartwright
