/-!
# Powers

The powers of the bases that numbers are written in.
-/

namespace Chartwright

/-- A power of two. -/
def twoPow (n : Nat) : Nat := Nat.pow 2 n

/-- A power of ten. -/
def tenPow (n : Nat) : Nat := Nat.pow 10 n

/-- A power of sixty. -/
def sixtyPow (n : Nat) : Nat := Nat.pow 60 n

end Chartwright
