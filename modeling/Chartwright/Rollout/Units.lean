import Chartwright.Number.Binary64

/-!
# Units

How the units of a process are shared between the old and the new deployment when the old one has
a share of the traffic.
-/

namespace Chartwright

/-- The whole of the traffic, in percent. -/
def fullWeight : Int := 100

/-- `units * weight / 100` rounded down, in double arithmetic; nothing where the units or the share
are too large for a double. -/
def shareOfUnits? (weight units : Int) : Option Int :=
  let fraction := Binary64.ofRatio (weight < 0) weight.natAbs fullWeight.natAbs
  match fraction, Binary64.ofInt units with
  | .finite s m e, .finite s' m' e' => (Binary64.mul (.finite s m e) (.finite s' m' e')).floor?
  | _, _ => none

/-- The units of the old and of the new deployment when the old one has `weight` percent of the
traffic. The old one keeps at least one unit where it would have none. -/
def splitUnits? (weight units : Int) : Option (Int × Int) :=
  (shareOfUnits? (min weight fullWeight) units).map fun kept =>
    let new := units - kept
    if new = units then (1, new) else (units - new, new)

end Chartwright
