/-!
# Character maps

A map from characters to short texts, written as runs of equal shift and a list of expansions.
-/

namespace Chartwright.Text

/-- Every `stride`-th character from `first` to `last` moves by `shift` code points. -/
structure Run where
  first : Nat
  last : Nat
  stride : Nat
  shift : Int

/-- Whether a run moves a code point. -/
def Run.covers (run : Run) (n : Nat) : Bool :=
  run.first ≤ n && n ≤ run.last && (n - run.first) % run.stride == 0

/-- Runs for the characters with one image, expansions for those with several. -/
structure CharMap where
  runs : List Run
  expansions : List (Nat × List Nat)

/-- The image of a character; a character that the map does not mention is its own image. -/
def CharMap.image (map : CharMap) (c : Char) : List Char :=
  match map.expansions.lookup c.toNat with
  | some codes => codes.map Char.ofNat
  | none =>
    match map.runs.find? (·.covers c.toNat) with
    | some run => [Char.ofNat (c.toNat + run.shift).toNat]
    | none => [c]

end Chartwright.Text
