/-!
# Splitting

A text is cut at every occurrence of a character; there is one more piece than there are cuts.
-/

namespace Chartwright.Text

/-- The pieces of a text between the occurrences of a character. -/
def splitAt (separator : Char) : List Char → List (List Char)
  | [] => [[]]
  | c :: cs =>
    if c = separator then [] :: splitAt separator cs
    else match splitAt separator cs with
      | [] => [[c]]
      | piece :: pieces => (c :: piece) :: pieces

/-- The words of a text: the pieces between the occurrences of a character that are not empty. -/
def words (separator : Char) (cs : List Char) : List (List Char) :=
  (splitAt separator cs).filter (· ≠ [])

end Chartwright.Text
