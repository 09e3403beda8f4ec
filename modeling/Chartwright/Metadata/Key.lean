import Chartwright.Text.Digits

/-!
# Metadata keys

The keys of labels and annotations: a name, with an optional group before a slash. One newline at
the end is tolerated.
-/

namespace Chartwright.MetadataKey

/-- Letters and digits of ASCII. -/
def isAlphanumeric (c : Char) : Bool :=
  ('a' ≤ c && c ≤ 'z') || ('A' ≤ c && c ≤ 'Z') || Text.isDigit c

/-- Letters of ASCII. -/
def isLetter (c : Char) : Bool := ('a' ≤ c && c ≤ 'z') || ('A' ≤ c && c ≤ 'Z')

/-- The characters of names behind the first. -/
def isNameChar (c : Char) : Bool := isAlphanumeric c || c = '-' || c = '_' || c = '.'

/-- Names: an alphanumeric character and at most 63 name characters. -/
def isName : List Char → Bool
  | [] => false
  | c :: rest => isAlphanumeric c && rest.length ≤ 63 && rest.all isNameChar

/-- Groups: a letter and at most 252 characters of any kind on the same line. -/
def isGroup : List Char → Bool
  | [] => false
  | c :: rest => isLetter c && rest.length ≤ 252 && rest.all (· ≠ '\n')

/-- Splits a text at its last slash; without one there is no first part. -/
def splitLastSlash (cs : List Char) : Option (List Char) × List Char :=
  let name := (cs.reverse.takeWhile (· ≠ '/')).reverse
  if name.length = cs.length then (none, cs)
  else (some (cs.take (cs.length - name.length - 1)), name)

/-- Drops one newline from the end. -/
def dropFinalNewline (cs : List Char) : List Char :=
  if cs.getLast? = some '\n' then cs.dropLast else cs

/-- Whether a text is a key. -/
def isValid (key : String) : Bool :=
  match splitLastSlash (dropFinalNewline key.toList) with
  | (none, name) => isName name
  | (some group, name) => isGroup group && isName name

end Chartwright.MetadataKey
