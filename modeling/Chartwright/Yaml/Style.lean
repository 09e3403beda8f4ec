import Chartwright.Yaml.Resolve

/-!
# Scalar styles

How a text can be written: plain, between single quotes, or between double quotes. Plain is
preferred, then single quotes; double quotes can hold every text.
-/

namespace Chartwright.Yaml

/-- The styles of a scalar. -/
inductive Style where
  | plain | single | double
deriving DecidableEq, Repr

/-- Characters that break a line in YAML. -/
def isBreak (c : Char) : Bool := c ∈ ['\n', '\u0085', '\u2028', '\u2029']

/-- Blanks and breaks, which may follow an indicator. -/
def isGap (c : Char) : Bool := c ∈ ['\x00', ' ', '\t', '\x0d'] || isBreak c

/-- Characters that only an escape can show. -/
def isSpecial (c : Char) : Bool :=
  let n := c.toNat
  c = '\ufeff' ||
  !(c = '\n' || (0x20 ≤ n && n ≤ 0x7e) || n = 0x85 || (0xa0 ≤ n && n ≤ 0xd7ff) ||
    (0xe000 ≤ n && n ≤ 0xfffd) || (0x10000 ≤ n && n < 0x10ffff))

/-- Whether two neighbours satisfy a relation somewhere in a text. -/
def anyPair (p : Char → Char → Bool) (cs : List Char) : Bool :=
  (cs.zip cs.tail).any fun (a, b) => p a b

/-- The indicators that no plain scalar starts with. -/
def openingIndicators : List Char :=
  ['#', ',', '[', ']', '\x7b', '\x7d', '&', '*', '!', '|', '>', '\x27', '\x22', '%', '@', '\x60']

/-- Whether the start of a text reads as an indicator. -/
def startsWithIndicator (cs : List Char) : Bool :=
  "---".toList.isPrefixOf cs || "...".toList.isPrefixOf cs ||
  match cs with
  | [] => false
  | c :: rest =>
    c ∈ openingIndicators || (c ∈ ['?', ':', '-'] && (rest.head?.map isGap).getD true)

/-- Whether a colon before a gap or a number sign behind one would cut the text. -/
def containsIndicator (cs : List Char) : Bool :=
  anyPair (fun a b => (a = ':' && isGap b) || (isGap a && b = '#')) cs || cs.getLast? = some ':'

/-- Whether a text has a break next to a space. -/
def breakMeetsSpace (cs : List Char) : Bool :=
  anyPair (fun a b => (isBreak a && b = ' ') || (a = ' ' && isBreak b)) cs

/-- Whether a text can stand without quotes and still be read as this text. -/
def allowsPlain (s : String) : Bool :=
  let cs := s.toList
  plainType s = .text && !cs.any (fun c => isBreak c || isSpecial c) &&
    cs.head? ≠ some ' ' && cs.getLast? ≠ some ' ' &&
    !startsWithIndicator cs && !containsIndicator cs

/-- Whether a text can stand between single quotes; a key on one line has no break. -/
def allowsSingle (simpleKey : Bool) (s : String) : Bool :=
  let cs := s.toList
  !cs.any isSpecial && !breakMeetsSpace cs && !(simpleKey && cs.any isBreak)

/-- The style of a text. -/
def styleOf (simpleKey : Bool) (s : String) : Style :=
  if allowsPlain s then .plain else if allowsSingle simpleKey s then .single else .double

end Chartwright.Yaml
