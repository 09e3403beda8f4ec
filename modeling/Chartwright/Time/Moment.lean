import Chartwright.Time.Calendar
import Chartwright.Time.Duration

/-!
# Moments

Points in time as a clock on the wall shows them, with or without an offset from UTC. A moment
without offset is read as UTC.
-/

namespace Chartwright

/-- A reading of a clock: microseconds since the start of year 1, and the microseconds that the
clock is ahead of UTC, if they are known. -/
structure Moment where
  wall : Int
  offset : Option Int
deriving DecidableEq, Repr, Inhabited

namespace Moment

/-- The first reading behind the year 9999. -/
def wallLimit : Int := Date.limit * Duration.dayMicroseconds

/-- The microseconds since the start of year 1 in UTC. -/
def instant (m : Moment) : Int := m.wall - m.offset.getD 0

/-- The same moment with an explicit offset. -/
def inUtc (m : Moment) : Moment := { m with offset := some (m.offset.getD 0) }

/-- A moment later by a duration, if the years 1 to 9999 have it. -/
def add? (m : Moment) (d : Duration) : Option Moment :=
  let wall := m.wall + d.microseconds
  if 0 ≤ wall ∧ wall < wallLimit then some { m with wall } else none

/-- Midnight of a date. -/
def ofDate (d : Date) : Moment := ⟨d.days * Duration.dayMicroseconds, none⟩

/-- The date of a moment. -/
def date (m : Moment) : Date := ⟨(m.wall / Duration.dayMicroseconds).toNat⟩

/-- The microseconds of a minute. -/
def minuteMicroseconds : Int := 60000000

/-- A fraction of a second with six digits, behind a point; nothing for whole seconds. -/
def renderFraction (micros : Nat) : String :=
  if micros = 0 then "" else "." ++ Text.padded 6 micros

/-- An offset as `+HH:MM`, with the seconds and their fraction behind it where they are not zero. -/
def renderOffset (offset : Int) : String :=
  let seconds := offset.natAbs / 1000000
  let fraction := offset.natAbs % 1000000
  (if offset < 0 then "-" else "+") ++ Text.padded 2 (seconds / 3600) ++ ":" ++
    Text.padded 2 (seconds / 60 % 60) ++
    if offset.natAbs % 60000000 = 0 then "" else
      ":" ++ Text.padded 2 (seconds % 60) ++ renderFraction fraction

/-- Date and time with a separator between them; a fraction is shown with six digits. -/
def render (m : Moment) (separator : String) : String :=
  let micros := (m.wall % Duration.dayMicroseconds).toNat
  let seconds := micros / 1000000
  let fraction := micros % 1000000
  m.date.render ++ separator ++ Text.padded 2 (seconds / 3600) ++ ":" ++
    Text.padded 2 (seconds / 60 % 60) ++ ":" ++ Text.padded 2 (seconds % 60) ++
    renderFraction fraction ++ m.offset.elim "" renderOffset

/-- The ISO 8601 form. -/
def iso (m : Moment) : String := m.render "T"

/-- Reads an offset: `Z`, `+HH:MM` or `+HHMM`. -/
def readOffset? (cs : List Char) : Option (Option Int) :=
  match cs with
  | [] => some none
  | sign :: rest => do
    if sign = 'Z' ∨ sign = 'z' then
      guard (rest = [])
      return some 0
    guard (sign = '+' ∨ sign = '-' ∨ sign = '\u2212')
    let (hours, rest) ← Text.takeDigits? 2 rest
    let (minutes, rest) ← Text.takeDigits? 2 ((Text.skip? (· = ':') rest).getD rest)
    guard (minutes < 60 ∧ hours < 24 ∧ rest = [])
    let total := (hours * 60 + minutes) * minuteMicroseconds
    return some (if sign = '+' then total else -total)

/-- Reads a date, a separator, a time and an optional offset. -/
def readStamp? (cs : List Char) : Option Moment := do
  let (date, rest) ← Date.read? cs
  let rest ← Text.skip? (fun c => c ∈ ['T', 't', ' ', '_']) rest
  let (hours, rest) ← Text.takeDigits? 2 rest
  let ':' :: rest := rest | none
  let (minutes, rest) ← Clock.readSixty? rest
  guard (hours < 24)
  let (seconds, micros, rest) ← Clock.readSeconds? rest
  let offset ← readOffset? rest
  some ⟨date.days * Duration.dayMicroseconds +
    ((hours * 3600 + minutes * 60 + seconds) * 1000000 + micros : Nat), offset⟩

/-- The reading of a UTC clock at the start of 1970. -/
def epoch : Int := (Date.daysBeforeYear 1970 : Int) * Duration.dayMicroseconds

/-- The moment so many seconds and microseconds after 1970, from the year 1600 to 9999; a count
beyond 20000000000 is one of milliseconds. -/
def ofTimestamp? (count : Int) (micros : Nat) : Option Moment :=
  let total : Int :=
    if count.natAbs ≤ 20000000000 then count * 1000000 + micros else count * 1000 + micros
  let seconds := total / 1000000
  if -11676096000 ≤ seconds ∧ seconds ≤ 253402300799 then some ⟨epoch + total, some 0⟩ else none

/-- A timestamp with a fraction: the part before the point rounded down, and the size of the part
behind it in microseconds. -/
def ofBinary64? (x : Binary64) : Option Moment :=
  match x with
  | .finite _ m e => do
    let (num, den) := Binary64.magnitudeRatio m e
    let .finite _ fm fe := (Binary64.ofRatio false (num % den) den).mul (.ofInt 1000000) | none
    let (fnum, fden) := Binary64.magnitudeRatio fm fe
    ofTimestamp? (← x.floor?) (Duration.roundHalfUp fnum fden)
  | _ => none

/-- Reads a timestamp in decimal, with an optional fraction. -/
def readTimestamp? (cs : List Char) : Option Moment := do
  let (negative, body) :=
    match cs with
    | '-' :: rest => (true, rest)
    | '+' :: rest => (false, rest)
    | _ => (false, cs)
  let (whole, rest) := Text.spanDigits body
  guard (whole ≠ [])
  match rest with
  | [] =>
    let n : Int := Text.natOfDigits whole
    ofTimestamp? (if negative then -n else n) 0
  | '.' :: fraction =>
    guard (fraction.all Text.isDigit)
    let digits := Text.natOfDigits (whole ++ fraction)
    let unit := if 20000000000 < Text.natOfDigits whole then 1000 else 1
    let den : Nat := tenPow fraction.length * unit
    let signed : Int := if negative then -digits else digits
    let micros := Duration.roundHalfUp ((signed % den).toNat * 1000000) den
    let total := signed / den * 1000000 + micros
    let seconds := total / 1000000
    if -11676096000 ≤ seconds ∧ seconds ≤ 253402300799 then some ⟨epoch + total, some 0⟩ else none
  | _ => none

/-- Reads a moment: a date with a time, a timestamp, or a date alone. -/
def read? (text : String) : Option Moment :=
  let cs := text.toList
  match readStamp? cs, readTimestamp? cs, Date.read? cs with
  | some m, _, _ => some m
  | none, some m, _ => some m
  | none, none, some (date, []) => some (ofDate date)
  | _, _, _ => none

end Moment

end Chartwright
