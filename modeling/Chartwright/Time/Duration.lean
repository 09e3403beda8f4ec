import Chartwright.Number.Binary64
import Chartwright.Time.Clock

/-!
# Durations

Signed lengths of time in microseconds, and the texts and numbers that denote them.
-/

namespace Chartwright

/-- A length of time. -/
structure Duration where
  microseconds : Int
deriving DecidableEq, Repr, Inhabited

namespace Duration

/-- A whole number of seconds. -/
def ofSeconds (n : Int) : Duration := ⟨n * 1000000⟩

/-- The length of a day. -/
def dayMicroseconds : Nat := 86400 * 1000000

/-- Durations have at most 999999999 days beside a part of a day. -/
def inRange (microseconds : Nat) : Bool := microseconds / dayMicroseconds ≤ 999999999

/-- A signed duration within the range. -/
def ofMagnitude? (negative : Bool) (microseconds : Nat) : Option Duration :=
  if inRange microseconds then
    some ⟨if negative then -(microseconds : Int) else microseconds⟩
  else none

/-- A number of microseconds that lies within the range. -/
def ofMicroseconds? (n : Int) : Option Duration := ofMagnitude? (n < 0) n.natAbs

/-- A number of seconds that lies within the range. -/
def ofSeconds? (n : Int) : Option Duration := ofMagnitude? (n < 0) (n.natAbs * 1000000)

/-- The integer nearest to a non-negative quotient, a half going up. -/
def roundHalfUp (num den : Nat) : Nat := (2 * num + den) / (2 * den)

/-- Seconds with a fraction; the fraction is brought to microseconds in double arithmetic. -/
def ofBinary64? : Binary64 → Option Duration
  | .finite negative m e => do
    let (num, den) := Binary64.magnitudeRatio m e
    let fraction := Binary64.ofRatio false (num % den) den
    let .finite _ fm fe := fraction.mul (.ofInt 1000000) | none
    let (fnum, fden) := Binary64.magnitudeRatio fm fe
    ofMagnitude? negative (num / den * 1000000 + roundHalfUp fnum fden)
  | _ => none

/-- The parts of a duration while its text is read; each is a 32-bit count. -/
structure Parts where
  days : Nat := 0
  seconds : Nat := 0
  micros : Nat := 0

/-- Counts are below `2 ^ 32`. -/
def count? (n : Nat) : Option Nat := if n < twoPow 32 then some n else none

/-- The duration that the parts add up to. -/
def Parts.total? (p : Parts) (negative : Bool) : Option Duration :=
  ofMagnitude? negative ((p.days * 86400 + p.seconds) * 1000000 + p.micros)

/-- Reads a number with at least one digit. -/
def readCount? (cs : List Char) : Option (Nat × List Char) :=
  match Text.spanDigits cs with
  | ([], _) => none
  | (digits, rest) => (count? (Text.natOfDigits digits)).map (·, rest)

/-- Reads the fraction of a component, as a numerator over a power of ten. -/
def readFraction (cs : List Char) : Option (Nat × Nat) × List Char :=
  match cs with
  | c :: rest =>
    if c = '.' ∨ c = ',' then
      let (digits, rest) := Text.spanDigits rest
      (some (Text.natOfDigits digits, tenPow digits.length), rest)
    else (none, cs)
  | [] => (none, cs)

/-- Days of a component before the `T`. -/
def dateUnit? : Char → Option Nat
  | 'Y' => some 365
  | 'M' => some 30
  | 'W' => some 7
  | 'D' => some 1
  | _ => none

/-- Seconds of a component behind the `T`. -/
def timeUnit? : Char → Option Nat
  | 'H' => some 3600
  | 'M' => some 60
  | 'S' => some 1
  | _ => none

/-- Adds `value` and a fraction of it in a unit of days. -/
def Parts.addDays? (p : Parts) (value unit : Nat) (fraction : Option (Nat × Nat)) :
    Option Parts := do
  let days ← count? (p.days + (← count? (value * unit)))
  match fraction with
  | none => some { p with days }
  | some (num, den) =>
    let days ← count? (days + num * unit / den)
    let micros := roundHalfUp (num * unit % den * dayMicroseconds) den
    some { p with
      days, seconds := p.seconds + micros / 1000000, micros := p.micros + micros % 1000000 }

/-- Adds `value` and a fraction of it in a unit of seconds. -/
def Parts.addSeconds? (p : Parts) (value unit : Nat) (fraction : Option (Nat × Nat)) :
    Option Parts := do
  let seconds ← count? (p.seconds + (← count? (value * unit)))
  match fraction with
  | none => some { p with seconds }
  | some (num, den) =>
    let seconds ← count? (seconds + num * unit / den)
    some { p with seconds, micros := p.micros + roundHalfUp (num * unit % den * 1000000) den }

/-- The components behind the `P`: dates, then times behind one `T`; only the last may have a
fraction. -/
def readComponents? : (fuel : Nat) → (timed ended : Bool) → Parts → List Char → Option Parts
  | _, _, _, p, [] => some p
  | 0, _, _, _, _ => none
  | fuel + 1, timed, ended, p, 'T' :: rest =>
    if timed then none else readComponents? fuel true ended p rest
  | fuel + 1, timed, ended, p, cs => do
    let (value, rest) ← readCount? cs
    let (fraction, rest) := readFraction rest
    guard !ended
    let u :: rest := rest | none
    let p ← if timed then p.addSeconds? value (← timeUnit? u) fraction
      else p.addDays? value (← dateUnit? u) fraction
    readComponents? fuel timed fraction.isSome p rest

/-- Reads `H…:MM[:SS[.f]]` with at most ten digits of hours; what stands behind the twelfth
character after the hours is ignored. -/
def readClock? (cs : List Char) : Option Parts := do
  guard (5 ≤ cs.length)
  let (hour, rest) := cs.span (· ≠ ':')
  let ':' :: rest := rest | none
  guard (hour.length ≤ 10 ∧ hour.all Text.isDigit)
  let hours := Text.natOfDigits hour
  guard (hours ≤ 2400000000)
  let (minutes, rest) ← Clock.readSixty? (rest.take 12)
  let (seconds, micros, rest) ← Clock.readSeconds? rest
  guard (rest = [])
  some { days := hours / 24, seconds := hours % 24 * 3600 + minutes * 60 + seconds, micros }

/-- Reads `N d`, `N day` or `N days`, and a clock time behind it. -/
def readDays? (cs : List Char) : Option Parts := do
  let (days, rest) ← readCount? cs
  let rest ← Text.skip? (fun c => c = 'd' || c = 'D') ((Text.skip? (· = ' ') rest).getD rest)
  let rest ←
    match Text.skip? (fun c => c = 'a' || c = 'A') rest with
    | none => some rest
    | some rest => do
      let rest ← Text.skip? (fun c => c = 'y' || c = 'Y') rest
      some ((Text.skip? (fun c => c = 's' || c = 'S') rest).getD rest)
  let rest := (Text.skip? (· = ',') rest).getD rest
  if rest = [] then return { days }
  let rest ← Text.skip? (· = ' ') rest
  if rest = [] then return { days }
  let clock ← readClock? rest
  return { clock with days := days + clock.days }

/-- Reads a duration: ISO 8601, a clock time, or days with an optional clock time. -/
def read? (text : String) : Option Duration :=
  let cs := text.toList
  let (negative, body) :=
    match cs with
    | '-' :: rest => (true, rest)
    | '+' :: rest => (false, rest)
    | _ => (false, cs)
  let parts :=
    match body with
    | 'P' :: rest =>
      if cs.length < 3 then none else readComponents? (rest.length + 1) false false {} rest
    | _ =>
      if cs.any (fun c => c = 'd' || c = 'D') || cs.length < 5 then readDays? body
      else readClock? body
  parts.bind (·.total? negative)

end Duration

end Chartwright
