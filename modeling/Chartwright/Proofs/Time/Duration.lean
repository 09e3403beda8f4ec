import Mathlib.Data.List.TakeDrop
import Mathlib.Data.Nat.Digits.Defs
import Mathlib.Tactic.Lemma
import Chartwright.Time.Duration

/-!
# Durations in texts

Which durations can be read: those within the range, and no others. A duration within the range
has a text of days, seconds and microseconds.
-/

namespace Chartwright

namespace Text

/-- A number is read off its digits. -/
lemma natOfDigits_toDigits (n : Nat) : natOfDigits (Nat.toDigits 10 n) = n := by
  have h := Nat.ofDigitChars_ten_toDigits (n := n)
  rw [Nat.ofDigitChars_eq_foldl] at h
  exact h

/-- Leading zeros do not change a number. -/
lemma natOfDigits_zeros (k : Nat) (cs : List Char) :
    natOfDigits (List.replicate k '0' ++ cs) = natOfDigits cs := by
  induction k with
  | zero => rfl
  | succ k ih => exact ih

/-- The digits of a number are digits. -/
lemma isDigit_of_mem_toDigits {n : Nat} {c : Char} (h : c ∈ Nat.toDigits 10 n) :
    isDigit c = true := by
  have hd := Nat.isDigit_of_mem_toDigits (by decide) (by decide) h
  simp only [Char.isDigit, Bool.and_eq_true, decide_eq_true_eq] at hd
  simp only [isDigit, Bool.and_eq_true, decide_eq_true_eq, Char.le_def]
  exact hd

/-- A run of digits ends where something else follows. -/
lemma spanDigits_append {digits rest : List Char} {u : Char} (hd : ∀ c ∈ digits, isDigit c = true)
    (hu : isDigit u = false) : spanDigits (digits ++ u :: rest) = (digits, u :: rest) := by
  have hn : ¬ isDigit u = true := by simp [hu]
  rw [spanDigits, List.span_eq_takeWhile_dropWhile, List.takeWhile_append_of_pos hd,
    List.dropWhile_append_of_pos hd, List.takeWhile_cons_of_neg hn, List.dropWhile_cons_of_neg hn,
    List.append_nil]

end Text

namespace Duration

/-- The digits of a fraction of a second. -/
def fractionDigits (micros : Nat) : List Char :=
  List.replicate (6 - (Nat.toDigits 10 micros).length) '0' ++ Nat.toDigits 10 micros

/-- The components of a length of time: days, then seconds with a fraction. -/
def components (micros : Nat) : List Char :=
  Nat.toDigits 10 (micros / dayMicroseconds) ++ 'D' :: 'T' ::
    (Nat.toDigits 10 (micros % dayMicroseconds / 1000000) ++ '.' ::
      (fractionDigits (micros % 1000000) ++ ['S']))

/-- A number below the limit of counts is read off its digits. -/
lemma readCount?_digits {n : Nat} (h : n < twoPow 32) {u : Char} (hu : Text.isDigit u = false)
    (rest : List Char) : readCount? (Nat.toDigits 10 n ++ u :: rest) = some (n, u :: rest) := by
  unfold readCount?
  rw [Text.spanDigits_append (fun c => Text.isDigit_of_mem_toDigits) hu]
  cases hd : Nat.toDigits 10 n with
  | nil => exact absurd hd Nat.toDigits_ne_nil
  | cons c cs =>
    simp only [← hd, Text.natOfDigits_toDigits, count?, h, if_true, Option.map_some]

/-- Microseconds have six digits. -/
lemma fractionDigits_length {micros : Nat} (h : micros < 1000000) :
    (fractionDigits micros).length = 6 := by
  have hl := Nat.toDigits_length 10 micros 6 (by decide) h
  simp only [fractionDigits, List.length_append, List.length_replicate]
  omega

/-- Microseconds are read off their digits. -/
lemma readFraction_digits {micros : Nat} (h : micros < 1000000) (rest : List Char) :
    readFraction ('.' :: (fractionDigits micros ++ 'S' :: rest)) =
      (some (micros, 1000000), 'S' :: rest) := by
  have hd : ∀ c ∈ fractionDigits micros, Text.isDigit c = true := by
    intro c hc
    rcases List.mem_append.1 hc with hz | hc
    · rw [List.eq_of_mem_replicate hz]
      rfl
    · exact Text.isDigit_of_mem_toDigits hc
  have hn : Text.natOfDigits (fractionDigits micros) = micros := by
    rw [fractionDigits, Text.natOfDigits_zeros, Text.natOfDigits_toDigits]
  unfold readFraction
  simp only [true_or, if_true, Text.spanDigits_append hd (u := 'S') rfl, hn,
    fractionDigits_length h]
  rfl

/-- A text of a duration. -/
def text (d : Duration) : String :=
  String.ofList ((if d.microseconds < 0 then ['-'] else []) ++
    'P' :: components d.microseconds.natAbs)

/-- A component is read where a number, perhaps a fraction and a unit are. -/
lemma readComponents?_component {fuel : Nat} {timed : Bool} {p : Parts} {cs rest rest' : List Char}
    {value : Nat} {fraction : Option (Nat × Nat)} {u : Char}
    (hc : readCount? cs = some (value, rest)) (hf : readFraction rest = (fraction, u :: rest')) :
    readComponents? (fuel + 1) timed false p cs =
      (if timed then (timeUnit? u).bind (p.addSeconds? value · fraction)
        else (dateUnit? u).bind (p.addDays? value · fraction)).bind
          (readComponents? fuel timed fraction.isSome · rest') := by
  have hn : cs = [] → False := by
    rintro rfl
    cases hc
  have ht : ∀ r, cs = 'T' :: r → False := by
    rintro r rfl
    cases hc
  rw [readComponents?.eq_4 _ _ _ _ _ hn ht, hc]
  simp only [Option.bind_eq_bind, Option.bind_some, hf]
  cases timed with
  | false => simp [guard, Option.bind_assoc]
  | true => simp [guard, Option.bind_assoc]

/-- Days below the limit of counts are added to none. -/
lemma addDays?_first {n : Nat} (h : n < twoPow 32) :
    Parts.addDays? {} n 1 none = some { days := n } := by
  simp [Parts.addDays?, count?, h]

/-- Seconds and microseconds below their limits are added to none. -/
lemma addSeconds?_first {days n micros : Nat} (h : n < twoPow 32) (hm : micros < 1000000) :
    Parts.addSeconds? { days } n 1 (some (micros, 1000000)) = some ⟨days, n, micros⟩ := by
  have hd : micros / 1000000 = 0 := Nat.div_eq_of_lt hm
  have hr : roundHalfUp (micros % 1000000 * 1000000) 1000000 = micros := by
    unfold roundHalfUp
    omega
  simp [Parts.addSeconds?, count?, h, hd, hr]

/-- A length of time within the range is read off its components. -/
lemma readComponents?_components {micros : Nat} (h : inRange micros = true) (fuel : Nat) :
    readComponents? (fuel + 3) false false {} (components micros) =
      some ⟨micros / dayMicroseconds, micros % dayMicroseconds / 1000000, micros % 1000000⟩ := by
  have hd : micros / dayMicroseconds < twoPow 32 := by
    simp only [inRange, decide_eq_true_eq] at h
    have : twoPow 32 = 4294967296 := rfl
    omega
  have hs : micros % dayMicroseconds / 1000000 < twoPow 32 := by
    have : twoPow 32 = 4294967296 := rfl
    simp only [dayMicroseconds]
    omega
  have hm : micros % 1000000 < 1000000 := Nat.mod_lt _ (by decide)
  unfold components
  rw [readComponents?_component (readCount?_digits hd rfl _) rfl]
  simp only [Bool.false_eq_true, if_false, dateUnit?, Option.bind_some, addDays?_first hd,
    Option.isSome_none]
  rw [readComponents?.eq_3]
  simp only [Bool.false_eq_true, if_false]
  rw [readComponents?_component (readCount?_digits hs rfl _) (readFraction_digits hm [])]
  simp only [if_true, timeUnit?, Option.bind_some, addSeconds?_first hs hm, Option.isSome_some]
  exact readComponents?.eq_1 _ _ _ _

/-- The components of a length of time are a text of some length. -/
lemma two_lt_components_length (micros : Nat) : 2 < (components micros).length := by
  simp only [components, List.length_append, List.length_cons]
  omega

/-- The parts of a length of time add up to it. -/
lemma total?_components {micros : Nat} (h : inRange micros = true) (negative : Bool) :
    Parts.total? ⟨micros / dayMicroseconds, micros % dayMicroseconds / 1000000, micros % 1000000⟩
        negative =
      some ⟨if negative then -(micros : Int) else micros⟩ := by
  have he : (micros / dayMicroseconds * 86400 + micros % dayMicroseconds / 1000000) * 1000000 +
      micros % 1000000 = micros := by
    simp only [dayMicroseconds]
    omega
  simp only [Parts.total?, he, ofMagnitude?, h, if_true]

/-- Behind a sign and a `P` there are components. -/
lemma read?_ofComponents (negative : Bool) {cs : List Char} (h : 2 < cs.length) :
    read? (String.ofList ((if negative then ['-'] else []) ++ 'P' :: cs)) =
      (readComponents? (cs.length + 1) false false {} cs).bind (·.total? negative) := by
  unfold read?
  rw [String.toList_ofList]
  cases negative with
  | false =>
    have e : ¬ ('P' :: cs).length < 3 := by simp only [List.length_cons]; omega
    exact congrArg (Option.bind · (Parts.total? · false)) (if_neg e)
  | true =>
    have e : ¬ ('-' :: 'P' :: cs).length < 3 := by simp only [List.length_cons]; omega
    exact congrArg (Option.bind · (Parts.total? · true)) (if_neg e)

/-- A duration within the range is read off its text. -/
lemma read?_text {d : Duration} (h : inRange d.microseconds.natAbs = true) :
    read? d.text = some d := by
  have hl := two_lt_components_length d.microseconds.natAbs
  obtain ⟨fuel, hf⟩ : ∃ fuel, (components d.microseconds.natAbs).length + 1 = fuel + 3 :=
    ⟨(components d.microseconds.natAbs).length - 2, by omega⟩
  have ht : d.text = String.ofList ((if decide (d.microseconds < 0) then ['-'] else []) ++
      'P' :: components d.microseconds.natAbs) := by
    simp only [text, decide_eq_true_eq]
  rw [ht, read?_ofComponents _ hl, hf, readComponents?_components h, Option.bind_some,
    total?_components h]
  obtain ⟨n⟩ := d
  simp only [decide_eq_true_eq, Option.some.injEq, Duration.mk.injEq]
  split <;> omega

/-- A signed length of time is within the range if there is a duration of it. -/
lemma inRange_of_ofMagnitude? {negative : Bool} {micros : Nat} {d : Duration}
    (h : ofMagnitude? negative micros = some d) : inRange d.microseconds.natAbs = true := by
  unfold ofMagnitude? at h
  split at h
  case isTrue hr =>
    cases h
    cases negative <;> simpa using hr
  case isFalse => cases h

/-- A duration that is read off a text is within the range. -/
lemma inRange_of_read? {s : String} {d : Duration} (h : read? s = some d) :
    inRange d.microseconds.natAbs = true := by
  obtain ⟨p, -, hp⟩ := Option.bind_eq_some_iff.1 h
  exact inRange_of_ofMagnitude? hp

/-- A duration that is a number of seconds with a fraction is within the range. -/
lemma inRange_of_ofBinary64? {x : Binary64} {d : Duration} (h : ofBinary64? x = some d) :
    inRange d.microseconds.natAbs = true := by
  unfold ofBinary64? at h
  split at h
  next =>
    simp only at h
    split at h
    next => exact inRange_of_ofMagnitude? h
    next => cases h
  next => cases h

end Duration

end Chartwright
