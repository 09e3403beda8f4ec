import Chartwright.Proofs.Number.Rounding
import Chartwright.Rollout.Units

/-!
# Splits of units

What the old deployment keeps of the units of a process. The share is computed with doubles, so it
is a number that was rounded three times; `keptUnits` is that number rounded down. It is monotone in
the weight and close to the exact share. It is the exact share itself while the numbers are small,
but for ten weights, at which a share that is a whole number can come out one less.
-/

namespace Chartwright

open Binary64 (nearest overflow)

/-- The share of the traffic that a weight stands for; a weight above the whole counts as the
whole. -/
def fraction (weight : Int) : ℚ := (min weight fullWeight : Int) / (fullWeight : Int)

/-- The units that the old deployment keeps of all of them by its weight. -/
def keptUnits (weight units : Int) : Int := ⌊nearest (nearest (fraction weight) * nearest units)⌋

/-- The exact share of some units by a weight, rounded down. -/
def exactShare (weight units : Int) : Int := min weight fullWeight * units / fullWeight

/-- From here on, units are too large for a double. -/
def unitsLimit : Int := 2 ^ 1024 - 2 ^ 970

/-- The weights that are rounded so far down that a share which is a whole number can come out one
less. -/
def inexactWeights : List Int := [29, 35, 41, 47, 57, 58, 69, 70, 82, 94]

/-- Units that are kept are close to the share by the weight: relatively close at any size, and
mostly equal to its whole part while the numbers are small. -/
structure Approximates (weight units kept : Int) : Prop where
  near : |(kept : ℚ) - fraction weight * units| ≤ 1 + fraction weight * units / 2 ^ 51
  within_one : min weight fullWeight * units < 2 ^ 51 →
    kept = exactShare weight units ∨ kept = exactShare weight units - 1
  exact : min weight fullWeight * units < 2 ^ 51 →
    weight ∉ inexactWeights ∨ ¬ fullWeight ∣ min weight fullWeight * units →
      kept = exactShare weight units

section

variable {weight units : Int}

lemma fraction_nonneg (hw : 0 ≤ weight) : 0 ≤ fraction weight := by
  have : (0 : ℚ) ≤ (min weight fullWeight : Int) := by
    exact_mod_cast le_min hw (by decide)
  unfold fraction fullWeight
  positivity

lemma fraction_le_one (weight : Int) : fraction weight ≤ 1 := by
  rw [fraction, div_le_one (by decide)]
  exact_mod_cast min_le_right weight fullWeight

lemma fraction_mono {weight' : Int} (h : weight ≤ weight') :
    fraction weight ≤ fraction weight' := by
  have : ((min weight fullWeight : Int) : ℚ) ≤ (min weight' fullWeight : Int) := by
    exact_mod_cast min_le_min_right fullWeight h
  unfold fraction fullWeight at *
  gcongr

/-- A rounded share of the traffic is a share of the traffic. -/
lemma nearest_fraction_bounds (hw : 0 ≤ weight) :
    0 ≤ nearest (fraction weight) ∧ nearest (fraction weight) ≤ 1 := by
  refine ⟨Binary64.nearest_nonneg (fraction_nonneg hw), ?_⟩
  have one : nearest ((1 : ℕ) : ℚ) = ((1 : ℕ) : ℚ) := Binary64.nearest_natCast (by norm_num)
  calc nearest (fraction weight) ≤ nearest ((1 : ℕ) : ℚ) :=
        Binary64.nearest_mono (fraction_nonneg hw) (by simpa using fraction_le_one weight)
    _ = 1 := one.trans Nat.cast_one

/-- The rounded share of rounded units is not above them. -/
lemma nearest_share_le (hw : 0 ≤ weight) (hu : 0 ≤ units) :
    nearest (nearest (fraction weight) * nearest units) ≤ nearest units := by
  have hn : 0 ≤ nearest (units : ℚ) := Binary64.nearest_nonneg (by exact_mod_cast hu)
  obtain ⟨h0, h1⟩ := nearest_fraction_bounds hw
  calc nearest (nearest (fraction weight) * nearest units)
      ≤ nearest (nearest units) :=
        Binary64.nearest_mono (mul_nonneg h0 hn) (mul_le_of_le_one_left hn h1)
    _ = nearest units := Binary64.nearest_nearest (by exact_mod_cast hu)

/-- The share of units is a double with the sign of the units, unless they are too large for one. -/
lemma shareOfUnits?_cases (hw : 0 ≤ weight) (units : Int) :
    (nearest (|units| : Int) < overflow ∧ ∃ m e,
      shareOfUnits? (min weight fullWeight) units =
          Binary64.floor? (.finite (decide (units < 0)) m e) ∧
        (m : ℚ) * 2 ^ e = nearest (nearest (fraction weight) * nearest (|units| : Int))) ∨
    (overflow ≤ nearest (|units| : Int) ∧ shareOfUnits? (min weight fullWeight) units = none) := by
  have hmin : 0 ≤ min weight fullWeight := le_min hw (by decide)
  have hfraction : ((min weight fullWeight).natAbs : ℚ) / fullWeight.natAbs = fraction weight := by
    rw [fraction, ← Int.cast_natCast, Int.natAbs_of_nonneg hmin]
    rfl
  have hunits : (units.natAbs : ℚ) / (1 : ℕ) = (|units| : Int) := by
    rw [Nat.cast_one, div_one, ← Int.cast_natCast, Int.natCast_natAbs]
  have hshare := nearest_share_le hw (abs_nonneg units)
  unfold shareOfUnits? Binary64.ofInt
  simp only [decide_eq_false (not_lt.2 hmin)]
  obtain ⟨-, m, e, ef, hm⟩ | ⟨large, -⟩ :=
    Binary64.ofRatio_cases false (min weight fullWeight).natAbs
      (show 0 < fullWeight.natAbs by decide)
  · obtain ⟨small, m', e', eu, hm'⟩ | ⟨large, eu⟩ :=
      Binary64.ofRatio_cases (decide (units < 0)) units.natAbs Nat.one_pos
    · rw [hfraction] at hm
      rw [hunits] at hm' small
      obtain ⟨n, i, ep, hp⟩ :=
        Binary64.mul_finite false (decide (units < 0)) hm hm' (hshare.trans_lt small)
      rw [Bool.false_bne] at ep
      rw [ef, eu]
      simp only [ep]
      exact .inl ⟨small, n, i, rfl, hp⟩
    · rw [hunits] at large
      rw [ef, eu]
      exact .inr ⟨large, rfl⟩
  · rw [hfraction] at large
    have small : (1 : ℚ) < overflow := Binary64.lt_overflow (by norm_num)
    exact absurd large (not_le.2 ((nearest_fraction_bounds hw).2.trans_lt small))

/-- Units are shared unless they are too large for a double. -/
lemma shareOfUnits?_eq (hw : 0 ≤ weight) (hu : 0 ≤ units) :
    shareOfUnits? (min weight fullWeight) units =
      if nearest units < overflow then some (keptUnits weight units) else none := by
  have cases := shareOfUnits?_cases hw units
  rw [abs_of_nonneg hu, decide_eq_false (not_lt.2 hu)] at cases
  rcases cases with ⟨small, m, e, share, value⟩ | ⟨large, share⟩
  · rw [share, if_pos small, Binary64.floor?_finite, value]
    rfl
  · rw [share, if_neg (not_lt.2 large)]

lemma keptUnits_nonneg (hw : 0 ≤ weight) (hu : 0 ≤ units) : 0 ≤ keptUnits weight units := by
  have hn : 0 ≤ nearest (units : ℚ) := Binary64.nearest_nonneg (by exact_mod_cast hu)
  exact Int.floor_nonneg.2
    (Binary64.nearest_nonneg (mul_nonneg (nearest_fraction_bounds hw).1 hn))

/-- More traffic keeps more units. -/
lemma keptUnits_mono {weight' : Int} (hw : 0 ≤ weight) (h : weight ≤ weight') (hu : 0 ≤ units) :
    keptUnits weight units ≤ keptUnits weight' units := by
  have hn : 0 ≤ nearest (units : ℚ) := Binary64.nearest_nonneg (by exact_mod_cast hu)
  have hf : nearest (fraction weight) ≤ nearest (fraction weight') :=
    Binary64.nearest_mono (fraction_nonneg hw) (fraction_mono h)
  apply Int.floor_le_floor
  apply Binary64.nearest_mono (mul_nonneg (nearest_fraction_bounds hw).1 hn)
  gcongr

/-- The units that are kept, at least one of them, and the others. -/
lemma splitUnits?_eq (hw : 0 ≤ weight) (hu : 0 ≤ units) :
    splitUnits? weight units =
      if nearest units < overflow then
        some (max 1 (keptUnits weight units), units - keptUnits weight units)
      else none := by
  have h0 := keptUnits_nonneg hw hu
  rw [splitUnits?, shareOfUnits?_eq hw hu]
  split
  case isTrue =>
    rw [Option.map_some, Option.some_inj]
    generalize keptUnits weight units = kept at h0
    by_cases hz : kept = 0
    · simp [hz]
    · rw [if_neg (by omega), max_eq_right (by omega), Prod.mk.injEq]
      exact ⟨by omega, rfl⟩
  case isFalse => rfl

/-! ## Small units -/

lemma nearest_units (hu : 0 ≤ units) (small : units < 2 ^ 53) : nearest units = units := by
  obtain ⟨n, rfl⟩ := Int.eq_ofNat_of_zero_le hu
  exact_mod_cast Binary64.nearest_natCast (m := n) (by omega)

/-- Not more than all units are kept. -/
lemma keptUnits_le (hw : 0 ≤ weight) (hu : 0 ≤ units) (small : units < 2 ^ 53) :
    keptUnits weight units ≤ units := by
  have h := nearest_share_le hw hu
  rw [nearest_units hu small] at h
  rw [keptUnits, nearest_units hu small]
  exact Int.floor_le_iff.2 (h.trans_lt (lt_add_one _))

/-- Small units are always split. -/
lemma splitUnits?_of_lt (hw : 0 ≤ weight) (hu : 0 ≤ units) (small : units < 2 ^ 53) :
    splitUnits? weight units =
      some (max 1 (keptUnits weight units), units - keptUnits weight units) := by
  have finite : nearest units < overflow := by
    rw [nearest_units hu small]
    exact Binary64.lt_overflow (by exact_mod_cast small)
  rw [splitUnits?_eq hw hu, if_pos finite]

/-! ## Exact shares -/

/-- Weights and units that are not zero are far from the smallest doubles. -/
lemma zpow_le_of_le {q : ℚ} (h : 1 / 128 ≤ q) : 2 ^ (-1022 : ℤ) ≤ q :=
  le_trans (b := 2 ^ (-7 : ℤ)) (zpow_le_zpow_right₀ one_le_two (by decide)) (by norm_num; linarith)

/-- A share that was rounded three times is relatively close to the exact one. -/
lemma abs_share_sub_le (hw : 0 ≤ weight) (hu : 0 ≤ units) :
    |nearest (nearest (fraction weight) * nearest units) - fraction weight * units| ≤
      fraction weight * units / 2 ^ 51 := by
  rcases hw.eq_or_lt with rfl | hw
  · simp [fraction, fullWeight]
  rcases hu.eq_or_lt with rfl | hu
  · simp
  have ha : 1 / 100 ≤ fraction weight := by
    have : (1 : ℚ) ≤ (min weight fullWeight : Int) := by
      exact_mod_cast le_min hw (show (1 : Int) ≤ fullWeight by decide)
    unfold fraction fullWeight at *
    gcongr
    norm_num
  have hb : (1 : ℚ) ≤ units := by exact_mod_cast hu
  obtain ⟨hq, hq'⟩ := Binary64.nearest_close (zpow_le_of_le (ha.trans' (by norm_num)))
  obtain ⟨hr, hr'⟩ := Binary64.nearest_close (zpow_le_of_le (hb.trans' (by norm_num)))
  generalize fraction weight = a at *
  generalize (units : ℚ) = b at *
  generalize nearest a = q at *
  generalize nearest b = r at *
  have lower : a * b * (1 - 1 / 2 ^ 53) ^ 2 ≤ q * r := by
    calc a * b * (1 - 1 / 2 ^ 53) ^ 2 = a * (1 - 1 / 2 ^ 53) * (b * (1 - 1 / 2 ^ 53)) := by ring
      _ ≤ q * r := mul_le_mul hq hr (by linarith) (by linarith)
  have upper : q * r ≤ a * b * (1 + 1 / 2 ^ 53) ^ 2 := by
    calc q * r ≤ a * (1 + 1 / 2 ^ 53) * (b * (1 + 1 / 2 ^ 53)) :=
          mul_le_mul hq' hr' (by linarith) (by linarith)
      _ = a * b * (1 + 1 / 2 ^ 53) ^ 2 := by ring
  have hab : 1 / 100 ≤ a * b := by
    calc (1 / 100 : ℚ) = 1 / 100 * 1 := by ring
      _ ≤ a * b := mul_le_mul ha hb (by norm_num) (by linarith)
  obtain ⟨hp, hp'⟩ := Binary64.nearest_close (q := q * r) (zpow_le_of_le (by linarith))
  -- three roundings are less than four times as far off as one
  rw [abs_le]
  constructor <;> linarith

/-! ## Exact splits -/

/-- The share by a weight as a quotient of integers. -/
lemma fraction_mul (weight units : Int) :
    fraction weight * units = (min weight fullWeight * units : Int) / (100 : ℕ) := by
  rw [fraction, Int.cast_mul, div_mul_eq_mul_div]
  rfl

/-- Whether a double is not below a percentage, or by less than half a unit of its last place. -/
def coversPercent (percent : Nat) : Binary64 → Bool
  | .finite _ m e =>
    let (num, den) := Binary64.magnitudeRatio m e
    percent * (100 * 2 ^ 53 - 49) * den ≤ num * 100 * (100 * 2 ^ 53)
  | _ => false

/-- The other weights are hardly rounded down. -/
lemma le_nearest_fraction (hw : 0 ≤ weight) (h : weight ∉ inexactWeights) :
    fraction weight * (1 - 49 / 100 / 2 ^ 53) ≤ nearest (fraction weight) := by
  have covers : ∀ n : ℕ, n < 101 → (n : Int) ∉ inexactWeights →
      coversPercent n (Binary64.ofRatio false n 100) = true := by decide +kernel
  obtain ⟨n, hn⟩ : ∃ n : ℕ, min weight fullWeight = n :=
    Int.eq_ofNat_of_zero_le (le_min hw (by decide))
  have hle : n < 101 := by
    have := min_le_right weight fullWeight
    simp only [fullWeight] at this hn
    omega
  have hout : (n : Int) ∉ inexactWeights := by
    rw [← hn]
    rcases min_choice weight fullWeight with e | e <;> rw [e]
    · exact h
    · decide
  have hf : fraction weight = n / (100 : ℕ) := by
    rw [fraction, hn]
    rfl
  have covered := covers n hle hout
  obtain ⟨-, m, e, er, hm⟩ | ⟨-, er⟩ :=
    Binary64.ofRatio_cases false n (show 0 < 100 by decide)
  · rw [er, coversPercent, decide_eq_true_iff] at covered
    have hd : (0 : ℚ) < (Binary64.magnitudeRatio m e).2 := by
      exact_mod_cast Binary64.scaleDown_den_pos Nat.one_pos _
    rw [hf, ← hm, ← Binary64.magnitudeRatio_ratio, le_div_iff₀ hd]
    have : ((n * (100 * 2 ^ 53 - 49) * (Binary64.magnitudeRatio m e).2 : ℕ) : ℚ) ≤
        ((Binary64.magnitudeRatio m e).1 * 100 * (100 * 2 ^ 53) : ℕ) := by exact_mod_cast covered
    push_cast at this ⊢
    linarith
  · rw [er] at covered
    cases covered

/-- A share that is a whole number is not rounded down by the other weights. -/
lemma exactShare_le_keptUnits (hw : 0 ≤ weight) (hu : 0 ≤ units)
    (small : min weight fullWeight * units < 2 ^ 51) (h : weight ∉ inexactWeights)
    (whole : fullWeight ∣ min weight fullWeight * units) :
    exactShare weight units ≤ keptUnits weight units := by
  have hmin : 0 ≤ min weight fullWeight := le_min hw (by decide)
  rcases hmin.eq_or_lt with hzero | hpos
  · rw [exactShare, ← hzero, Int.zero_mul]
    exact keptUnits_nonneg hw hu
  have units_lt : units < 2 ^ 53 := by
    have := Int.mul_le_mul_of_nonneg_right (show (1 : Int) ≤ min weight fullWeight from hpos) hu
    omega
  obtain ⟨n, hn⟩ : ∃ n : ℕ, exactShare weight units = n :=
    Int.eq_ofNat_of_zero_le (Int.ediv_nonneg (Int.mul_nonneg hmin hu) (by decide))
  have share : (n : ℚ) = fraction weight * units := by
    have e : (n : Int) * fullWeight = min weight fullWeight * units := by
      rw [← hn]
      exact Int.ediv_mul_cancel whole
    rw [fraction_mul, ← e, Int.cast_mul, eq_div_iff (by norm_num)]
    rfl
  have n_lt : n < 2 ^ 53 := by
    have : (n : Int) ≤ min weight fullWeight * units := by
      rw [← hn]
      exact Int.ediv_le_self _ (Int.mul_nonneg hmin hu)
    omega
  rw [hn, keptUnits, nearest_units hu units_lt]
  apply Int.le_floor.2
  refine (Binary64.le_nearest_of_close n_lt ?_).trans_eq' (by norm_num)
  rw [share]
  have nonneg : (0 : ℚ) ≤ units := by exact_mod_cast hu
  have := mul_le_mul_of_nonneg_right (le_nearest_fraction hw h) nonneg
  linarith

/-- The share by a weight is the exact share and a rest. -/
lemma fraction_mul_eq_add (weight units : Int) :
    fraction weight * units =
      exactShare weight units + ((min weight fullWeight * units % fullWeight : Int) : ℚ) / 100 := by
  have division := Int.mul_ediv_add_emod (min weight fullWeight * units) fullWeight
  have cast : ((min weight fullWeight * units : Int) : ℚ) =
      100 * (exactShare weight units : ℚ) + (min weight fullWeight * units % fullWeight : Int) := by
    exact_mod_cast division.symm
  rw [fraction_mul, cast]
  push_cast
  ring

/-- While the numbers are small, at most one unit less than the exact share is kept, and only of a
share that is a whole number. -/
lemma keptUnits_of_small (hw : 0 ≤ weight) (hu : 0 ≤ units)
    (small : min weight fullWeight * units < 2 ^ 51) :
    exactShare weight units - 1 ≤ keptUnits weight units ∧
      keptUnits weight units ≤ exactShare weight units ∧
      (¬ fullWeight ∣ min weight fullWeight * units →
        exactShare weight units ≤ keptUnits weight units) := by
  obtain ⟨lower, upper⟩ := abs_le.1 (abs_share_sub_le hw hu)
  have below : (keptUnits weight units : ℚ) ≤ nearest (nearest (fraction weight) * nearest units) :=
    Int.floor_le _
  have above : nearest (nearest (fraction weight) * nearest units) < keptUnits weight units + 1 :=
    Int.lt_floor_add_one _
  have share := fraction_mul_eq_add weight units
  -- the rounded share is off by less than a percent of a unit
  have tight : fraction weight * units / 2 ^ 51 < 1 / 100 := by
    have : ((min weight fullWeight * units : Int) : ℚ) < 2 ^ 51 := by exact_mod_cast small
    rw [fraction_mul]
    push_cast at this ⊢
    linarith
  have full_pos : 0 < fullWeight := by decide
  have rest_nonneg := Int.emod_nonneg (min weight fullWeight * units) full_pos.ne'
  have rest_lt := Int.emod_lt_of_pos (min weight fullWeight * units) full_pos
  have whole_of_rest := @Int.dvd_of_emod_eq_zero fullWeight (min weight fullWeight * units)
  generalize min weight fullWeight * units % fullWeight = rest at *
  have rest_nonneg' : (0 : ℚ) ≤ rest := by exact_mod_cast rest_nonneg
  have rest_le' : (rest : ℚ) ≤ 99 := by exact_mod_cast Int.lt_add_one_iff.1 rest_lt
  refine ⟨?_, ?_, fun divides => ?_⟩
  · have : (exactShare weight units : ℚ) - 2 < keptUnits weight units := by linarith
    have : exactShare weight units - 2 < keptUnits weight units := by exact_mod_cast this
    omega
  · have : (keptUnits weight units : ℚ) < exactShare weight units + 1 := by linarith
    exact Int.lt_add_one_iff.1 (by exact_mod_cast this)
  · have rest_pos : (1 : ℚ) ≤ rest := by
      have := mt whole_of_rest divides
      exact_mod_cast (show 1 ≤ rest by omega)
    have : (exactShare weight units : ℚ) < keptUnits weight units + 1 := by linarith
    exact Int.lt_add_one_iff.1 (by exact_mod_cast this)

/-- The units that are kept are close to the exact share. -/
lemma keptUnits_approximates (hw : 0 ≤ weight) (hu : 0 ≤ units) :
    Approximates weight units (keptUnits weight units) := by
  refine ⟨?_, fun small => ?_, fun small h => ?_⟩
  · obtain ⟨lower, upper⟩ := abs_le.1 (abs_share_sub_le hw hu)
    have below : (keptUnits weight units : ℚ) ≤
        nearest (nearest (fraction weight) * nearest units) := Int.floor_le _
    have above : nearest (nearest (fraction weight) * nearest units) <
        keptUnits weight units + 1 := Int.lt_floor_add_one _
    rw [abs_le]
    constructor <;> linarith
  · obtain ⟨hl, hle, -⟩ := keptUnits_of_small hw hu small
    omega
  · obtain ⟨-, hle, exact_of_not_dvd⟩ := keptUnits_of_small hw hu small
    refine le_antisymm hle ?_
    by_cases whole : fullWeight ∣ min weight fullWeight * units
    · exact exactShare_le_keptUnits hw hu small (h.resolve_right (not_not.2 whole)) whole
    · exact exact_of_not_dvd whole

/-- Units are too large for a double from half a unit of its last place below its bound on. -/
lemma nearest_units_lt_overflow_iff (hu : 0 ≤ units) :
    nearest units < overflow ↔ units < unitsLimit := by
  have limit : ((2 ^ 53 - 1 / 2) * 2 ^ Binary64.greatestExponent : ℚ) = unitsLimit := by
    have whole : (2 : ℚ) ^ 1024 = 2 ^ 53 * 2 ^ 971 := pow_add 2 53 971
    have half : (2 : ℚ) ^ 971 = 2 * 2 ^ 970 := pow_succ' 2 970
    have exponent : (2 : ℚ) ^ Binary64.greatestExponent = 2 ^ 971 := zpow_natCast 2 971
    rw [unitsLimit, Int.cast_sub, Int.cast_pow, Int.cast_pow, Int.cast_ofNat, exponent, whole, half]
    generalize (2 : ℚ) ^ 970 = p
    ring
  rcases hu.eq_or_lt with rfl | hu
  · have positive : 0 < unitsLimit := sub_pos.2 (pow_lt_pow_right₀ (by decide) (by decide))
    rw [Int.cast_zero, Binary64.nearest_zero]
    exact iff_of_true (Binary64.lt_overflow (by norm_num)) positive
  · have positive : (0 : ℚ) < units := by exact_mod_cast hu
    have order : Binary64.leastExponent < Binary64.greatestExponent := by decide
    rw [overflow, Binary64.nearest_lt_iff order positive, limit, Int.cast_lt]

/-- Each of the weights keeps one unit less than the exact share of some units. -/
lemma exists_inexact (h : weight ∈ inexactWeights) :
    ∃ units, 0 ≤ units ∧ units < unitsLimit ∧ min weight fullWeight * units < 2 ^ 51 ∧
      splitUnits? weight units ≠
        some (max 1 (exactShare weight units), units - exactShare weight units) := by
  have off : ∀ w ∈ inexactWeights, ∃ units ∈ [(50 : Int), 90, 100, 150, 180, 300, 2150, 4300],
      0 ≤ units ∧ units < unitsLimit ∧ min w fullWeight * units < 2 ^ 51 ∧
        splitUnits? w units ≠ some (max 1 (exactShare w units), units - exactShare w units) := by
    decide +kernel
  obtain ⟨units, -, inexact⟩ := off weight h
  exact ⟨units, inexact⟩

/-- Units are split unless they are too large for a double, whatever their sign. -/
lemma splitUnits?_isSome_iff (hw : 0 ≤ weight) :
    (splitUnits? weight units).isSome ↔ |units| < unitsLimit := by
  rw [← nearest_units_lt_overflow_iff (abs_nonneg units), splitUnits?, Option.isSome_map]
  obtain ⟨small, m, e, share, -⟩ | ⟨large, share⟩ := shareOfUnits?_cases hw units
  · rw [share]
    exact iff_of_true rfl small
  · rw [share]
    exact iff_of_false Bool.false_ne_true (not_lt.2 large)

/-- Units that are not too large for a double are split. -/
lemma splitUnits?_of_lt_limit (hw : 0 ≤ weight) (hu : 0 ≤ units) (finite : units < unitsLimit) :
    splitUnits? weight units =
      some (max 1 (keptUnits weight units), units - keptUnits weight units) := by
  rw [splitUnits?_eq hw hu, if_pos ((nearest_units_lt_overflow_iff hu).2 finite)]

/-- Units are split wherever they are not too large for a double, and what is kept of them is close
to the exact share. While the numbers are small the split is exact, but for ten weights. -/
theorem split_approximates (hw : 0 ≤ weight) :
    (∀ units, 0 ≤ units →
      (units < unitsLimit → ∃ kept, 0 ≤ kept ∧
        splitUnits? weight units = some (max 1 kept, units - kept) ∧
        Approximates weight units kept) ∧
      (unitsLimit ≤ units → splitUnits? weight units = none)) ∧
    ((∀ units, 0 ≤ units → units < unitsLimit → min weight fullWeight * units < 2 ^ 51 →
        splitUnits? weight units =
          some (max 1 (exactShare weight units), units - exactShare weight units)) ↔
      weight ∉ inexactWeights) := by
  refine ⟨fun units hu => ⟨fun finite => ?_, fun large => ?_⟩, fun exact inexact => ?_,
    fun h units hu finite small => ?_⟩
  · exact ⟨_, keptUnits_nonneg hw hu, splitUnits?_of_lt_limit hw hu finite,
      keptUnits_approximates hw hu⟩
  · rw [splitUnits?_eq hw hu, if_neg (mt (nearest_units_lt_overflow_iff hu).1 (not_lt.2 large))]
  · obtain ⟨units, hu, finite, small, off⟩ := exists_inexact inexact
    exact off (exact units hu finite small)
  · rw [splitUnits?_of_lt_limit hw hu finite, (keptUnits_approximates hw hu).exact small (.inl h)]

/-- Fifty units are split close to the exact share of 58 percent. -/
theorem fifty_units_split : (0 : Int) ≤ 58 ∧ ∃ kept, 0 ≤ kept ∧
    splitUnits? 58 50 = some (max 1 kept, 50 - kept) ∧ Approximates 58 50 kept := by
  have weight_nonneg : (0 : Int) ≤ 58 := by decide
  have finite : 50 < unitsLimit := by decide +kernel
  exact ⟨weight_nonneg, ((split_approximates weight_nonneg).1 50 (by decide)).1 finite⟩

/-- Of fifty units, 58 percent are 29, but 28 are kept. -/
theorem fifty_units_inexact : exactShare 58 50 = 29 ∧ splitUnits? 58 50 = some (28, 22) ∧
    splitUnits? 58 50 ≠ some (max 1 (exactShare 58 50), 50 - exactShare 58 50) := by
  decide +kernel

end

end Chartwright
