import Mathlib.Algebra.Order.Field.Power
import Mathlib.Data.Int.Log
import Mathlib.Data.Rat.Floor
import Mathlib.Tactic.Positivity
import Mathlib.Tactic.FieldSimp
import Mathlib.Tactic.Linarith
import Mathlib.Tactic.Ring
import Mathlib.Tactic.Lemma
import Chartwright.Number.Binary64

/-!
# Rounding

Doubles as the rational numbers that they are. `nearest` is the double nearest to a number that is
not negative, as a number and with no bound on the exponent: it is monotone, keeps the numbers that
have a mantissa, and is relatively close. What quotients and products are rounded to is stated in
terms of it.
-/

namespace Chartwright.Binary64

/-- A power of two as a quotient. -/
lemma cast_twoPow (n : Nat) : ((twoPow n : Nat) : ℚ) = 2 ^ (n : Int) := by
  rw [zpow_natCast]
  exact Nat.cast_pow 2 n

/-- A power of two as a quotient, with an exponent that is not negative. -/
lemma cast_twoPow_toNat {e : Int} (h : 0 ≤ e) : ((twoPow e.toNat : Nat) : ℚ) = 2 ^ e := by
  rw [cast_twoPow, Int.toNat_of_nonneg h]

/-- A power of two is positive. -/
lemma twoPow_pos (n : Nat) : 0 < twoPow n := Nat.two_pow_pos n

/-- Scaling down keeps the denominator positive. -/
lemma scaleDown_den_pos {num den : Nat} (h : 0 < den) (e : Int) : 0 < (scaleDown num den e).2 := by
  unfold scaleDown
  split
  · exact Nat.mul_pos h (twoPow_pos _)
  · exact h

/-- Scaling down divides by a power of two. -/
lemma scaleDown_ratio (num den : Nat) (e : Int) :
    ((scaleDown num den e).1 : ℚ) / (scaleDown num den e).2 = num / den / 2 ^ e := by
  unfold scaleDown
  split
  case isTrue h =>
    rw [Nat.cast_mul, cast_twoPow_toNat h, div_div]
  case isFalse h =>
    rw [Nat.cast_mul, cast_twoPow_toNat (by omega), zpow_neg, div_eq_mul_inv _ ((2 : ℚ) ^ e)]
    ring

/-- A number lies between the power of two of its binary logarithm and the next one. -/
lemma log2_bounds {n : Nat} (h : 0 < n) :
    (2 : ℚ) ^ (n.log2 : Int) ≤ n ∧ (n : ℚ) < 2 ^ ((n.log2 : Int) + 1) := by
  constructor
  · rw [zpow_natCast]
    exact_mod_cast Nat.log2_self_le h.ne'
  · have := @Nat.lt_log2_self n
    rw [← Nat.cast_succ, zpow_natCast]
    exact_mod_cast this

/-- A quotient lies between the power of two of its binary logarithm and the next one. -/
lemma floorLog2_bounds {num den : Nat} (hn : 0 < num) (hd : 0 < den) :
    (2 : ℚ) ^ floorLog2 num den ≤ num / den ∧ (num : ℚ) / den < 2 ^ (floorLog2 num den + 1) := by
  obtain ⟨n1, n2⟩ := log2_bounds hn
  obtain ⟨d1, d2⟩ := log2_bounds hd
  have hdq : (0 : ℚ) < den := by exact_mod_cast hd
  -- the guess is too large by one at most
  have lower : (2 : ℚ) ^ ((num.log2 : Int) - den.log2 - 1) < num / den := by
    rw [lt_div_iff₀ hdq]
    calc (2 : ℚ) ^ ((num.log2 : Int) - den.log2 - 1) * den
        < 2 ^ ((num.log2 : Int) - den.log2 - 1) * 2 ^ ((den.log2 : Int) + 1) := by gcongr
      _ = 2 ^ (num.log2 : Int) := by rw [← zpow_add₀ two_ne_zero]; congr 1; omega
      _ ≤ num := n1
  have upper : (num : ℚ) / den < 2 ^ ((num.log2 : Int) - den.log2 + 1) := by
    rw [div_lt_iff₀ hdq]
    calc (num : ℚ) < 2 ^ ((num.log2 : Int) + 1) := n2
      _ = 2 ^ ((num.log2 : Int) - den.log2 + 1) * 2 ^ (den.log2 : Int) := by
          rw [← zpow_add₀ two_ne_zero]; congr 1; omega
      _ ≤ 2 ^ ((num.log2 : Int) - den.log2 + 1) * den := by gcongr
  have hs := scaleDown_ratio num den ((num.log2 : Int) - den.log2)
  have hp : (0 : ℚ) < (scaleDown num den ((num.log2 : Int) - den.log2)).2 := by
    exact_mod_cast scaleDown_den_pos hd _
  have h2 : (0 : ℚ) < 2 ^ ((num.log2 : Int) - den.log2) := by positivity
  unfold floorLog2
  simp only
  split
  case isTrue h =>
    refine ⟨lower.le, ?_⟩
    have hq : ((scaleDown num den ((num.log2 : Int) - den.log2)).1 : ℚ) <
      (scaleDown num den ((num.log2 : Int) - den.log2)).2 := by exact_mod_cast h
    rw [← div_lt_one hp, hs, div_lt_one h2] at hq
    simpa using hq
  case isFalse h =>
    refine ⟨?_, upper⟩
    have hq : ((scaleDown num den ((num.log2 : Int) - den.log2)).2 : ℚ) ≤
      (scaleDown num den ((num.log2 : Int) - den.log2)).1 := by exact_mod_cast Nat.le_of_not_lt h
    rwa [← one_le_div hp, hs, one_le_div h2] at hq

/-- The binary logarithm of a quotient. -/
lemma floorLog2_eq_log {num den : Nat} (hn : 0 < num) (hd : 0 < den) :
    floorLog2 num den = Int.log 2 (num / den : ℚ) := by
  have hq : (0 : ℚ) < num / den := by positivity
  obtain ⟨lower, upper⟩ := floorLog2_bounds hn hd
  have hl := (Int.zpow_le_iff_le_log one_lt_two hq).1 (by exact_mod_cast lower)
  have hu := (Int.lt_zpow_iff_log_lt one_lt_two hq).1 (by exact_mod_cast upper)
  omega

/-! ## Integers -/

/-- The integer nearest to a number, a half to the even one. -/
def halfEven (q : ℚ) : ℤ :=
  if 2 * Int.fract q < 1 then ⌊q⌋ else if 1 < 2 * Int.fract q then ⌊q⌋ + 1 else ⌊q⌋ + ⌊q⌋ % 2

/-- A quotient of integers is rounded as a number. -/
lemma roundDiv_eq_halfEven {num den : Nat} (hd : 0 < den) :
    (roundDiv num den : ℤ) = halfEven (num / den) := by
  have hq : (0 : ℚ) < den := by exact_mod_cast hd
  have hfloor : ⌊(num / den : ℚ)⌋ = (num / den : ℕ) := by
    rw [Rat.floor_natCast_div_natCast, Int.natCast_ediv]
  have hfract : 2 * Int.fract (num / den : ℚ) = (2 * (num % den) : ℕ) / den := by
    have hdiv : (num : ℚ) = den * (num / den : ℕ) + (num % den : ℕ) := by
      exact_mod_cast (Nat.div_add_mod num den).symm
    rw [Int.fract, hfloor, Int.cast_natCast, eq_div_iff hq.ne', mul_assoc, sub_mul,
      div_mul_cancel₀ _ hq.ne', Nat.cast_mul, Nat.cast_two]
    linarith
  unfold roundDiv halfEven
  simp only [hfract, hfloor, div_lt_one hq, one_lt_div hq, Nat.cast_lt]
  split
  · rfl
  · split <;> push_cast <;> rfl

/-- Half the distance between two integers is the most that rounding moves a number. -/
lemma abs_halfEven_sub_le (q : ℚ) : |(halfEven q : ℚ) - q| ≤ 1 / 2 := by
  have hfloor := Int.floor_add_fract q
  have h0 := Int.fract_nonneg q
  unfold halfEven
  rw [abs_le]
  split
  case isTrue => constructor <;> linarith
  case isFalse h =>
    split
    case isTrue h' =>
      have h1 := Int.fract_lt_one q
      push_cast
      constructor <;> linarith
    case isFalse h' =>
      rcases Int.emod_two_eq_zero_or_one ⌊q⌋ with e | e <;> rw [e] <;> push_cast <;>
        constructor <;> linarith

/-- An integer is kept. -/
@[simp]
lemma halfEven_intCast (n : ℤ) : halfEven n = n := by
  simp [halfEven]

/-- Rounding to integers is monotone. -/
lemma halfEven_mono {q r : ℚ} (h : q ≤ r) : halfEven q ≤ halfEven r := by
  by_contra hlt
  have hstep : (halfEven r : ℚ) + 1 ≤ halfEven q := by exact_mod_cast Int.not_le.1 hlt
  have hq := abs_le.1 (abs_halfEven_sub_le q)
  have hr := abs_le.1 (abs_halfEven_sub_le r)
  -- both numbers lie in the middle between the two integers, so they are the same number
  obtain rfl : q = r := by linarith
  exact hlt le_rfl

/-- What lies on one side of an integer is rounded to that side of it. -/
lemma halfEven_le {q : ℚ} {n : ℤ} (h : q ≤ n) : halfEven q ≤ n :=
  (halfEven_mono h).trans_eq (halfEven_intCast n)

lemma le_halfEven {q : ℚ} {n : ℤ} (h : n ≤ q) : n ≤ halfEven q :=
  (halfEven_intCast n).symm.trans_le (halfEven_mono h)

/-- The numbers that are rounded to less than an even integer. -/
lemma halfEven_lt_iff {q : ℚ} {n : ℤ} (even : n % 2 = 0) : halfEven q < n ↔ q < n - 1 / 2 := by
  constructor
  · intro h
    by_contra hq
    have middle : halfEven (n - 1 / 2) = n := by
      have hfloor : ⌊(n - 1 / 2 : ℚ)⌋ = n - 1 := by
        rw [Int.floor_eq_iff]
        push_cast
        constructor <;> linarith
      have hfract : 2 * Int.fract (n - 1 / 2 : ℚ) = 1 := by
        rw [Int.fract, hfloor]
        push_cast
        ring
      rw [halfEven, hfract, hfloor, if_neg (lt_irrefl _), if_neg (lt_irrefl _)]
      omega
    exact absurd (halfEven_mono (not_lt.1 hq)) (by omega)
  · intro h
    have near := abs_le.1 (abs_halfEven_sub_le q)
    have : (halfEven q : ℚ) < n := by linarith
    exact_mod_cast this

/-! ## Doubles -/

/-- The exponent of the double nearest to a number, before the mantissa is rounded. -/
def exponentOf (q : ℚ) : ℤ := max leastExponent (Int.log 2 q - 52)

/-- The double nearest to a number that is not negative, as a number; exponents have no upper
bound. -/
def nearest (q : ℚ) : ℚ := halfEven (q / 2 ^ exponentOf q) * 2 ^ exponentOf q

/-- A number is below 53 bits of its exponent. -/
lemma lt_of_exponentOf {q : ℚ} (h : 0 < q) : q < 2 ^ (53 + exponentOf q) := by
  apply (Int.lt_zpow_iff_log_lt one_lt_two h).2
  unfold exponentOf
  omega

/-- A number has all 53 bits of its exponent, unless that is the least one. -/
lemma le_of_exponentOf {q : ℚ} (h : 0 < q) (he : leastExponent < exponentOf q) :
    2 ^ (52 + exponentOf q) ≤ q := by
  apply (Int.zpow_le_iff_le_log one_lt_two h).2
  unfold exponentOf at he ⊢
  omega

/-- A rounded mantissa has 53 bits, or is the next power of two. -/
lemma halfEven_mantissa_le {q : ℚ} (h : 0 < q) : halfEven (q / 2 ^ exponentOf q) ≤ 2 ^ 53 := by
  apply halfEven_le
  rw [div_le_iff₀ (by positivity)]
  refine (lt_of_exponentOf h).le.trans_eq ?_
  rw [zpow_add₀ two_ne_zero]
  norm_cast

/-- All bits of a rounded mantissa are used, but for numbers of the least exponent. -/
lemma le_halfEven_mantissa {q : ℚ} (h : 0 < q) (he : leastExponent < exponentOf q) :
    2 ^ 52 ≤ halfEven (q / 2 ^ exponentOf q) := by
  apply le_halfEven
  rw [le_div_iff₀ (by positivity)]
  refine Eq.trans_le ?_ (le_of_exponentOf h he)
  rw [zpow_add₀ two_ne_zero]
  norm_cast

lemma nearest_le_zpow {q : ℚ} (h : 0 < q) : nearest q ≤ 2 ^ (53 + exponentOf q) := by
  have hm : (halfEven (q / 2 ^ exponentOf q) : ℚ) ≤ 2 ^ (53 : ℤ) := by
    exact_mod_cast halfEven_mantissa_le h
  rw [nearest, zpow_add₀ two_ne_zero]
  gcongr

lemma zpow_le_nearest {q : ℚ} (h : 0 < q) (he : leastExponent < exponentOf q) :
    2 ^ (52 + exponentOf q) ≤ nearest q := by
  have hm : 2 ^ (52 : ℤ) ≤ (halfEven (q / 2 ^ exponentOf q) : ℚ) := by
    exact_mod_cast le_halfEven_mantissa h he
  rw [nearest, zpow_add₀ two_ne_zero]
  gcongr

lemma exponentOf_mono {q r : ℚ} (h : 0 < q) (hqr : q ≤ r) : exponentOf q ≤ exponentOf r := by
  have := Int.log_mono_right (b := 2) h hqr
  unfold exponentOf
  omega

@[simp]
lemma nearest_zero : nearest 0 = 0 := by
  simp [nearest, halfEven]

/-- Rounding is monotone. -/
lemma nearest_mono {q r : ℚ} (h : 0 ≤ q) (hqr : q ≤ r) : nearest q ≤ nearest r := by
  rcases h.eq_or_lt with rfl | hq
  · rw [nearest_zero]
    have : 0 ≤ halfEven (r / 2 ^ exponentOf r) := le_halfEven (by push_cast; positivity)
    unfold nearest
    positivity
  · rcases (exponentOf_mono hq hqr).eq_or_lt with he | he
    · unfold nearest
      rw [he]
      gcongr
      exact halfEven_mono (by gcongr)
    · -- a power of two lies between numbers of different exponents
      have hr : leastExponent < exponentOf r := (le_max_left _ _).trans_lt he
      calc nearest q ≤ 2 ^ (53 + exponentOf q) := nearest_le_zpow hq
        _ ≤ 2 ^ (52 + exponentOf r) := zpow_le_zpow_right₀ one_le_two (by omega)
        _ ≤ nearest r := zpow_le_nearest (hq.trans_le hqr) hr

lemma nearest_nonneg {q : ℚ} (h : 0 ≤ q) : 0 ≤ nearest q :=
  nearest_zero.symm.trans_le (nearest_mono le_rfl h)

/-- A number with a mantissa is a double. -/
lemma nearest_of_mantissa {m : ℕ} {e : ℤ} (hm : m < 2 ^ 53) (he : leastExponent ≤ e) :
    nearest (m * 2 ^ e) = m * 2 ^ e := by
  rcases Nat.eq_zero_or_pos m with rfl | hpos
  · simp
  have hq : (0 : ℚ) < m * 2 ^ e := by positivity
  have hlog : Int.log 2 (m * 2 ^ e : ℚ) < 53 + e := by
    apply (Int.lt_zpow_iff_log_lt one_lt_two hq).1
    have hm' : (m : ℚ) < 2 ^ (53 : ℤ) := by exact_mod_cast hm
    push_cast
    rw [zpow_add₀ two_ne_zero]
    gcongr
  obtain ⟨k, hk⟩ : ∃ k : ℕ, e = exponentOf (m * 2 ^ e) + k := by
    refine ⟨(e - exponentOf (m * 2 ^ e)).toNat, ?_⟩
    unfold exponentOf
    omega
  have hint : (m * 2 ^ e / 2 ^ exponentOf (m * 2 ^ e) : ℚ) = ((m * 2 ^ k : ℤ) : ℚ) := by
    rw [div_eq_iff (by positivity)]
    push_cast
    rw [mul_assoc, ← zpow_natCast, ← zpow_add₀ two_ne_zero, add_comm (k : ℤ), ← hk]
  rw [nearest, hint, halfEven_intCast, ← hint, div_mul_cancel₀ _ (by positivity)]

/-- A double is kept. -/
@[simp]
lemma nearest_nearest {q : ℚ} (h : 0 ≤ q) : nearest (nearest q) = nearest q := by
  rcases h.eq_or_lt with rfl | hq
  · simp
  obtain ⟨m, hm⟩ : ∃ m : ℕ, halfEven (q / 2 ^ exponentOf q) = m :=
    Int.eq_ofNat_of_zero_le (le_halfEven (by push_cast; positivity))
  have he : leastExponent ≤ exponentOf q := le_max_left _ _
  have hv : nearest q = m * 2 ^ exponentOf q := by rw [nearest, hm, Int.cast_natCast]
  have hle : m ≤ 2 ^ 53 := by
    have := halfEven_mantissa_le hq
    rw [hm] at this
    exact_mod_cast this
  rcases hle.eq_or_lt with rfl | hlt
  · -- the mantissa is a carry into the next power of two
    have hc : nearest q = ((2 ^ 52 : ℕ) : ℚ) * 2 ^ (exponentOf q + 1) := by
      rw [hv, zpow_add₀ two_ne_zero]
      push_cast
      ring
    rw [hc, nearest_of_mantissa (by norm_num) (by omega)]
  · rw [hv, nearest_of_mantissa hlt he]

/-- An integer of 53 bits is a double. -/
lemma nearest_natCast {m : ℕ} (hm : m < 2 ^ 53) : nearest m = m := by
  simpa using nearest_of_mantissa (e := 0) hm (by decide)

/-- A number that is not too small is rounded to one that is relatively close. -/
lemma nearest_close {q : ℚ} (h : 2 ^ (-1022 : ℤ) ≤ q) :
    q * (1 - 1 / 2 ^ 53) ≤ nearest q ∧ nearest q ≤ q * (1 + 1 / 2 ^ 53) := by
  have hq : 0 < q := lt_of_lt_of_le (by positivity) h
  have hlog : -1022 ≤ Int.log 2 q := (Int.zpow_le_iff_le_log one_lt_two hq).1 (by exact_mod_cast h)
  have he : exponentOf q + 52 = Int.log 2 q := by
    unfold exponentOf leastExponent
    omega
  have hp : (0 : ℚ) < 2 ^ exponentOf q := by positivity
  have hle : (2 : ℚ) ^ (exponentOf q + 52) ≤ q := by
    rw [he]
    exact_mod_cast Int.zpow_log_le_self one_lt_two hq
  have hd : nearest q - q =
      (halfEven (q / 2 ^ exponentOf q) - q / 2 ^ exponentOf q) * 2 ^ exponentOf q := by
    rw [nearest, sub_mul, div_mul_cancel₀ _ hp.ne']
  have near : |nearest q - q| ≤ q / 2 ^ 53 := by
    calc |nearest q - q|
        = |(halfEven (q / 2 ^ exponentOf q) : ℚ) - q / 2 ^ exponentOf q| * 2 ^ exponentOf q := by
          rw [hd, abs_mul, abs_of_pos hp]
      _ ≤ 1 / 2 * 2 ^ exponentOf q := by gcongr; exact abs_halfEven_sub_le _
      _ = 2 ^ (exponentOf q + 52) / 2 ^ 53 := by
          rw [zpow_add₀ two_ne_zero]
          ring
      _ ≤ q / 2 ^ 53 := by gcongr
  obtain ⟨lower, upper⟩ := abs_le.1 near
  constructor <;> linarith

/-- A number that is below a small integer by less than half a unit of the last place is rounded to
that integer. -/
lemma le_nearest_of_close {n : ℕ} (hn : n < 2 ^ 53) {q : ℚ} (h : n - n * (49 / 100) / 2 ^ 53 ≤ q) :
    n ≤ nearest q := by
  rcases Nat.eq_zero_or_pos n with rfl | hpos
  · have hq : 0 ≤ q := by simpa using h
    exact_mod_cast nearest_nonneg hq
  generalize hr : (n - n * (49 / 100) / 2 ^ 53 : ℚ) = r at h
  have hn1 : (1 : ℚ) ≤ n := by exact_mod_cast hpos
  have hr0 : 0 < r := by linarith
  have hrn : r ≤ n := by linarith
  refine le_trans ?_ (nearest_mono hr0.le h)
  -- in units of the last place of the number, the integer is one as well
  have hp : (0 : ℚ) < 2 ^ exponentOf r := by positivity
  have he : exponentOf r ≤ 0 := by
    have hlog : Int.log 2 (n : ℚ) < 53 := by
      apply (Int.lt_zpow_iff_log_lt one_lt_two (by positivity)).1
      exact_mod_cast hn
    have := exponentOf_mono hr0 hrn
    unfold exponentOf leastExponent at *
    omega
  obtain ⟨k, hk⟩ : ∃ k : ℕ, exponentOf r + k = 0 := ⟨(-exponentOf r).toNat, by omega⟩
  have hunit : (n : ℚ) = (n * 2 ^ k : ℕ) * 2 ^ exponentOf r := by
    push_cast
    rw [mul_assoc, ← zpow_natCast, ← zpow_add₀ two_ne_zero, add_comm, hk, zpow_zero, mul_one]
  generalize n * 2 ^ k = N at hunit
  have hrN : r / 2 ^ exponentOf r = N - N * (49 / 100) / 2 ^ 53 := by
    rw [div_eq_iff hp.ne']
    calc r = n - n * (49 / 100) / 2 ^ 53 := hr.symm
      _ = (N - N * (49 / 100) / 2 ^ 53) * 2 ^ exponentOf r := by
        rw [hunit]
        ring
  have hle : N ≤ 2 ^ 53 := by
    have upper : r / 2 ^ exponentOf r - 1 / 2 ≤ (2 ^ 53 : ℤ) := by
      have near := abs_le.1 (abs_halfEven_sub_le (r / 2 ^ exponentOf r))
      have bound : (halfEven (r / 2 ^ exponentOf r) : ℚ) ≤ (2 ^ 53 : ℤ) := by
        exact_mod_cast halfEven_mantissa_le hr0
      linarith
    rw [hrN] at upper
    have : (N : ℚ) < (2 ^ 53 + 1 : ℕ) := by
      push_cast at upper ⊢
      linarith
    exact Nat.lt_succ_iff.1 (by exact_mod_cast this)
  have hround : (N : ℤ) ≤ halfEven (r / 2 ^ exponentOf r) := by
    have near := abs_le.1 (abs_halfEven_sub_le (r / 2 ^ exponentOf r))
    have hle' : (N : ℚ) ≤ 2 ^ 53 := by exact_mod_cast hle
    have : (N : ℚ) - 1 < halfEven (r / 2 ^ exponentOf r) := by
      rw [hrN] at near ⊢
      linarith
    have : (N : ℤ) - 1 < halfEven (r / 2 ^ exponentOf r) := by exact_mod_cast this
    omega
  rw [hunit, nearest]
  gcongr
  exact_mod_cast hround

/-- Numbers are rounded up to a power of two from half a unit of the last place below it on. -/
lemma nearest_lt_iff {g : ℤ} (hg : leastExponent < g) {q : ℚ} (h : 0 < q) :
    nearest q < 2 ^ (53 + g) ↔ q < (2 ^ 53 - 1 / 2) * 2 ^ g := by
  have hp : (0 : ℚ) < 2 ^ g := by positivity
  have bound : (2 : ℚ) ^ (53 + g) = 2 ^ 53 * 2 ^ g := by
    rw [zpow_add₀ two_ne_zero]
    norm_cast
  rcases lt_trichotomy (exponentOf q) g with he | he | he
  · -- a number of a smaller exponent is not above half of the bound
    have half : (2 : ℚ) ^ (53 + exponentOf q) ≤ 2 ^ 52 * 2 ^ g := by
      calc (2 : ℚ) ^ (53 + exponentOf q) ≤ 2 ^ (52 + g) := zpow_le_zpow_right₀ one_le_two (by omega)
        _ = 2 ^ 52 * 2 ^ g := by
          rw [zpow_add₀ two_ne_zero]
          norm_cast
    have rounded := nearest_le_zpow h
    have number := lt_of_exponentOf h
    rw [bound]
    exact iff_of_true (by linarith) (by linarith)
  · have even : (2 ^ 53 : ℤ) % 2 = 0 := by decide
    have rounded := halfEven_lt_iff (q := q / 2 ^ g) even
    rw [← Int.cast_lt (R := ℚ), div_lt_iff₀ hp] at rounded
    push_cast at rounded
    rwa [bound, nearest, he, mul_lt_mul_iff_left₀ hp]
  · have whole : (2 : ℚ) ^ 53 * 2 ^ g ≤ 2 ^ (52 + exponentOf q) := by
      rw [← bound]
      exact zpow_le_zpow_right₀ one_le_two (by omega)
    have rounded := zpow_le_nearest h (hg.trans he)
    have number := le_of_exponentOf h (hg.trans he)
    rw [bound]
    exact iff_of_false (by linarith) (by linarith)

/-- The bound of finite doubles. -/
def overflow : ℚ := 2 ^ (53 + greatestExponent)

/-- Numbers of 53 bits are below the bound. -/
lemma lt_overflow {q : ℚ} (h : q < 2 ^ 53) : q < overflow :=
  h.trans_le (zpow_le_zpow_right₀ (m := 53) one_le_two (by decide))

/-! ## Operations -/

/-- The mantissa of the nearest double, which may have to be carried into the next power of two. -/
lemma roundDiv_scaleDown {num den : Nat} (hn : 0 < num) (hd : 0 < den) {m : Nat}
    (hm : roundDiv (scaleDown num den (exponentOf (num / den))).1
      (scaleDown num den (exponentOf (num / den))).2 = m) :
    (m : ℚ) * 2 ^ exponentOf (num / den) = nearest (num / den) ∧ m ≤ 2 ^ 53 ∧
      (leastExponent < exponentOf (num / den) → 2 ^ 52 ≤ m) := by
  have hq : (0 : ℚ) < num / den := by positivity
  have value : halfEven (num / den / 2 ^ exponentOf (num / den)) = (m : ℤ) := by
    rw [← hm, ← scaleDown_ratio, ← roundDiv_eq_halfEven (scaleDown_den_pos hd _)]
  refine ⟨by rw [nearest, value, Int.cast_natCast], ?_, fun hl => ?_⟩
  · have upper := halfEven_mantissa_le hq
    rw [value] at upper
    exact_mod_cast upper
  · have lower := le_halfEven_mantissa hq hl
    rw [value] at lower
    exact_mod_cast lower

/-- A number whose mantissa has all its bits is below the powers of two that its exponent says. -/
lemma lt_zpow_iff_exponent_le {m : ℕ} {e g : ℤ} (hm : m < 2 ^ 53) (hl : g < e → 2 ^ 52 ≤ m) :
    (m : ℚ) * 2 ^ e < 2 ^ (53 + g) ↔ e ≤ g := by
  constructor
  · intro h
    by_contra he
    have hm' : (2 : ℚ) ^ (52 : ℤ) ≤ m := by exact_mod_cast hl (Int.not_le.1 he)
    refine absurd h (not_lt.2 ?_)
    calc (2 : ℚ) ^ (53 + g) ≤ 2 ^ (52 + e) := zpow_le_zpow_right₀ one_le_two (by omega)
      _ = 2 ^ (52 : ℤ) * 2 ^ e := zpow_add₀ two_ne_zero _ _
      _ ≤ m * 2 ^ e := by gcongr
  · intro he
    have hm' : (m : ℚ) < 2 ^ (53 : ℤ) := by exact_mod_cast hm
    calc (m : ℚ) * 2 ^ e < 2 ^ (53 : ℤ) * 2 ^ e := by gcongr
      _ = 2 ^ (53 + e) := (zpow_add₀ two_ne_zero 53 e).symm
      _ ≤ 2 ^ (53 + g) := zpow_le_zpow_right₀ one_le_two (by omega)

/-- A quotient is rounded to the nearest double, or to an infinity if that is too large. -/
lemma ofRatio_cases (negative : Bool) (num : Nat) {den : Nat} (hd : 0 < den) :
    (nearest (num / den) < overflow ∧ ∃ m e, ofRatio negative num den = .finite negative m e ∧
      (m : ℚ) * 2 ^ e = nearest (num / den)) ∨
    (overflow ≤ nearest (num / den) ∧ ofRatio negative num den = .infinite negative) := by
  unfold ofRatio
  split
  case isTrue hn =>
    subst hn
    rw [Nat.cast_zero, zero_div, nearest_zero]
    exact .inl ⟨by unfold overflow; positivity, 0, _, rfl, by simp⟩
  case isFalse hn =>
    have hn := Nat.pos_of_ne_zero hn
    simp only [floorLog2_eq_log hn hd]
    rw [show max leastExponent (Int.log 2 (num / den : ℚ) - 52) = exponentOf (num / den) from rfl]
    generalize hm : roundDiv _ _ = m
    obtain ⟨hv, hle, hl⟩ := roundDiv_scaleDown hn hd hm
    generalize exponentOf (num / den) = e at hv hl
    rw [← hv]
    -- the mantissa and the exponent, with the carry into the next power of two
    obtain ⟨m', e', pair, hv', hm', hl'⟩ : ∃ m' e',
        (if m = twoPow 53 then (twoPow 52, e + 1) else (m, e)) = (m', e') ∧
          (m' : ℚ) * 2 ^ e' = m * 2 ^ e ∧ m' < 2 ^ 53 ∧ (leastExponent < e' → 2 ^ 52 ≤ m') := by
      by_cases hc : m = twoPow 53
      · refine ⟨_, _, if_pos hc, ?_, by decide, fun _ => le_rfl⟩
        rw [hc, cast_twoPow, cast_twoPow, ← zpow_add₀ two_ne_zero, ← zpow_add₀ two_ne_zero]
        congr 1
        push_cast
        omega
      · exact ⟨_, _, if_neg hc, rfl, lt_of_le_of_ne hle hc, hl⟩
    rw [pair, ← hv']
    have order : leastExponent < greatestExponent := by decide
    have bound := lt_zpow_iff_exponent_le hm' fun h => hl' (order.trans h)
    by_cases he : e' ≤ greatestExponent
    · exact .inl ⟨bound.2 he, m', e', if_neg (by simpa using he), rfl⟩
    · exact .inr ⟨not_lt.1 (mt bound.1 he), if_pos (by simpa using he)⟩

/-- A finite magnitude as a quotient. -/
lemma magnitudeRatio_ratio (m : Nat) (e : Int) :
    ((magnitudeRatio m e).1 : ℚ) / (magnitudeRatio m e).2 = m * 2 ^ e := by
  rw [magnitudeRatio, scaleDown_ratio, zpow_neg, Nat.cast_one, div_one, div_inv_eq_mul]

/-- The product of two doubles is rounded once. -/
lemma mul_finite (s s' : Bool) {m m' : Nat} {e e' : Int} {q r : ℚ} (hq : (m : ℚ) * 2 ^ e = q)
    (hr : (m' : ℚ) * 2 ^ e' = r) (h : nearest (q * r) < overflow) :
    ∃ n i, mul (.finite s m e) (.finite s' m' e') = .finite (s != s') n i ∧
      (n : ℚ) * 2 ^ i = nearest (q * r) := by
  have hd : 0 < (magnitudeRatio (m * m') (e + e')).2 := scaleDown_den_pos Nat.one_pos _
  have hp : ((magnitudeRatio (m * m') (e + e')).1 : ℚ) / (magnitudeRatio (m * m') (e + e')).2 =
      q * r := by
    rw [magnitudeRatio_ratio, zpow_add₀ two_ne_zero, ← hq, ← hr]
    push_cast
    ring
  rcases ofRatio_cases (s != s') _ hd with ⟨-, finite⟩ | ⟨large, -⟩
  · rw [hp] at finite
    exact finite
  · rw [hp] at large
    exact absurd h (not_lt.2 large)

/-- A double that is not negative is rounded down. -/
lemma floor?_finite (m : Nat) (e : Int) :
    floor? (.finite false m e) = some ⌊(m * 2 ^ e : ℚ)⌋ := by
  rw [← magnitudeRatio_ratio, Rat.floor_natCast_div_natCast]
  simp only [floor?, Bool.false_eq_true, if_false]
  rw [Int.fdiv_eq_ediv_of_nonneg _ (Int.natCast_nonneg _)]

end Chartwright.Binary64
