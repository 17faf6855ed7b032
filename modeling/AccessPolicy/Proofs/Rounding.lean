import AccessPolicy.Number.Shortest
import Mathlib.Algebra.Order.Field.Power
import Mathlib.Tactic.FieldSimp
import Mathlib.Tactic.Linarith
import Mathlib.Tactic.NormNum
import Mathlib.Tactic.Positivity
import Mathlib.Tactic.Ring

/-! Rounding by value. A ratio within the interval of a datum is rounded to this datum, and so is a
decimal. -/

namespace AccessPolicy.Number

/-- A power whose exponent may be negative, as it is formed of naturals. -/
theorem zpow_eq_div {base : ℚ} (nonzero : base ≠ 0) (exponent : ℤ) :
    base ^ exponent = base ^ exponent.toNat / base ^ (-exponent).toNat := by
  rw [← zpow_natCast, ← zpow_natCast, ← zpow_sub₀ nonzero]
  congr 1
  omega

/-- A number lies between the powers of ten that its digits count. -/
theorem exists_width {n : ℕ} (nonzero : n ≠ 0) : ∃ width,
    (Nat.toDigits 10 n).length = width + 1 ∧ 10 ^ width ≤ n ∧ n < 10 ^ (width + 1) := by
  obtain ⟨width, width_eq⟩ : ∃ width, (Nat.toDigits 10 n).length = width + 1 :=
    Nat.exists_eq_succ_of_ne_zero (List.length_pos_of_ne_nil Nat.toDigits_ne_nil).ne'
  refine ⟨width, width_eq, ?_,
    (Nat.length_toDigits_le_iff (by decide) width.succ_pos).mp width_eq.le⟩
  rcases width.eq_zero_or_pos with rfl | positive
  · exact Nat.one_le_iff_ne_zero.mpr nonzero
  · have long : ¬ (Nat.toDigits 10 n).length ≤ width := by omega
    exact not_lt.mp (mt (Nat.length_toDigits_le_iff (by decide) positive).mpr long)

namespace Ratio

def value (r : Ratio) : ℚ := r.num / r.den

theorem value_scaled (num base : ℕ) (positive : base ≠ 0) (power : ℤ) :
    (scaled num base power).value = num * (base : ℚ) ^ power := by
  have nonzero : (base : ℚ) ≠ 0 := Nat.cast_ne_zero.mpr positive
  rw [zpow_eq_div nonzero]
  unfold scaled value
  split
  · rename_i up
    simp [Int.toNat_of_nonpos (Int.neg_nonpos_of_nonneg up)]
  · rename_i down
    simp [Int.toNat_of_nonpos (Int.le_of_not_le down), div_eq_mul_inv]

theorem den_scaled_pos (num : ℕ) {base : ℕ} (positive : 0 < base) (power : ℤ) :
    0 < (scaled num base power).den := by
  unfold scaled
  split
  · exact Nat.one_pos
  · exact Nat.pow_pos positive

theorem le_iff {r s : Ratio} (positive : 0 < r.den) (positive' : 0 < s.den) :
    r.le s ↔ r.value ≤ s.value := by
  have : (0 : ℚ) < r.den := Nat.cast_pos.mpr positive
  have : (0 : ℚ) < s.den := Nat.cast_pos.mpr positive'
  rw [Ratio.le, decide_eq_true_eq, value, value, div_le_div_iff₀ ‹_› ‹_›]
  exact_mod_cast Iff.rfl

end Ratio

namespace Interval

structure Holds (interval : Interval) (value : ℚ) : Prop where
  low : interval.low.value ≤ value
  high : value ≤ interval.high.value
  inside : interval.closed = false → interval.low.value < value ∧ value < interval.high.value

theorem contains_iff {interval : Interval} (low : 0 < interval.low.den)
    (high : 0 < interval.high.den) {r : Ratio} (positive : 0 < r.den) :
    interval.contains r ↔ interval.Holds r.value := by
  have lows := Ratio.le_iff low positive
  have highs := Ratio.le_iff positive high
  have below := Ratio.le_iff positive low
  have above := Ratio.le_iff high positive
  unfold contains
  cases closed : interval.closed with
  | true =>
    rw [if_pos rfl, Bool.and_eq_true, lows, highs]
    exact ⟨fun ⟨l, h⟩ => ⟨l, h, by simp [closed]⟩, fun holds => ⟨holds.low, holds.high⟩⟩
  | false =>
    rw [if_neg Bool.false_ne_true, Bool.and_eq_true, Bool.not_eq_true', Bool.not_eq_true',
      ← Bool.not_eq_true, ← Bool.not_eq_true, below, above, not_le, not_le]
    exact ⟨fun ⟨l, h⟩ => ⟨l.le, h.le, fun _ => ⟨l, h⟩⟩, fun holds => holds.inside closed⟩

end Interval

namespace Binary64

theorem reaches_iff {num den : ℕ} (positive : 0 < den) {k : ℤ} :
    reaches num den k ↔ (2 : ℚ) ^ k ≤ num / den := by
  have : (0 : ℚ) < den := Nat.cast_pos.mpr positive
  rw [reaches, decide_eq_true_eq, zpow_eq_div two_ne_zero, div_le_div_iff₀ (by positivity) this,
    Nat.pow_eq, Nat.pow_eq, mul_comm den]
  exact_mod_cast Iff.rfl

/-- The exponent is the one under which the value has 53 bits, or the least. -/
theorem exponentOf_eq {num den : ℕ} (num_ne : num ≠ 0) (den_ne : den ≠ 0) {exponent : ℤ}
    (least : leastExponent ≤ exponent) (below : (num / den : ℚ) < 2 ^ (exponent + 53))
    (above : exponent = leastExponent ∨ (2 : ℚ) ^ (exponent + 52) ≤ num / den) :
    exponentOf num den = exponent := by
  have positive := Nat.pos_of_ne_zero den_ne
  have low : (2 : ℚ) ^ binaryExponent num den ≤ num / den :=
    (reaches_iff positive).mp (reaches_binaryExponent num_ne)
  have high : ¬ (2 : ℚ) ^ (binaryExponent num den + 1) ≤ num / den :=
    mt (reaches_iff positive).mpr (not_reaches_binaryExponent den_ne)
  have most : binaryExponent num den < exponent + 53 :=
    (zpow_lt_zpow_iff_right₀ one_lt_two).mp (low.trans_lt below)
  unfold exponentOf
  rcases above with rfl | above
  · omega
  · have enough : exponent + 52 < binaryExponent num den + 1 :=
      (zpow_lt_zpow_iff_right₀ one_lt_two).mp (above.trans_lt (not_le.mp high))
    omega

/-- The nearest quotient is no farther than a half, and an even one if it is as far. -/
theorem nearestQuotient_near {num den : ℕ} (positive : 0 < den) :
    |(nearestQuotient num den : ℚ) - num / den| ≤ 1 / 2 ∧
      (|(nearestQuotient num den : ℚ) - num / den| = 1 / 2 → nearestQuotient num den % 2 = 0) := by
  have den_pos : (0 : ℚ) < den := Nat.cast_pos.mpr positive
  set floor := num / den with floor_eq
  set rest := num % den with rest_eq
  have value : (num / den : ℚ) = floor + rest / den := by
    rw [div_eq_iff den_pos.ne', add_mul, div_mul_cancel₀ _ den_pos.ne']
    exact_mod_cast (Nat.div_add_mod' num den).symm
  have rest_lt : (rest / den : ℚ) < 1 := by
    rw [div_lt_one den_pos]
    exact_mod_cast Nat.mod_lt num positive
  have rest_nonneg : (0 : ℚ) ≤ rest / den := by positivity
  have above : den < 2 * rest ↔ (1 / 2 : ℚ) < rest / den := by
    rw [div_lt_div_iff₀ two_pos den_pos, one_mul, mul_comm (rest : ℚ)]
    exact_mod_cast Iff.rfl
  have half : 2 * rest = den ↔ (rest / den : ℚ) = 1 / 2 := by
    rw [div_eq_div_iff den_pos.ne' two_ne_zero, one_mul, mul_comm (rest : ℚ)]
    exact_mod_cast Iff.rfl
  simp only [nearestQuotient, ← floor_eq, ← rest_eq, above, half, value]
  split
  · rename_i up
    have far : (1 / 2 : ℚ) ≤ rest / den := up.elim le_of_lt fun tie => tie.1.ge
    have distance : |((floor + 1 : ℕ) : ℚ) - (floor + rest / den)| = 1 - rest / den := by
      rw [abs_of_nonneg] <;> push_cast <;> linarith
    rw [distance]
    refine ⟨by linarith, fun tie => ?_⟩
    obtain more | ⟨-, odd⟩ := up
    · linarith
    · omega
  · rename_i down
    obtain ⟨near, even⟩ := not_or.mp down
    have distance : |(floor : ℚ) - (floor + rest / den)| = rest / den := by
      rw [sub_add_cancel_left, abs_neg, abs_of_nonneg rest_nonneg]
    rw [distance]
    refine ⟨not_lt.mp near, fun tie => ?_⟩
    have := not_and.mp even tie
    omega

theorem nearestQuotient_eq {num den quotient : ℕ} (positive : 0 < den)
    (low : (quotient : ℚ) - 1 / 2 ≤ num / den) (high : (num / den : ℚ) ≤ quotient + 1 / 2)
    (inside : quotient % 2 = 1 →
      (quotient : ℚ) - 1 / 2 < num / den ∧ (num / den : ℚ) < quotient + 1 / 2) :
    nearestQuotient num den = quotient := by
  obtain ⟨near, even⟩ := @nearestQuotient_near num den positive
  obtain ⟨below, above⟩ := abs_le.mp near
  set nearest := nearestQuotient num den
  have least : quotient ≤ nearest + 1 := by
    have : (quotient : ℚ) ≤ nearest + 1 := by linarith
    exact_mod_cast this
  have most : nearest ≤ quotient + 1 := by
    have : (nearest : ℚ) ≤ quotient + 1 := by linarith
    exact_mod_cast this
  -- Of two quotients that are as far as a half one is odd.
  by_contra other
  obtain next | next : nearest = quotient + 1 ∨ quotient = nearest + 1 := by omega
  · have apart : (nearest : ℚ) = quotient + 1 := by exact_mod_cast next
    have tie := even (by rw [abs_of_nonneg] <;> linarith)
    linarith [(inside (by omega)).2]
  · have apart : (quotient : ℚ) = nearest + 1 := by exact_mod_cast next
    have tie := even (by rw [abs_of_nonpos] <;> linarith)
    linarith [(inside (by omega)).1]

theorem significandAt_eq {num den significand : ℕ} (den_ne : den ≠ 0) {exponent : ℤ}
    (low : (significand - 1 / 2 : ℚ) * 2 ^ exponent ≤ num / den)
    (high : (num / den : ℚ) ≤ (significand + 1 / 2) * 2 ^ exponent)
    (inside : significand % 2 = 1 → (significand - 1 / 2 : ℚ) * 2 ^ exponent < num / den ∧
      (num / den : ℚ) < (significand + 1 / 2) * 2 ^ exponent) :
    significandAt num den exponent = significand := by
  have unit : (0 : ℚ) < 2 ^ exponent := by positivity
  have scaled : ((num * Nat.pow 2 (-exponent).toNat : ℕ) / (den * Nat.pow 2 exponent.toNat : ℕ) : ℚ) =
      num / den / 2 ^ exponent := by
    rw [zpow_eq_div two_ne_zero]
    push_cast [Nat.pow_eq]
    field_simp
  refine nearestQuotient_eq (Nat.mul_pos (Nat.pos_of_ne_zero den_ne) (Nat.two_pow_pos _)) ?_ ?_ ?_
  · rwa [scaled, le_div_iff₀ unit]
  · rwa [scaled, div_le_iff₀ unit]
  · rwa [scaled, lt_div_iff₀ unit, div_lt_iff₀ unit]

/-- How far below a datum its interval goes, in quarters of its last bit. -/
theorem low_intervalOf {significand : ℕ} (nonzero : significand ≠ 0) (exponent : ℤ) :
    (intervalOf significand exponent).low.value =
      (if significand = 2 ^ 52 ∧ leastExponent < exponent then significand - 1 / 4 else
        significand - 1 / 2 : ℚ) * 2 ^ exponent := by
  have quarter : (2 : ℚ) ^ (exponent - 2) = 2 ^ exponent / 4 := by
    rw [zpow_sub₀ two_ne_zero]
    norm_num
  unfold intervalOf
  simp only [Nat.pow_eq]
  rw [Ratio.value_scaled _ _ two_ne_zero, Nat.cast_ofNat, quarter]
  split <;> rw [Nat.cast_sub (by omega)] <;> push_cast <;> ring

theorem high_intervalOf (significand : ℕ) (exponent : ℤ) :
    (intervalOf significand exponent).high.value = (significand + 1 / 2 : ℚ) * 2 ^ exponent := by
  have quarter : (2 : ℚ) ^ (exponent - 2) = 2 ^ exponent / 4 := by
    rw [zpow_sub₀ two_ne_zero]
    norm_num
  unfold intervalOf
  simp only
  rw [Ratio.value_scaled _ _ two_ne_zero, Nat.cast_ofNat, quarter]
  push_cast
  ring

theorem low_intervalOf_le {significand : ℕ} (nonzero : significand ≠ 0) (exponent : ℤ) :
    (significand - 1 / 2 : ℚ) * 2 ^ exponent ≤ (intervalOf significand exponent).low.value := by
  rw [low_intervalOf nonzero]
  refine mul_le_mul_of_nonneg_right ?_ (by positivity)
  split
  · linarith
  · exact le_rfl

/-- Below a power of two there are more data than above it, so that the datum of a ratio that is
rounded up to the power comes from a significand that is halved. -/
theorem eq_of_lt_full {significand : ℕ} {exponent : ℤ} (canonical : IsCanonical significand exponent)
    {value : ℚ} (low : (intervalOf significand exponent).low.value ≤ value)
    (more : exponent ≠ leastExponent) (below : value < 2 ^ 52 * 2 ^ exponent) :
    significand = 2 ^ 52 := by
  have full : 2 ^ 52 ≤ significand := canonical.full.resolve_left more
  by_contra other
  have nonzero : significand ≠ 0 := by omega
  have bound : (2 ^ 52 : ℚ) ≤ significand - 1 / 2 := by
    have : (2 ^ 52 + 1 : ℚ) ≤ significand := by exact_mod_cast Nat.lt_of_le_of_ne full (Ne.symm other)
    linarith
  have := (low_intervalOf_le nonzero exponent).trans low
  have := mul_le_mul_of_nonneg_right bound (show (0 : ℚ) ≤ 2 ^ exponent by positivity)
  linarith

section Ratio

variable (negative : Bool) {significand num den : ℕ} {exponent : ℤ}

/-- The exponent of the datum is found, and its significand. -/
theorem ofRatio_of_full (canonical : IsCanonical significand exponent) (nonzero : significand ≠ 0)
    (num_ne : num ≠ 0) (den_ne : den ≠ 0)
    (holds : (intervalOf significand exponent).Holds (num / den))
    (full : exponent = leastExponent ∨ (2 ^ 52 * 2 ^ exponent : ℚ) ≤ num / den) :
    ofRatio negative num den = .finite negative significand exponent canonical := by
  have unit : (0 : ℚ) < 2 ^ exponent := by positivity
  have high := high_intervalOf significand exponent ▸ holds.high
  have bits : (significand : ℚ) + 1 ≤ 2 ^ 53 := by exact_mod_cast canonical.bits
  have exponents : exponentOf num den = exponent := by
    refine exponentOf_eq num_ne den_ne canonical.least ?_ ?_
    · have most := mul_lt_mul_of_pos_right (show (significand + 1 / 2 : ℚ) < 2 ^ 53 by linarith) unit
      rw [zpow_add₀ two_ne_zero, mul_comm]
      exact high.trans_lt most
    · rw [zpow_add₀ two_ne_zero, mul_comm]
      exact full
  have significands : significandAt num den exponent = significand := by
    refine significandAt_eq den_ne ((low_intervalOf_le nonzero exponent).trans holds.low) high
      fun odd => ?_
    have strict := holds.inside (by simp [intervalOf, odd])
    rw [high_intervalOf] at strict
    exact ⟨(low_intervalOf_le nonzero exponent).trans_lt strict.1, strict.2⟩
  rw [ofRatio, dif_neg (not_or.mpr ⟨num_ne, den_ne⟩)]
  simp only [exponents, significands, Binary64.canonical, canonical.bits, canonical.greatest, dif_pos]

/-- The exponent that is found is one less than that of the datum, and the significand is rounded up
to a power of two. -/
theorem ofRatio_of_halved (canonical : IsCanonical significand exponent) (num_ne : num ≠ 0)
    (den_ne : den ≠ 0) (holds : (intervalOf significand exponent).Holds (num / den))
    (more : exponent ≠ leastExponent) (below : (num / den : ℚ) < 2 ^ 52 * 2 ^ exponent) :
    ofRatio negative num den = .finite negative significand exponent canonical := by
  obtain rfl := eq_of_lt_full canonical holds.low more below
  have less : leastExponent < exponent := lt_of_le_of_ne canonical.least (Ne.symm more)
  have close : (2 ^ 52 - 1 / 4 : ℚ) * 2 ^ exponent ≤ num / den := by
    have low := holds.low
    rwa [low_intervalOf (by decide), if_pos ⟨rfl, less⟩, Nat.cast_pow, Nat.cast_ofNat] at low
  have half : (2 : ℚ) ^ (exponent - 1) = 2 ^ exponent / 2 := by
    rw [zpow_sub₀ two_ne_zero, zpow_one]
  have exponents : exponentOf num den = exponent - 1 := by
    refine exponentOf_eq num_ne den_ne (by omega) ?_ (.inr ?_)
    all_goals
      rw [zpow_add₀ two_ne_zero, half]
      norm_num
      linarith
  have significands : significandAt num den (exponent - 1) = 2 ^ 53 := by
    refine significandAt_eq den_ne ?_ ?_ fun odd => absurd odd (by decide)
    all_goals
      rw [half]
      push_cast
      linarith
  rw [ofRatio, dif_neg (not_or.mpr ⟨num_ne, den_ne⟩)]
  simp [exponents, significands, Binary64.canonical, canonical.greatest]

/-- A ratio within the interval of a datum is rounded to it. -/
theorem ofRatio_of_holds (canonical : IsCanonical significand exponent) (nonzero : significand ≠ 0)
    (den_ne : den ≠ 0) (holds : (intervalOf significand exponent).Holds (num / den)) :
    ofRatio negative num den = .finite negative significand exponent canonical := by
  have num_ne : num ≠ 0 := by
    rintro rfl
    have low := (low_intervalOf_le nonzero exponent).trans holds.low
    have one : (1 : ℚ) ≤ significand := by exact_mod_cast Nat.one_le_iff_ne_zero.mpr nonzero
    have : (0 : ℚ) < (significand - 1 / 2) * 2 ^ exponent := mul_pos (by linarith) (by positivity)
    rw [Nat.cast_zero, zero_div] at low
    linarith
  by_cases full : exponent = leastExponent ∨ (2 ^ 52 * 2 ^ exponent : ℚ) ≤ num / den
  · exact ofRatio_of_full negative canonical nonzero num_ne den_ne holds full
  · obtain ⟨more, below⟩ := not_or.mp full
    exact ofRatio_of_halved negative canonical num_ne den_ne holds more (not_le.mp below)

end Ratio

/-- The interval of a datum is far from where the digits of a decimal are not looked at. -/
theorem bounds_of_holds {significand : ℕ} {exponent : ℤ} (canonical : IsCanonical significand exponent)
    (nonzero : significand ≠ 0) {value : ℚ} (holds : (intervalOf significand exponent).Holds value) :
    (10 : ℚ) ^ (-400 : ℤ) < value ∧ value < 10 ^ (400 : ℤ) := by
  have one : (1 : ℚ) ≤ significand := by exact_mod_cast Nat.one_le_iff_ne_zero.mpr nonzero
  have bits : (significand : ℚ) + 1 ≤ 2 ^ 53 := by exact_mod_cast canonical.bits
  have tens : (2 : ℚ) ^ (1200 : ℤ) < 10 ^ (400 : ℤ) :=
    calc (2 : ℚ) ^ (1200 : ℤ) = (2 ^ (3 : ℤ)) ^ (400 : ℤ) := by rw [← zpow_mul]; norm_num
      _ < 10 ^ (400 : ℤ) := zpow_lt_zpow_left₀ (by norm_num) (by norm_num) (by norm_num)
  constructor
  · calc (10 : ℚ) ^ (-400 : ℤ) < 2 ^ (-1200 : ℤ) := by
          rw [zpow_neg, zpow_neg]
          exact inv_strictAnti₀ (by positivity) tens
      _ ≤ 2 ^ (-1 + leastExponent) := zpow_le_zpow_right₀ one_le_two (by decide)
      _ = (1 - 1 / 2) * 2 ^ leastExponent := by
          rw [zpow_add₀ two_ne_zero]
          norm_num
      _ ≤ (significand - 1 / 2) * 2 ^ exponent :=
          mul_le_mul (by linarith) (zpow_le_zpow_right₀ one_le_two canonical.least) (by positivity)
            (by linarith)
      _ ≤ value := (low_intervalOf_le nonzero exponent).trans holds.low
  · calc value ≤ (significand + 1 / 2) * 2 ^ exponent := high_intervalOf significand exponent ▸ holds.high
      _ ≤ 2 ^ 53 * 2 ^ greatestExponent :=
          mul_le_mul (by linarith) (zpow_le_zpow_right₀ one_le_two canonical.greatest) (by positivity)
            (by positivity)
      _ = 2 ^ (53 + greatestExponent) := by
          rw [zpow_add₀ two_ne_zero]
          norm_num
      _ ≤ 2 ^ (1200 : ℤ) := zpow_le_zpow_right₀ one_le_two (by decide)
      _ < 10 ^ (400 : ℤ) := tens

/-- A decimal whose value is within limits is so by the count of its digits. -/
theorem width_within {digits : ℕ} (digits_ne : digits ≠ 0) {power limit : ℤ}
    (low : (10 : ℚ) ^ (-limit) < digits * 10 ^ power)
    (high : (digits * 10 ^ power : ℚ) < 10 ^ limit) :
    -limit ≤ power + (Nat.toDigits 10 digits).length ∧
      power + (Nat.toDigits 10 digits).length ≤ limit := by
  have unit : (0 : ℚ) < 10 ^ power := by positivity
  have ten : (1 : ℚ) < 10 := by norm_num
  obtain ⟨width, width_eq, least, most⟩ := exists_width digits_ne
  have enough : (10 : ℚ) ^ (width : ℤ) ≤ digits := by exact_mod_cast least
  have most : (digits : ℚ) ≤ 10 ^ ((width : ℤ) + 1) := by exact_mod_cast most.le
  have above : (10 : ℚ) ^ (-limit) < 10 ^ ((width : ℤ) + 1 + power) :=
    calc (10 : ℚ) ^ (-limit) < digits * 10 ^ power := low
      _ ≤ 10 ^ ((width : ℤ) + 1) * 10 ^ power := mul_le_mul_of_nonneg_right most unit.le
      _ = 10 ^ ((width : ℤ) + 1 + power) := (zpow_add₀ (by norm_num) _ _).symm
  have below : (10 : ℚ) ^ ((width : ℤ) + power) < 10 ^ limit :=
    calc (10 : ℚ) ^ ((width : ℤ) + power) = 10 ^ (width : ℤ) * 10 ^ power :=
          zpow_add₀ (by norm_num) _ _
      _ ≤ digits * 10 ^ power := mul_le_mul_of_nonneg_right enough unit.le
      _ < 10 ^ limit := high
  have := (zpow_lt_zpow_iff_right₀ ten).mp above
  have := (zpow_lt_zpow_iff_right₀ ten).mp below
  omega

/-- A decimal within the interval of a datum is rounded to it. -/
theorem ofDecimal_of_holds (negative : Bool) {significand : ℕ} {exponent : ℤ}
    (canonical : IsCanonical significand exponent) (nonzero : significand ≠ 0) {digits : ℕ} {power : ℤ}
    (holds : (intervalOf significand exponent).Holds (digits * 10 ^ power)) :
    ofDecimal negative digits power = .finite negative significand exponent canonical := by
  obtain ⟨low, high⟩ := bounds_of_holds canonical nonzero holds
  have digits_ne : digits ≠ 0 := by
    rintro rfl
    have : (0 : ℚ) < 10 ^ (-400 : ℤ) := by positivity
    rw [Nat.cast_zero, zero_mul] at low
    linarith
  obtain ⟨least, greatest⟩ := width_within digits_ne low high
  have ratio : digits * (10 : ℚ) ^ power = (Ratio.scaled digits 10 power).value :=
    (Ratio.value_scaled digits 10 (by decide) power).symm
  have rounded := ofRatio_of_holds negative canonical nonzero
    (Ratio.den_scaled_pos digits (by decide) power).ne' (ratio ▸ holds)
  rw [ofDecimal, if_neg digits_ne]
  dsimp only
  rw [if_neg (not_lt.mpr greatest), if_neg (not_lt.mpr least)]
  unfold Ratio.scaled at rounded
  split <;> rename_i sign <;> simpa only [sign, if_true, if_false] using rounded

end Binary64

end AccessPolicy.Number
