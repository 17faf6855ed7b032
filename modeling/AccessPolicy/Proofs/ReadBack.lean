import AccessPolicy.Number.Written
import AccessPolicy.Proofs.Rounding
import Mathlib.Data.List.TakeWhile

/-! Numbers read back from their text. The search for a short decimal ends with one that is
rounded to the datum, since seventeen digits are always enough, and the text of the decimal is read
with its value. -/

namespace AccessPolicy.Number

theorem ofDigits_append (l m : List Char) :
    ofDigits 10 (l ++ m) = ofDigits 10 l * 10 ^ m.length + ofDigits 10 m := by
  induction m using List.reverseRecOn with
  | nil => simp [ofDigits]
  | append_singleton m d ih =>
    have last (k : List Char) : ofDigits 10 (k ++ [d]) = ofDigits 10 k * 10 + digitValue d := by
      simp [ofDigits]
    rw [← List.append_assoc, last, last, ih, List.length_append, List.length_singleton, pow_succ]
    ring

theorem ofDigits_replicate (count : ℕ) : ofDigits 10 (List.replicate count '0') = 0 := by
  induction count with
  | zero => rfl
  | succ count ih => rw [List.replicate_succ', ofDigits_append, ih]; decide

theorem ofDigits_zeros_append (count : ℕ) (digits : List Char) :
    ofDigits 10 (List.replicate count '0' ++ digits) = ofDigits 10 digits := by
  rw [ofDigits_append, ofDigits_replicate, zero_mul, zero_add]

theorem digitValue_of_isDigit {c : Char} (digit : c.isDigit) : digitValue c = c.toNat - '0'.toNat :=
  if_pos digit

theorem ofDigits_toDigits (n : ℕ) : ofDigits 10 (Nat.toDigits 10 n) = n := by
  conv_rhs => rw [← Nat.ofDigitChars_toDigits (b := 10) (n := n) (by decide) (by decide)]
  rw [ofDigits, Nat.ofDigitChars_eq_foldl]
  refine List.foldl_ext _ _ _ fun sum c held => ?_
  rw [digitValue_of_isDigit (Nat.isDigit_of_mem_toDigits (by decide) (by decide) held), mul_comm]

namespace Decimal

def value (d : Decimal) : ℚ := ofDigits 10 d.digits * 10 ^ (d.point - d.digits.length)

theorem value_ofGrid (candidate width : ℕ) (point : ℤ) :
    (ofGrid candidate width point).value = candidate * 10 ^ (point - width) := by
  let all := Nat.toDigits 10 candidate
  let kept := (all.reverse.dropWhile (· == '0')).reverse
  obtain ⟨zeros, parts⟩ : ∃ zeros, all = kept ++ List.replicate zeros '0' := by
    refine ⟨(all.reverse.takeWhile (· == '0')).length, ?_⟩
    have same : all.reverse.takeWhile (· == '0') =
        List.replicate (all.reverse.takeWhile (· == '0')).length '0' :=
      List.eq_replicate_of_mem fun c held => by
        simpa using List.all_eq_true.mp List.all_takeWhile c held
    rw [← List.reverse_replicate, ← same, ← List.reverse_append, List.takeWhile_append_dropWhile,
      List.reverse_reverse]
  have digits : ofDigits 10 kept * 10 ^ zeros = candidate := by
    have := ofDigits_toDigits candidate
    rwa [show Nat.toDigits 10 candidate = kept ++ List.replicate zeros '0' from parts,
      ofDigits_append, ofDigits_replicate, List.length_replicate, Nat.add_zero] at this
  have length : all.length = kept.length + zeros := by
    rw [parts, List.length_append, List.length_replicate]
  show (ofDigits 10 kept * 10 ^ (point + all.length - width - kept.length : ℤ) : ℚ) = _
  rw [← digits, length]
  push_cast
  rw [mul_assoc, ← zpow_natCast, ← zpow_add₀ (by norm_num)]
  congr 2
  omega

end Decimal

section Search

variable {value : Ratio} {interval : Interval} {point : ℤ} {width : ℕ} {d : Decimal}

/-- The step of a grid of decimals. -/
theorem value_unit (place : ℤ) : (Ratio.scaled 1 10 place).value = 10 ^ place := by
  rw [Ratio.value_scaled 1 10 (by decide), Nat.cast_one, one_mul, Nat.cast_ofNat]

/-- A candidate is tried by the value of its decimal. -/
theorem contains_candidate (low : 0 < interval.low.den) (high : 0 < interval.high.den)
    (candidate : ℕ) :
    interval.contains ⟨candidate * (Ratio.scaled 1 10 (point - width)).num,
        (Ratio.scaled 1 10 (point - width)).den⟩ ↔
      interval.Holds (Decimal.ofGrid candidate width point).value := by
  have positive := Ratio.den_scaled_pos 1 (show 0 < 10 by decide) (point - width)
  rw [Decimal.value_ofGrid, ← value_unit]
  generalize Ratio.scaled 1 10 (point - width) = unit at positive ⊢
  rw [Interval.contains_iff low high (by exact positive), Ratio.value, Ratio.value, Nat.cast_mul,
    mul_div_assoc]

theorem holds_of_hit? (low : 0 < interval.low.den) (high : 0 < interval.high.den)
    (hit : hit? value interval point width = some d) : interval.Holds d.value := by
  unfold hit? at hit
  simp only at hit
  repeat' split at hit
  all_goals cases hit
  all_goals exact (contains_candidate low high _).mp ‹_›

/-- If the grid is finer than the interval, a candidate is within it, as the nearest is. -/
theorem hit?_ne_none (positive : 0 < value.den) (low_pos : 0 < interval.low.den)
    (high_pos : 0 < interval.high.den)
    (low : interval.low.value + 10 ^ (point - width : ℤ) / 2 < value.value)
    (high : value.value + 10 ^ (point - width : ℤ) / 2 < interval.high.value) :
    hit? value interval point width ≠ none := by
  rw [← value_unit] at low high
  let unit := Ratio.scaled 1 10 (point - width)
  let num := value.num * unit.den
  let den := value.den * unit.num
  have unit_pos : 0 < unit.value := value_unit _ ▸ by positivity
  have unit_num : 0 < unit.num := Nat.pos_of_ne_zero fun zero => by
    rw [Ratio.value, zero, Nat.cast_zero, zero_div] at unit_pos
    exact lt_irrefl _ unit_pos
  have ratio : (num / den : ℚ) = value.value / unit.value := by
    simp only [num, den, Ratio.value, Nat.cast_mul]
    rw [div_div_div_eq]
  have near := (@Binary64.nearestQuotient_near num den (Nat.mul_pos positive unit_num)).1
  rw [ratio, abs_le] at near
  have below := mul_le_mul_of_nonneg_right near.1 unit_pos.le
  have above := mul_le_mul_of_nonneg_right near.2 unit_pos.le
  rw [sub_mul, div_mul_cancel₀ _ unit_pos.ne'] at below above
  have first : interval.contains ⟨Binary64.nearestQuotient num den * unit.num, unit.den⟩ := by
    rw [contains_candidate low_pos high_pos, Decimal.value_ofGrid, ← value_unit]
    exact ⟨by linarith, by linarith, fun _ => ⟨by linarith, by linarith⟩⟩
  have tried : (hit? value interval point width).isSome := by
    unfold hit?
    unfold Binary64.nearestQuotient at first
    simp only [num, den, unit] at first
    simp only
    split at first <;> rename_i up <;> simp [up, first]
  intro none
  rw [none] at tried
  cases tried

/-- The search ends with the first decimal that is within the interval. -/
theorem search_eq (start fuel : ℕ) {width : ℕ} (reached : start ≤ width) (left : width < start + fuel)
    (hit : hit? value interval point width ≠ none) :
    ∃ width, hit? value interval point width = some (search value interval point start fuel) := by
  induction fuel generalizing start with
  | zero => omega
  | succ fuel ih =>
    rw [search]
    cases tried : hit? value interval point start with
    | some d => exact ⟨start, tried⟩
    | none =>
      have further : start ≠ width := by
        rintro rfl
        exact hit tried
      exact ih (start + 1) (by omega) (by omega)

theorem le_mul_leadingZeros {num den fuel : ℕ} (enough : den ≤ num * 10 ^ fuel) :
    den ≤ num * 10 ^ leadingZeros num den fuel := by
  induction fuel generalizing num with
  | zero => exact enough
  | succ fuel ih =>
    unfold leadingZeros
    split
    · rwa [pow_zero, mul_one]
    · rw [pow_succ', ← mul_assoc] at enough ⊢
      exact ih enough

/-- The first digit of a decimal with its point there is within the value. -/
theorem pow_decimalPoint_le {r : Ratio} (positive : 0 < r.den)
    (least : (10 : ℚ) ^ (-400 : ℤ) ≤ r.value) : (10 : ℚ) ^ (decimalPoint r - 1) ≤ r.value := by
  have den_pos : (0 : ℚ) < r.den := Nat.cast_pos.mpr positive
  unfold decimalPoint
  split
  · rename_i whole
    have floor_ne : r.num / r.den ≠ 0 := (Nat.div_pos whole positive).ne'
    obtain ⟨width, width_eq, least, -⟩ := exists_width floor_ne
    have within : (10 : ℚ) ^ width ≤ r.num / r.den :=
      calc (10 : ℚ) ^ width ≤ (r.num / r.den : ℕ) := by exact_mod_cast least
        _ ≤ r.num / r.den := by
          rw [le_div_iff₀ den_pos]
          exact_mod_cast Nat.div_mul_le_self r.num r.den
    rwa [width_eq, Nat.cast_succ, add_sub_cancel_right, zpow_natCast]
  · have enough : r.den ≤ r.num * 10 ^ 400 := by
      rw [zpow_neg, Ratio.value, le_div_iff₀ den_pos, inv_mul_le_iff₀ (by positivity),
        mul_comm] at least
      exact_mod_cast least
    have within : (r.den : ℚ) ≤ r.num * 10 ^ leadingZeros r.num r.den 400 := by
      exact_mod_cast le_mul_leadingZeros enough
    rw [sub_sub_cancel_left, zpow_neg, zpow_natCast, Ratio.value, le_div_iff₀ den_pos,
      inv_mul_le_iff₀ (by positivity), mul_comm]
    exact within

end Search

/-- A step of a grid of seventeen digits is short against the interval of a datum. -/
theorem gap_intervalOf {significand : ℕ} {exponent : ℤ}
    (canonical : Binary64.IsCanonical significand exponent) (nonzero : significand ≠ 0) {step : ℚ}
    (short : step * 10 ^ 16 ≤ significand * 2 ^ exponent) :
    (intervalOf significand exponent).low.value + step / 2 < significand * 2 ^ exponent ∧
      significand * 2 ^ exponent + step / 2 < (intervalOf significand exponent).high.value := by
  have unit : (0 : ℚ) < 2 ^ exponent := by positivity
  have bits : (significand : ℚ) < 2 ^ 53 := by exact_mod_cast canonical.bits
  have most := mul_lt_mul_of_pos_right bits unit
  norm_num at short most
  rw [Binary64.low_intervalOf nonzero, Binary64.high_intervalOf]
  refine ⟨?_, by linarith⟩
  split
  · rename_i least
    have power : (significand : ℚ) = 2 ^ 52 := by exact_mod_cast least.1
    rw [power] at short ⊢
    norm_num at short ⊢
    linarith
  · linarith

/-- Seventeen digits are enough for every datum, so that the search ends within its interval. -/
theorem holds_shortest {significand : ℕ} {exponent : ℤ}
    (canonical : Binary64.IsCanonical significand exponent) (nonzero : significand ≠ 0) :
    (intervalOf significand exponent).Holds (shortest significand exponent).value := by
  let value := Ratio.scaled significand 2 exponent
  have value_eq : value.value = significand * 2 ^ exponent := by
    rw [Ratio.value_scaled _ _ two_ne_zero, Nat.cast_ofNat]
  have value_pos : 0 < value.den := Ratio.den_scaled_pos _ two_pos _
  have low_pos : 0 < (intervalOf significand exponent).low.den := Ratio.den_scaled_pos _ two_pos _
  have high_pos : 0 < (intervalOf significand exponent).high.den := Ratio.den_scaled_pos _ two_pos _
  have least : (10 : ℚ) ^ (-400 : ℤ) ≤ value.value := by
    have none : (0 : ℚ) * 10 ^ 16 ≤ significand * 2 ^ exponent := by
      rw [zero_mul]
      positivity
    obtain ⟨low, high⟩ := gap_intervalOf canonical nonzero none
    rw [zero_div, add_zero] at low high
    rw [value_eq]
    exact (Binary64.bounds_of_holds canonical nonzero ⟨low.le, high.le, fun _ => ⟨low, high⟩⟩).1.le
  have digit := pow_decimalPoint_le value_pos least
  have step : (10 : ℚ) ^ (decimalPoint value - (17 : ℕ)) * 10 ^ 16 = 10 ^ (decimalPoint value - 1) := by
    rw [← zpow_natCast, ← zpow_add₀ (by norm_num)]
    congr 1
    omega
  obtain ⟨low, high⟩ := gap_intervalOf canonical nonzero (step.trans_le (digit.trans value_eq.le))
  rw [← value_eq] at low high
  have last := hit?_ne_none value_pos low_pos high_pos low high
  obtain ⟨width, hit⟩ := search_eq 1 17 (by decide) (by decide) last
  exact holds_of_hit? low_pos high_pos hit

theorem takeWhile_digits {digits rest : List Char} (all : ∀ c ∈ digits, c.isDigit)
    (ends : ∀ c ∈ rest.head?, ¬ c.isDigit) :
    (digits ++ rest).takeWhile Char.isDigit = digits ∧
      (digits ++ rest).dropWhile Char.isDigit = rest := by
  rw [List.takeWhile_append_of_pos all, List.dropWhile_append_of_pos all]
  cases rest with
  | nil => simp
  | cons c rest =>
    have other : ¬ c.isDigit := ends c rfl
    rw [List.takeWhile_cons_of_neg other, List.dropWhile_cons_of_neg other, List.append_nil]
    exact ⟨rfl, rfl⟩

section Reading

variable {negative : Bool} {whole fraction rest : List Char} {exponent : ℤ}

/-- A decimal with a point is read by its parts. -/
theorem readDecimal?_pointed (begins : whole ≠ []) (all : ∀ c ∈ whole, c.isDigit)
    (all' : ∀ c ∈ fraction, c.isDigit) (ends : ∀ c ∈ rest.head?, ¬ c.isDigit)
    (read : readExponent? rest = some exponent) :
    readDecimal? negative (whole ++ '.' :: (fraction ++ rest)) =
      some (.ofDecimal negative (ofDigits 10 (whole ++ fraction)) (exponent - fraction.length)) := by
  have point : ∀ c ∈ ('.' :: (fraction ++ rest)).head?, ¬ c.isDigit := by simp
  have first := (takeWhile_digits all point).1
  obtain ⟨second, third⟩ := takeWhile_digits all' ends
  simp [readDecimal?, first, second, third, begins, read]

theorem readDecimal?_whole (begins : whole ≠ []) (all : ∀ c ∈ whole, c.isDigit)
    (read : readExponent? ('e' :: rest) = some exponent) :
    readDecimal? negative (whole ++ 'e' :: rest) =
      some (.ofDecimal negative (ofDigits 10 whole) exponent) := by
  have mark : ∀ c ∈ ('e' :: rest).head?, ¬ c.isDigit := by simp
  have first := (takeWhile_digits all mark).1
  simp [readDecimal?, first, begins, read]

theorem readExponent?_exponent (layout : Layout) (exponent : ℤ) :
    readExponent? ('e' :: layout.exponent exponent) = some exponent := by
  let digits := Nat.toDigits 10 exponent.natAbs
  let padded := List.replicate (layout.exponentWidth - digits.length) '0' ++ digits
  have some_digit : padded ≠ [] := by simp [padded, digits, Nat.toDigits_ne_nil]
  have all : padded.any (!·.isDigit) = false := by
    rw [List.any_eq_false]
    intro c held
    rcases List.mem_append.mp held with zero | digit
    · simp [List.eq_of_mem_replicate zero]
    · simp [Nat.isDigit_of_mem_toDigits (by decide) (by decide) digit]
  have value : ofDigits 10 padded = exponent.natAbs := by
    rw [ofDigits_zeros_append, ofDigits_toDigits]
  have split : splitSign (layout.exponent exponent) = (decide (exponent < 0), padded) := by
    unfold Layout.exponent
    by_cases below : exponent < 0 <;> simp [below, splitSign, padded, digits]
  simp only [readExponent?, split, value, all, List.isEmpty_eq_false_iff.mpr some_digit,
    beq_self_eq_true, Bool.true_or, Bool.or_self, if_true, Bool.false_eq_true, if_false,
    decide_eq_true_eq]
  split <;> exact congrArg some (by omega)

end Reading

/-- Text that begins with a digit and is read as a decimal of some value. -/
structure Spells (text : List Char) (value : ℚ) : Prop where
  begins : ∃ c ∈ text.head?, c.isDigit
  reads : ∀ negative, ∃ (digits : ℕ) (power : ℤ),
    readDecimal? negative text = some (.ofDecimal negative digits power) ∧
      digits * (10 : ℚ) ^ power = value

namespace Spells

variable {whole fraction rest : List Char} {exponent : ℤ} {value : ℚ}

theorem of_pointed (begins : whole ≠ []) (all : ∀ c ∈ whole, c.isDigit)
    (all' : ∀ c ∈ fraction, c.isDigit) (ends : ∀ c ∈ rest.head?, ¬ c.isDigit)
    (read : readExponent? rest = some exponent)
    (same : (ofDigits 10 (whole ++ fraction) * 10 ^ (exponent - fraction.length) : ℚ) = value) :
    Spells (whole ++ '.' :: (fraction ++ rest)) value where
  begins := by
    obtain ⟨c, others, rfl⟩ := List.exists_cons_of_ne_nil begins
    exact ⟨c, rfl, all c List.mem_cons_self⟩
  reads _ := ⟨_, _, readDecimal?_pointed begins all all' ends read, same⟩

/-- Without an exponent. -/
theorem of_point (begins : whole ≠ []) (all : ∀ c ∈ whole, c.isDigit)
    (all' : ∀ c ∈ fraction, c.isDigit)
    (same : (ofDigits 10 (whole ++ fraction) * 10 ^ (-fraction.length : ℤ) : ℚ) = value) :
    Spells (whole ++ '.' :: fraction) value := by
  have spells : Spells (whole ++ '.' :: (fraction ++ [])) value :=
    of_pointed begins all all' nofun rfl (by rw [zero_sub, same])
  rwa [List.append_nil] at spells

theorem of_whole (begins : whole ≠ []) (all : ∀ c ∈ whole, c.isDigit)
    (read : readExponent? ('e' :: rest) = some exponent)
    (same : (ofDigits 10 whole * 10 ^ exponent : ℚ) = value) : Spells (whole ++ 'e' :: rest) value where
  begins := by
    obtain ⟨c, others, rfl⟩ := List.exists_cons_of_ne_nil begins
    exact ⟨c, rfl, all c List.mem_cons_self⟩
  reads _ := ⟨_, _, readDecimal?_whole begins all read, same⟩

end Spells

theorem isDigit_of_mem_replicate (count : ℕ) : ∀ c ∈ List.replicate count '0', c.isDigit :=
  fun _ held => (List.eq_of_mem_replicate held) ▸ rfl

section Place

variable {d : Decimal}

/-- The point stands before the digits. -/
theorem spells_before (all : ∀ c ∈ d.digits, c.isDigit) (before : d.point ≤ 0) :
    Spells (['0', '.'] ++ List.replicate (-d.point).toNat '0' ++ d.digits) d.value := by
  let fraction := List.replicate (-d.point).toNat '0' ++ d.digits
  have digits : ∀ c ∈ fraction, c.isDigit :=
    List.forall_mem_append.mpr ⟨isDigit_of_mem_replicate _, all⟩
  have length : -(fraction.length : ℤ) = d.point - d.digits.length := by
    rw [List.length_append, List.length_replicate]
    omega
  have value : ofDigits 10 (['0'] ++ fraction) = ofDigits 10 d.digits := by
    rw [← List.append_assoc, ← List.replicate_one, ← List.replicate_add, ofDigits_zeros_append]
  show Spells (['0'] ++ '.' :: fraction) d.value
  exact .of_point (by decide) (isDigit_of_mem_replicate 1) digits (by rw [value, length, Decimal.value])

/-- The point stands after the digits. -/
theorem spells_after (all : ∀ c ∈ d.digits, c.isDigit) (positive : 0 < d.point)
    (after : d.digits.length ≤ d.point) :
    Spells (d.digits ++ List.replicate (d.point - d.digits.length).toNat '0' ++ ['.', '0']) d.value := by
  let whole := d.digits ++ List.replicate (d.point - d.digits.length).toNat '0'
  have length : (whole.length : ℤ) = d.point := by
    rw [List.length_append, List.length_replicate]
    omega
  have digits : ∀ c ∈ whole, c.isDigit := List.forall_mem_append.mpr ⟨all, isDigit_of_mem_replicate _⟩
  have begins : 0 < whole.length := by omega
  show Spells (whole ++ '.' :: ['0']) d.value
  refine .of_point (List.ne_nil_of_length_pos begins) digits (isDigit_of_mem_replicate 1) ?_
  rw [List.append_assoc, ← List.replicate_one, ← List.replicate_add, ofDigits_append,
    ofDigits_replicate, List.length_replicate, List.length_replicate, Decimal.value]
  push_cast
  rw [add_zero, mul_assoc, ← zpow_natCast, ← zpow_add₀ (by norm_num)]
  congr 2
  omega

/-- The point stands between the digits. -/
theorem spells_between (all : ∀ c ∈ d.digits, c.isDigit) (positive : 0 < d.point)
    (between : d.point < d.digits.length) :
    Spells (d.digits.take d.point.toNat ++ ['.'] ++ d.digits.drop d.point.toNat) d.value := by
  have begins : 0 < (d.digits.take d.point.toNat).length := by
    rw [List.length_take]
    omega
  rw [List.append_assoc, List.singleton_append]
  refine .of_point (List.ne_nil_of_length_pos begins) (fun c held => all c (List.mem_of_mem_take held))
    (fun c held => all c (List.mem_of_mem_drop held)) ?_
  rw [List.take_append_drop, List.length_drop, Decimal.value]
  congr 2
  omega

/-- The point stands after the first digit, and the digits are scaled by a power of ten. -/
theorem spells_scaled (layout : Layout) {c : Char} {others : List Char} (digits : d.digits = c :: others)
    (all : ∀ c ∈ d.digits, c.isDigit) :
    Spells (c :: '.' :: others ++ 'e' :: layout.exponent (d.point - 1)) d.value := by
  rw [digits] at all
  show Spells ([c] ++ '.' :: (others ++ 'e' :: layout.exponent (d.point - 1))) d.value
  refine .of_pointed (by simp) (by simpa using all c List.mem_cons_self)
    (fun c held => all c (List.mem_cons_of_mem _ held)) (by simp) (readExponent?_exponent layout _) ?_
  rw [List.singleton_append, Decimal.value, digits, List.length_cons]
  congr 2
  omega

end Place

/-- The text of a decimal is read with its value. -/
theorem Layout.spells_place (layout : Layout) {d : Decimal} (all : ∀ c ∈ d.digits, c.isDigit) :
    Spells (layout.place d) d.value := by
  unfold place
  simp only
  split
  · split
    · exact spells_before all ‹_›
    · split
      · exact spells_after all (by omega) ‹_›
      · exact spells_between all (by omega) (by omega)
  · have exponent := readExponent?_exponent layout (d.point - 1)
    split
    · rename_i digits
      show Spells (['0'] ++ 'e' :: layout.exponent (d.point - 1)) d.value
      refine .of_whole (by decide) (isDigit_of_mem_replicate 1) exponent ?_
      rw [Decimal.value, digits]
      simp [ofDigits, digitValue_of_isDigit]
    · rename_i c digits
      show Spells ([c] ++ 'e' :: layout.exponent (d.point - 1)) d.value
      refine .of_whole (by simp) (digits ▸ all) exponent ?_
      rw [Decimal.value, digits]
      rfl
    · rename_i c others _ digits
      rw [List.append_assoc]
      exact spells_scaled layout digits all

theorem isSpace_of_isNumeral {c : Char} (numeral : isNumeral c) : isSpace c = false := by
  simp only [isNumeral, Char.isDigit, Bool.or_eq_true, Bool.and_eq_true, decide_eq_true_eq,
    List.contains_iff_mem, List.mem_cons, List.not_mem_nil, or_false] at numeral
  rcases numeral with ⟨low, -⟩ | rfl | rfl | rfl | rfl
  · have least : 48 ≤ c.toNat := low
    have other : c ≠ ' ' := by
      rintro rfl
      exact absurd least (by decide)
    simp [isSpace, other]
    omega
  all_goals rfl

/-- Nothing is left out of a text of digits and their marks. -/
theorem bare_eq_self {text : List Char} (numeral : ∀ c ∈ text, isNumeral c) : bare text = text := by
  have plain : plainText text = text :=
    if_pos (List.all_eq_true.mpr fun c held => decide_eq_true (toNat_of_isNumeral (numeral c held)))
  have trimmed {part : List Char} (inside : ∀ c ∈ part, isNumeral c) : part.dropWhile isSpace = part :=
    List.dropWhile_eq_self_iff.mpr fun _ => by
      simp [isSpace_of_isNumeral (inside _ (List.getElem_mem _))]
  rw [bare, plain, trimmed numeral, trimmed fun c held => numeral c (List.mem_reverse.mp held),
    List.reverse_reverse]

theorem toLower_of_isDigit {c : Char} (digit : c.isDigit) : c.toLower = c := by
  simp only [Char.isDigit, Bool.and_eq_true, decide_eq_true_eq] at digit
  unfold Char.toLower
  rw [dif_neg]
  rintro ⟨upper, -⟩
  exact absurd (UInt32.le_trans upper digit.2) (by decide)

/-- A sign before a digit is split off. -/
theorem splitSign_signed (negative : Bool) {c : Char} (digit : c.isDigit) (rest : List Char) :
    splitSign ((if negative then "-" else "").toList ++ c :: rest) = (negative, c :: rest) := by
  cases negative with
  | true => rfl
  | false =>
    show splitSign (c :: rest) = _
    unfold splitSign
    split
    · rename_i same
      cases same
      cases digit
    · rename_i same
      cases same
      cases digit
    · rfl

/-- Text that begins with a digit is taken for a decimal with its sign, and for no word. -/
theorem readFloat?_signed (negative : Bool) {c : Char} (digit : c.isDigit) {rest : List Char}
    (numeral : ∀ d ∈ c :: rest, isNumeral d) :
    readFloat? ((if negative then "-" else "").toList ++ c :: rest) =
      readDecimal? negative (c :: rest) := by
  have sign : ∀ c ∈ (if negative then "-" else "").toList, isNumeral c :=
    List.all_eq_true.mp (by cases negative <;> decide)
  have word (other : String) {letter : Char} (head : other.toList.head? = some letter)
      (letters : letter.isDigit = false) :
      (String.ofList ((c :: rest).map Char.toLower) == other) = false := by
    rw [beq_eq_false_iff_ne]
    rintro rfl
    rw [String.toList_ofList, List.map_cons, toLower_of_isDigit digit, List.head?_cons] at head
    cases head
    rw [digit] at letters
    cases letters
  unfold readFloat?
  rw [bare_eq_self (List.forall_mem_append.mpr ⟨sign, numeral⟩), splitSign_signed negative digit]
  dsimp only
  rw [word "inf" rfl rfl, word "infinity" rfl rfl, word "nan" rfl rfl]
  rfl

namespace Binary64

/-- A datum with a value is read back from its text. -/
theorem readFloat?_text_finite (layout : Layout) (negative : Bool) (significand : ℕ) (exponent : ℤ)
    (canonical : IsCanonical significand exponent) :
    readFloat? ((finite negative significand exponent canonical).text layout).toList =
      some (finite negative significand exponent canonical) := by
  have numeral := isNumeral_text layout negative significand exponent canonical
  unfold text at numeral ⊢
  simp only [String.toList_append] at numeral ⊢
  by_cases zero : significand = 0
  · obtain rfl := zero
    obtain rfl := canonical.full.resolve_right (Nat.not_le.mpr (Nat.two_pow_pos 52))
    rw [if_pos rfl] at numeral ⊢
    have spells : Spells (['0'] ++ '.' :: ['0']) 0 :=
      .of_point (by decide) (isDigit_of_mem_replicate 1) (isDigit_of_mem_replicate 1)
        (by simp [ofDigits, digitValue_of_isDigit])
    obtain ⟨number, power, read, value⟩ := spells.reads negative
    have none : number = 0 := by
      have power_ne : (10 : ℚ) ^ power ≠ 0 := zpow_ne_zero _ (by norm_num)
      exact_mod_cast (mul_eq_zero.mp value).resolve_right power_ne
    refine (readFloat?_signed negative (by decide) (List.forall_mem_append.mp numeral).2).trans ?_
    rw [none] at read
    exact read
  · rw [if_neg zero, String.toList_ofList] at numeral ⊢
    have digits := digits_shortest significand exponent
    obtain ⟨⟨c, first, digit⟩, reads⟩ := layout.spells_place digits
    obtain ⟨number, power, read, value⟩ := reads negative
    obtain ⟨rest, shown⟩ : ∃ rest, layout.place (shortest significand exponent) = c :: rest :=
      List.head?_eq_some_iff.mp first
    rw [shown] at numeral read ⊢
    rw [readFloat?_signed negative digit (List.forall_mem_append.mp numeral).2, read]
    exact congrArg some (ofDecimal_of_holds negative canonical zero
      (value ▸ holds_shortest canonical zero))

/-- A datum is read back from its text, but for its payload if it is not a number. -/
theorem readFloat?_text {layout : Layout} (known : layout ∈ [.plain, .json, .compact]) (x : Binary64) :
    readFloat? (x.text layout).toList = some (x.withPayload 0) := by
  cases x with
  | finite negative significand exponent canonical => exact readFloat?_text_finite ..
  | infinite negative =>
    have words : ∀ layout ∈ [Layout.plain, .json, .compact], ∀ negative,
        readFloat? ((infinite negative).text layout).toList = some (.infinite negative) := by decide
    exact words layout known negative
  | nan payload =>
    have words : ∀ layout ∈ [Layout.plain, .json, .compact],
        readFloat? layout.notANumber.toList = some (.nan 0) := by decide
    exact words layout known

/-- Data of one text are the same, but for the payloads of what is not a number. -/
theorem text_inj {layout : Layout} (known : layout ∈ [.plain, .json, .compact]) {x y : Binary64} :
    x.text layout = y.text layout ↔ x.withPayload 0 = y.withPayload 0 := by
  constructor
  · intro same
    have read := readFloat?_text known x
    rw [same, readFloat?_text known y] at read
    exact (Option.some.inj read).symm
  · have bare (z : Binary64) : (z.withPayload 0).text layout = z.text layout := by cases z <;> rfl
    intro same
    rw [← bare x, same, bare y]

end Binary64

end AccessPolicy.Number
