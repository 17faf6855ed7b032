/-! Binary64 data as exact dyadics, and rounding of ratios to them. A finite datum is
stored in its canonical form, so two nonzero data have one value only if they are the
same datum, and a datum with an integral value can be told apart exactly. -/

namespace AccessPolicy.Number

namespace Binary64

def leastExponent : Int := -1074

def greatestExponent : Int := 971

/-- A significand has at most 53 bits, and fewer only under the least exponent. -/
structure IsCanonical (significand : Nat) (exponent : Int) : Prop where
  bits : significand < Nat.pow 2 53
  full : exponent = leastExponent ∨ Nat.pow 2 52 ≤ significand
  least : leastExponent ≤ exponent
  greatest : exponent ≤ greatestExponent

end Binary64

/-- A datum that is not a number carries a payload, by which it is told from others. -/
inductive Binary64 where
  | finite (negative : Bool) (significand : Nat) (exponent : Int)
      (canonical : Binary64.IsCanonical significand exponent)
  | infinite (negative : Bool)
  | nan (payload : Nat)
  deriving DecidableEq, Repr

namespace Binary64

def zero (negative : Bool) : Binary64 :=
  .finite negative 0 leastExponent ⟨by decide, .inl rfl, Int.le_refl _, by decide⟩

instance : Inhabited Binary64 := ⟨zero false⟩

/-- The quotient nearest to `num / den`, a tie going to the even neighbour. -/
def nearestQuotient (num den : Nat) : Nat :=
  let floor := num / den
  let twice := 2 * (num % den)
  if den < twice ∨ (twice = den ∧ floor % 2 = 1) then floor + 1 else floor

theorem nearestQuotient_le {num den bound : Nat} (positive : 0 < den) (below : num ≤ bound * den) :
    nearestQuotient num den ≤ bound := by
  have floor : num / den ≤ bound := Nat.div_le_of_le_mul (Nat.mul_comm bound den ▸ below)
  unfold nearestQuotient
  simp only
  split
  · rename_i up
    have inside : num / den ≠ bound := by
      intro whole
      have parts := Nat.div_add_mod num den
      rw [whole, Nat.mul_comm] at parts
      omega
    omega
  · exact floor

theorem le_nearestQuotient {num den bound : Nat} (positive : 0 < den) (above : bound * den ≤ num) :
    bound ≤ nearestQuotient num den := by
  have floor : bound ≤ num / den := (Nat.le_div_iff_mul_le positive).mpr above
  unfold nearestQuotient
  simp only
  split <;> omega

def reaches (num den : Nat) (exponent : Int) : Bool :=
  den * Nat.pow 2 exponent.toNat ≤ num * Nat.pow 2 (-exponent).toNat

/-- The greatest `k` with `2 ^ k ≤ num / den`, for positive arguments. -/
def binaryExponent (num den : Nat) : Int :=
  let estimate : Int := (num.log2 : Int) - den.log2
  if reaches num den estimate then estimate else estimate - 1

/-- The multiple of `2 ^ exponent` that is nearest to `num / den`. -/
def significandAt (num den : Nat) (exponent : Int) : Nat :=
  nearestQuotient (num * Nat.pow 2 (-exponent).toNat) (den * Nat.pow 2 exponent.toNat)

theorem reaches_of_le {num den p q : Nat} (above : Nat.pow 2 p ≤ num) (below : den ≤ Nat.pow 2 q) :
    reaches num den (p - q) := by
  simp only [reaches, Nat.pow_eq, decide_eq_true_eq] at above below ⊢
  have exponents : q + ((p : Int) - q).toNat = p + (-((p : Int) - q)).toNat := by omega
  calc den * 2 ^ ((p : Int) - q).toNat
      ≤ 2 ^ q * 2 ^ ((p : Int) - q).toNat := Nat.mul_le_mul_right _ below
    _ = 2 ^ p * 2 ^ (-((p : Int) - q)).toNat := by rw [← Nat.pow_add, exponents, Nat.pow_add]
    _ ≤ num * 2 ^ (-((p : Int) - q)).toNat := Nat.mul_le_mul_right _ above

theorem not_reaches_of_lt {num den p q : Nat} (below : num < Nat.pow 2 p) (above : Nat.pow 2 q ≤ den) :
    ¬ reaches num den (p - q) := by
  simp only [reaches, Nat.pow_eq, decide_eq_true_eq, Nat.not_le] at above below ⊢
  have exponents : p + (-((p : Int) - q)).toNat = q + ((p : Int) - q).toNat := by omega
  calc num * 2 ^ (-((p : Int) - q)).toNat
      < 2 ^ p * 2 ^ (-((p : Int) - q)).toNat :=
        Nat.mul_lt_mul_of_pos_right below (Nat.two_pow_pos _)
    _ = 2 ^ q * 2 ^ ((p : Int) - q).toNat := by rw [← Nat.pow_add, exponents, Nat.pow_add]
    _ ≤ den * 2 ^ ((p : Int) - q).toNat := Nat.mul_le_mul_right _ above

/-- A ratio reaches a power of two if over a lower power it reaches what is left of it. -/
theorem reaches_add_iff {num den bits : Nat} {exponent : Int} :
    reaches num den (exponent + bits) ↔
      Nat.pow 2 bits * (den * Nat.pow 2 exponent.toNat) ≤ num * Nat.pow 2 (-exponent).toNat := by
  simp only [reaches, Nat.pow_eq, decide_eq_true_eq]
  -- What the one side has too much of is a common factor.
  obtain ⟨common, up, down⟩ : ∃ common, bits + exponent.toNat = common + (exponent + bits).toNat ∧
      (-exponent).toNat = common + (-(exponent + bits)).toNat :=
    ⟨(-exponent).toNat - (-(exponent + bits)).toNat, by omega, by omega⟩
  rw [Nat.mul_left_comm, ← Nat.pow_add, up, down, Nat.pow_add, Nat.pow_add, Nat.mul_left_comm den,
    Nat.mul_left_comm num]
  exact (Nat.mul_le_mul_left_iff (Nat.two_pow_pos _)).symm

theorem reaches_of_add {num den bits : Nat} {exponent : Int}
    (reached : reaches num den (exponent + bits)) : reaches num den exponent := by
  rw [reaches, decide_eq_true_eq]
  exact Nat.le_trans (Nat.le_mul_of_pos_left _ (Nat.two_pow_pos bits)) (reaches_add_iff.mp reached)

theorem reaches_binaryExponent {num den : Nat} (num_ne : num ≠ 0) :
    reaches num den (binaryExponent num den) := by
  unfold binaryExponent
  simp only
  split
  · assumption
  · have near := reaches_of_le (Nat.log2_self_le num_ne) (Nat.le_of_lt (Nat.lt_log2_self (n := den)))
    rwa [show (num.log2 : Int) - (den.log2 + 1 : Nat) = num.log2 - den.log2 - 1 by omega] at near

theorem not_reaches_binaryExponent {num den : Nat} (den_ne : den ≠ 0) :
    ¬ reaches num den (binaryExponent num den + 1) := by
  unfold binaryExponent
  simp only
  split
  · have far := not_reaches_of_lt (Nat.lt_log2_self (n := num)) (Nat.log2_self_le den_ne)
    rwa [show ((num.log2 + 1 : Nat) : Int) - den.log2 = num.log2 - den.log2 + 1 by omega] at far
  · rwa [Int.sub_add_cancel]

def exponentOf (num den : Nat) : Int := max leastExponent (binaryExponent num den - 52)

theorem significandAt_le {num den : Nat} (den_ne : den ≠ 0) :
    significandAt num den (exponentOf num den) ≤ Nat.pow 2 53 := by
  have positive : 0 < den * Nat.pow 2 (exponentOf num den).toNat :=
    Nat.mul_pos (Nat.pos_of_ne_zero den_ne) (Nat.two_pow_pos _)
  refine nearestQuotient_le positive (Nat.le_of_not_le fun far => ?_)
  have reached := reaches_add_iff.mpr far
  obtain ⟨more, exponent⟩ : ∃ more : Nat,
      exponentOf num den + (53 : Nat) = binaryExponent num den + 1 + more :=
    ⟨(exponentOf num den + 52 - binaryExponent num den).toNat, by unfold exponentOf; omega⟩
  rw [exponent] at reached
  exact not_reaches_binaryExponent den_ne (reaches_of_add reached)

theorem exponentOf_eq_or_le {num den : Nat} (num_ne : num ≠ 0) (den_ne : den ≠ 0) :
    exponentOf num den = leastExponent ∨
      Nat.pow 2 52 ≤ significandAt num den (exponentOf num den) := by
  have positive : 0 < den * Nat.pow 2 (exponentOf num den).toNat :=
    Nat.mul_pos (Nat.pos_of_ne_zero den_ne) (Nat.two_pow_pos _)
  by_cases least : exponentOf num den = leastExponent
  · exact .inl least
  · refine .inr (le_nearestQuotient positive (reaches_add_iff.mp ?_))
    have exponent : exponentOf num den + (52 : Nat) = binaryExponent num den := by
      unfold exponentOf at least ⊢
      omega
    rw [exponent]
    exact reaches_binaryExponent num_ne

/-- A datum with the given parts, of which the significand may have been rounded up to a power of
two and is halved then. Beyond the range it is an infinity. -/
def canonical (negative : Bool) (significand : Nat) (exponent : Int)
    (bits : significand ≤ Nat.pow 2 53) (least : leastExponent ≤ exponent)
    (full : exponent = leastExponent ∨ Nat.pow 2 52 ≤ significand) : Binary64 :=
  if fits : significand < Nat.pow 2 53 then
    if greatest : exponent ≤ greatestExponent then
      .finite negative significand exponent ⟨fits, full, least, greatest⟩
    else .infinite negative
  else if greatest : exponent + 1 ≤ greatestExponent then
    have half : significand / 2 < Nat.pow 2 53 ∧ Nat.pow 2 52 ≤ significand / 2 := by
      simp only [Nat.pow_eq] at *
      omega
    .finite negative (significand / 2) (exponent + 1) ⟨half.1, .inr half.2, by omega, greatest⟩
  else .infinite negative

/-- The datum nearest to `± num / den`, ties to even, beyond the range an infinity. -/
def ofRatio (negative : Bool) (num den : Nat) : Binary64 :=
  if void : num = 0 ∨ den = 0 then zero negative
  else
    have positive := not_or.mp void
    canonical negative (significandAt num den (exponentOf num den)) (exponentOf num den)
      (significandAt_le positive.2) (Int.le_max_left ..) (exponentOf_eq_or_le positive.1 positive.2)

/-- The datum nearest to `± significand * 2 ^ exponent`. -/
def ofDyadic (negative : Bool) (significand : Nat) (exponent : Int) : Binary64 :=
  if 0 ≤ exponent then ofRatio negative (significand * Nat.pow 2 exponent.toNat) 1
  else ofRatio negative significand (Nat.pow 2 (-exponent).toNat)

/-- The datum nearest to `± digits * 10 ^ exponent`. Far outside the range the power of
ten is not formed: such a decimal rounds to an infinity or to zero whatever its digits. -/
def ofDecimal (negative : Bool) (digits : Nat) (exponent : Int) : Binary64 :=
  if digits = 0 then zero negative
  else
    let magnitude := exponent + (Nat.toDigits 10 digits).length
    if 400 < magnitude then .infinite negative
    else if magnitude < -400 then zero negative
    else if 0 ≤ exponent then ofRatio negative (digits * Nat.pow 10 exponent.toNat) 1
    else ofRatio negative digits (Nat.pow 10 (-exponent).toNat)

def ofInt (i : Int) : Binary64 := ofRatio (decide (i < 0)) i.natAbs 1

def isZero : Binary64 → Bool
  | .finite _ significand .. => significand == 0
  | _ => false

def toInt? : Binary64 → Option Int
  | .finite negative significand exponent _ =>
    let magnitude? :=
      if 0 ≤ exponent then some (significand * Nat.pow 2 exponent.toNat)
      else if significand % Nat.pow 2 (-exponent).toNat = 0 then
        some (significand / Nat.pow 2 (-exponent).toNat)
      else none
    magnitude?.map fun magnitude => if negative then -(magnitude : Int) else magnitude
  | _ => none

def neg : Binary64 → Binary64
  | .finite negative significand exponent canonical =>
    .finite (!negative) significand exponent canonical
  | .infinite negative => .infinite (!negative)
  | .nan payload => .nan payload

/-- The same datum; what is not a number gets the given payload. -/
def withPayload (x : Binary64) (payload : Nat) : Binary64 :=
  match x with
  | .nan _ => .nan payload
  | x => x

def mul : Binary64 → Binary64 → Binary64
  | .finite n₁ s₁ e₁ _, .finite n₂ s₂ e₂ _ => ofDyadic (n₁ ^^ n₂) (s₁ * s₂) (e₁ + e₂)
  | .infinite n₁, .infinite n₂ => .infinite (n₁ ^^ n₂)
  | .infinite n₁, .finite n₂ s₂ .. => if s₂ = 0 then .nan 0 else .infinite (n₁ ^^ n₂)
  | .finite n₁ s₁ .., .infinite n₂ => if s₁ = 0 then .nan 0 else .infinite (n₁ ^^ n₂)
  | _, _ => .nan 0

private def signed (negative : Bool) (magnitude : Nat) : Int :=
  if negative then -(magnitude : Int) else magnitude

/-- The sum of opposite data is the positive zero. -/
def add : Binary64 → Binary64 → Binary64
  | .finite n₁ s₁ e₁ _, .finite n₂ s₂ e₂ _ =>
    let exponent := min e₁ e₂
    let sum := signed n₁ (s₁ * Nat.pow 2 (e₁ - exponent).toNat) +
      signed n₂ (s₂ * Nat.pow 2 (e₂ - exponent).toNat)
    if sum = 0 then zero (n₁ && n₂)
    else ofDyadic (decide (sum < 0)) sum.natAbs exponent
  | .infinite n₁, .infinite n₂ => if n₁ = n₂ then .infinite n₁ else .nan 0
  | .infinite n₁, .finite .. => .infinite n₁
  | .finite .., .infinite n₂ => .infinite n₂
  | _, _ => .nan 0

end Binary64

/-- A number as it is compared: an integral value has one form, however it was written. -/
inductive Numeral where
  | integral (value : Int)
  | other (datum : Binary64)
  deriving DecidableEq, Repr

def Binary64.numeral (x : Binary64) : Numeral :=
  match x.toInt? with
  | some i => .integral i
  | none => .other x

end AccessPolicy.Number
