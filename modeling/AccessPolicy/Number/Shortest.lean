import AccessPolicy.Number.Binary64

/-! Shortest decimal text of binary64 data: the fewest digits that read back, and of
those the decimal nearest to the datum. The layout of the digits is a `Layout`. -/

namespace AccessPolicy.Number

/-- `0.d₁d₂… * 10 ^ point`, without trailing zeros. -/
structure Decimal where
  digits : List Char
  point : Int
  deriving DecidableEq, Repr

structure Ratio where
  num : Nat
  den : Nat

def Ratio.le (a b : Ratio) : Bool := a.num * b.den ≤ b.num * a.den

def Ratio.scaled (num : Nat) (base : Nat) (power : Int) : Ratio :=
  if 0 ≤ power then ⟨num * Nat.pow base power.toNat, 1⟩ else ⟨num, Nat.pow base (-power).toNat⟩

/-- The reals that round to a positive datum; the ends belong to it iff it is even. -/
structure Interval where
  low : Ratio
  high : Ratio
  closed : Bool

def Interval.contains (i : Interval) (r : Ratio) : Bool :=
  if i.closed then i.low.le r && r.le i.high else !(r.le i.low) && !(i.high.le r)

def intervalOf (significand : Nat) (exponent : Int) : Interval :=
  let below := if significand = Nat.pow 2 52 ∧ Binary64.leastExponent < exponent then 1 else 2
  ⟨.scaled (4 * significand - below) 2 (exponent - 2),
    .scaled (4 * significand + 2) 2 (exponent - 2), significand % 2 == 0⟩

/-- The least `j` below the fuel with `den ≤ num * 10 ^ j`. -/
def leadingZeros (num den : Nat) : Nat → Nat
  | 0 => 0
  | fuel + 1 => if den ≤ num then 0 else leadingZeros (num * 10) den fuel + 1

/-- The `k` with `10 ^ (k - 1) ≤ num / den < 10 ^ k`. -/
def decimalPoint (r : Ratio) : Int :=
  if r.den ≤ r.num then (Nat.toDigits 10 (r.num / r.den)).length
  else 1 - (leadingZeros r.num r.den 400 : Int)

def Decimal.ofGrid (candidate : Nat) (width : Nat) (point : Int) : Decimal :=
  let digits := Nat.toDigits 10 candidate
  ⟨(digits.reverse.dropWhile (· == '0')).reverse, point + (digits.length : Int) - width⟩

/-- The two neighbours of the value on the grid of `width` digits, the nearer first. -/
def hit? (value : Ratio) (interval : Interval) (point : Int) (width : Nat) :
    Option Decimal :=
  let unit := Ratio.scaled 1 10 (point - width)
  let num := value.num * unit.den
  let den := value.den * unit.num
  let floor := num / den
  let inside (candidate : Nat) := interval.contains ⟨candidate * unit.num, unit.den⟩
  let nearUp := den < 2 * (num % den) ∨ (2 * (num % den) = den ∧ floor % 2 = 1)
  let (first, second) := if nearUp then (floor + 1, floor) else (floor, floor + 1)
  if inside first then some (.ofGrid first width point)
  else if inside second then some (.ofGrid second width point)
  else none

def search (value : Ratio) (interval : Interval) (point : Int) : Nat → Nat → Decimal
  | width, 0 => .ofGrid 0 width point
  | width, fuel + 1 => (hit? value interval point width).getD
      (search value interval point (width + 1) fuel)

/-- Every positive datum has a decimal of at most seventeen digits that reads back. -/
def shortest (significand : Nat) (exponent : Int) : Decimal :=
  let value := Ratio.scaled significand 2 exponent
  search value (intervalOf significand exponent) (decimalPoint value) 1 17

private theorem Decimal.digits_ofGrid (candidate width : Nat) (point : Int) :
    ∀ c ∈ (Decimal.ofGrid candidate width point).digits, c.isDigit := by
  intro c held
  have member : c ∈ (Nat.toDigits 10 candidate).reverse :=
    (List.dropWhile_sublist _).mem (List.mem_reverse.mp held)
  exact Nat.isDigit_of_mem_toDigits (by decide) (by decide) (List.mem_reverse.mp member)

private theorem digits_of_hit? {value : Ratio} {interval : Interval} {point : Int} {width : Nat}
    {d : Decimal} (hit : hit? value interval point width = some d) : ∀ c ∈ d.digits, c.isDigit := by
  obtain ⟨candidate, rfl⟩ : ∃ candidate, d = Decimal.ofGrid candidate width point := by
    unfold hit? at hit
    simp only at hit
    repeat' split at hit
    all_goals cases hit
    all_goals exact ⟨_, rfl⟩
  exact Decimal.digits_ofGrid _ _ _

private theorem digits_search (value : Ratio) (interval : Interval) (point : Int) (width fuel : Nat) :
    ∀ c ∈ (search value interval point width fuel).digits, c.isDigit := by
  induction fuel generalizing width with
  | zero => exact Decimal.digits_ofGrid _ _ _
  | succ fuel ih =>
    unfold search
    cases hit : hit? value interval point width with
    | none => exact ih _
    | some d => exact digits_of_hit? hit

theorem digits_shortest (significand : Nat) (exponent : Int) :
    ∀ c ∈ (shortest significand exponent).digits, c.isDigit := digits_search _ _ _ _ _

structure Layout where
  leastPoint : Int
  greatestPoint : Int
  exponentWidth : Nat
  infinity : String
  notANumber : String

/-- Positional from 0.0001 below 10^16; exponents carry a sign and two digits. -/
def Layout.plain : Layout := ⟨-3, 16, 2, "inf", "nan"⟩

/-- As `plain`, with the names of the nonfinite data that JSON readers accept. -/
def Layout.json : Layout := { Layout.plain with infinity := "Infinity", notANumber := "NaN" }

/-- Positional from 0.00001 below 10^16; exponents carry a sign and no padding. -/
def Layout.compact : Layout := ⟨-4, 16, 1, "inf", "NaN"⟩

def Layout.exponent (layout : Layout) (e : Int) : List Char :=
  let digits := Nat.toDigits 10 e.natAbs
  (if e < 0 then '-' else '+') ::
    List.replicate (layout.exponentWidth - digits.length) '0' ++ digits

def Layout.place (layout : Layout) (d : Decimal) : List Char :=
  let width : Int := d.digits.length
  if layout.leastPoint ≤ d.point ∧ d.point ≤ layout.greatestPoint then
    if d.point ≤ 0 then
      ['0', '.'] ++ List.replicate (-d.point).toNat '0' ++ d.digits
    else if width ≤ d.point then
      d.digits ++ List.replicate (d.point - width).toNat '0' ++ ['.', '0']
    else d.digits.take d.point.toNat ++ ['.'] ++ d.digits.drop d.point.toNat
  else
    let mantissa := match d.digits with
      | [] => ['0']
      | [c] => [c]
      | c :: rest => c :: '.' :: rest
    mantissa ++ ['e'] ++ layout.exponent (d.point - 1)

def Binary64.text (layout : Layout) : Binary64 → String
  | .nan _ => layout.notANumber
  | .infinite negative => (if negative then "-" else "") ++ layout.infinity
  | .finite negative significand exponent _ =>
    let body := if significand = 0 then "0.0"
      else String.ofList (layout.place (shortest significand exponent))
    (if negative then "-" else "") ++ body

def isNumeral (c : Char) : Bool := c.isDigit || ['.', 'e', '+', '-'].contains c

private theorem isNumeral_of_isDigit {c : Char} (digit : c.isDigit) : isNumeral c := by
  simp [isNumeral, digit]

private theorem isNumeral_replicate (n : Nat) : ∀ c ∈ List.replicate n '0', isNumeral c :=
  fun _ held => (List.eq_of_mem_replicate held) ▸ rfl

private theorem isNumeral_exponent (layout : Layout) (e : Int) :
    ∀ c ∈ layout.exponent e, isNumeral c := by
  have digits : ∀ c ∈ Nat.toDigits 10 e.natAbs, isNumeral c := fun c held =>
    isNumeral_of_isDigit (Nat.isDigit_of_mem_toDigits (by decide) (by decide) held)
  unfold Layout.exponent
  simp only [List.forall_mem_append, List.forall_mem_cons, List.cons_append]
  exact ⟨by split <;> rfl, isNumeral_replicate _, digits⟩

theorem Layout.isNumeral_place (layout : Layout) {d : Decimal} (digits : ∀ c ∈ d.digits, c.isDigit) :
    ∀ c ∈ layout.place d, isNumeral c := by
  have digits : ∀ c ∈ d.digits, isNumeral c := fun c held => isNumeral_of_isDigit (digits c held)
  unfold place
  simp only
  split
  · split
    · simp only [List.forall_mem_append, List.forall_mem_cons, List.cons_append, List.nil_append]
      exact ⟨rfl, rfl, isNumeral_replicate _, digits⟩
    · split
      · simp only [List.forall_mem_append, List.forall_mem_cons]
        exact ⟨⟨digits, isNumeral_replicate _⟩, rfl, rfl, nofun⟩
      · simp only [List.forall_mem_append, List.forall_mem_cons]
        exact ⟨⟨fun c held => digits c (List.mem_of_mem_take held), rfl, nofun⟩,
          fun c held => digits c (List.mem_of_mem_drop held)⟩
  · have mantissa : ∀ c ∈ (match d.digits with
        | [] => ['0']
        | [c] => [c]
        | c :: rest => c :: '.' :: rest), isNumeral c := by
      split
      · simp [isNumeral]
      · simp_all
      · simp_all [isNumeral]
    simp only [List.forall_mem_append, List.forall_mem_cons]
    exact ⟨⟨mantissa, rfl, nofun⟩, isNumeral_exponent layout _⟩

theorem Layout.place_ne_nil (layout : Layout) (d : Decimal) : layout.place d ≠ [] := by
  unfold place
  simp only
  split
  · split
    · simp
    · split <;> simp
  · simp

theorem Binary64.text_ne_empty (layout : Layout) (negative : Bool) (significand : Nat)
    (exponent : Int) (canonical : IsCanonical significand exponent) :
    ((finite negative significand exponent canonical).text layout).toList ≠ [] := by
  unfold text
  simp only [String.toList_append, ne_eq, List.append_eq_nil_iff, not_and]
  intro _
  split
  · decide
  · rw [String.toList_ofList]
    exact layout.place_ne_nil _

theorem Binary64.isNumeral_text (layout : Layout) (negative : Bool) (significand : Nat)
    (exponent : Int) (canonical : IsCanonical significand exponent) :
    ∀ c ∈ ((finite negative significand exponent canonical).text layout).toList, isNumeral c := by
  have body : ∀ c ∈ (if significand = 0 then "0.0"
      else String.ofList (layout.place (shortest significand exponent))).toList, isNumeral c := by
    split
    · exact List.all_eq_true.mp (by decide)
    · rw [String.toList_ofList]
      exact layout.isNumeral_place (digits_shortest _ _)
  unfold text
  rw [String.toList_append, List.forall_mem_append]
  exact ⟨List.all_eq_true.mp (by cases negative <;> decide), body⟩

theorem toNat_of_isNumeral {c : Char} (numeral : isNumeral c) : c.toNat < 0x80 := by
  simp only [isNumeral, Char.isDigit, Bool.or_eq_true, Bool.and_eq_true, decide_eq_true_eq,
    List.contains_iff_mem, List.mem_cons, List.not_mem_nil, or_false] at numeral
  rcases numeral with ⟨-, high⟩ | rfl | rfl | rfl | rfl
  · exact Nat.lt_of_le_of_lt high (by decide)
  all_goals decide

/-- A decimal is written with a point or an exponent. -/
theorem Layout.isMarked_place (layout : Layout) (d : Decimal) :
    ∃ c ∈ layout.place d, c = '.' ∨ c = 'e' := by
  unfold Layout.place
  simp only
  split
  · refine ⟨'.', ?_, .inl rfl⟩
    split
    · simp
    · split <;> simp
  · exact ⟨'e', by simp, .inr rfl⟩

theorem Binary64.isMarked_text (layout : Layout) (negative : Bool) (significand : Nat)
    (exponent : Int) (canonical : IsCanonical significand exponent) :
    ∃ c ∈ ((finite negative significand exponent canonical).text layout).toList,
      c = '.' ∨ c = 'e' := by
  obtain ⟨c, held, marks⟩ := layout.isMarked_place (shortest significand exponent)
  unfold Binary64.text
  rw [String.toList_append]
  by_cases zero : significand = 0
  · rw [if_pos zero]
    exact ⟨'.', List.mem_append_right _ (by decide), .inl rfl⟩
  · rw [if_neg zero, String.toList_ofList]
    exact ⟨c, List.mem_append_right _ held, marks⟩

theorem toString_int_ne_empty (i : Int) : (toString i).toList ≠ [] := by
  cases i with
  | ofNat n =>
    rw [show toString (Int.ofNat n) = toString n from rfl, Nat.toString_eq_ofList_toDigits,
      String.toList_ofList]
    exact Nat.toDigits_ne_nil
  | negSucc n =>
    rw [show toString (Int.negSucc n) = "-" ++ toString (n + 1) from rfl, String.toList_append]
    nofun

/-- The characters of an integer are digits and a sign. -/
theorem isNumeral_toString_int (i : Int) :
    ∀ c ∈ (toString i).toList, isNumeral c ∧ c ≠ '.' ∧ c ≠ 'e' := by
  have digits (n : Nat) : ∀ c ∈ (toString n).toList, isNumeral c ∧ c ≠ '.' ∧ c ≠ 'e' := by
    intro c held
    rw [Nat.toString_eq_ofList_toDigits, String.toList_ofList] at held
    have digit := Nat.isDigit_of_mem_toDigits (by decide) (by decide) held
    refine ⟨by simp [isNumeral, digit], ?_, ?_⟩ <;> rintro rfl <;> cases digit
  cases i with
  | ofNat n => exact digits n
  | negSucc n =>
    have signed : (toString (Int.negSucc n)).toList = '-' :: (toString (n + 1)).toList :=
      String.toList_append
    rw [signed]
    exact List.forall_mem_cons.mpr ⟨by decide, digits (n + 1)⟩

/-- An integer is known by its text. -/
theorem toString_int_inj {i j : Int} : toString i = toString j ↔ i = j := by
  have natural {m n : Nat} (same : toString m = toString n) : m = n := by
    rw [Nat.toString_eq_ofList_toDigits, Nat.toString_eq_ofList_toDigits, String.ofList_inj] at same
    rw [← Nat.ofDigitChars_toDigits (b := 10) (by decide) (by decide) (n := m), same,
      Nat.ofDigitChars_toDigits (by decide) (by decide)]
  have unsigned (n : Nat) : (toString n).toList.head? ≠ some '-' := by
    intro sign
    rw [Nat.toString_eq_ofList_toDigits, String.toList_ofList] at sign
    have digit := Nat.isDigit_of_mem_toDigits (by decide) (by decide) (List.mem_of_head? sign)
    cases digit
  have signed (n : Nat) : (toString (Int.negSucc n)).toList.head? = some '-' := by
    rw [show toString (Int.negSucc n) = "-" ++ toString (n + 1) from rfl, String.toList_append]
    rfl
  refine ⟨fun same => ?_, congrArg _⟩
  cases i with
  | ofNat m =>
    cases j with
    | ofNat n => exact congrArg Int.ofNat (natural same)
    | negSucc n => exact absurd (same ▸ signed n) (unsigned m)
  | negSucc m =>
    cases j with
    | ofNat n => exact absurd (same ▸ signed m) (unsigned n)
    | negSucc n =>
      have digits : toString (m + 1) = toString (n + 1) := by
        have := congrArg String.toList same
        rw [show toString (Int.negSucc m) = "-" ++ toString (m + 1) from rfl,
          show toString (Int.negSucc n) = "-" ++ toString (n + 1) from rfl,
          String.toList_append, String.toList_append] at this
        exact String.toList_inj.mp (List.append_cancel_left this)
      rw [Nat.succ.inj (natural digits)]

end AccessPolicy.Number
