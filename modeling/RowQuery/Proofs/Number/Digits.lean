/-
# Decimals with fewer digits

A decimal has at most 28 digits after the point, so it makes no difference to how many it is
rounded if these are 28 or more. With more digits the rounded decimal is never farther from the
one that it is made of.

Below 28 each digit makes a difference. A decimal whose only digit is the one that is lost is
rounded to zero; its own binary number is not zero, small as it may be.

Key definitions: `ScaledDecimal.value`, `ScaledDecimal.error`, `Number.ofRounded`.
Key theorems: `ScaledDecimal.round_min`, `ScaledDecimal.error_le_error`,
`ScaledDecimal.toBinary64_lastDigit`, `Number.round?_min`, `Number.exists_lost_digit`.
-/
import RowQuery.Number
import RowQuery.Proofs.Number.Decimal
import Mathlib.Algebra.Order.Field.Basic
import Mathlib.Algebra.Order.Field.Rat

namespace RowQuery

attribute [local irreducible] Binary64.one Binary64.limit

namespace ScaledDecimal

/-! ### More digits -/

/-- The number that a decimal is. -/
def value (d : ScaledDecimal) : ℚ := d.signed / 10 ^ d.scale

/-- How far a decimal is from what it is rounded to. -/
def error (d : ScaledDecimal) (digits : Nat) : ℚ := |(d.round digits).value - d.value|

variable {d : ScaledDecimal} {m n : Nat}

/-- Digits beyond those of the format make no difference. -/
theorem round_min (h : d.Fits) (n : Nat) : d.round (min n maxScale) = d.round n := by
  have hscale := h.scale
  unfold round
  split
  · rw [Nat.min_assoc, Nat.min_self]
  · by_cases hle : d.scale ≤ n
    · rw [if_pos hle, if_pos (Nat.le_min.2 ⟨hle, hscale⟩)]
    · rw [Nat.min_eq_left (by omega)]

theorem round_of_scale_le (hm : d.mantissa ≠ 0) (h : d.scale ≤ n) : d.round n = d := by
  unfold round
  rw [if_neg hm, if_pos h]

theorem value_of_mantissa_eq_zero (h : d.mantissa = 0) : d.value = 0 := by
  unfold value signed
  rw [h]
  split <;> simp

theorem error_of_mantissa_eq_zero (h : d.mantissa = 0) (n : Nat) : d.error n = 0 := by
  have hround : (d.round n).mantissa = 0 := by
    unfold round
    rw [if_pos h]
  unfold error
  rw [value_of_mantissa_eq_zero h, value_of_mantissa_eq_zero hround, sub_self, abs_zero]

theorem error_of_scale_le (h : d.scale ≤ n) : d.error n = 0 := by
  by_cases hm : d.mantissa = 0
  · exact error_of_mantissa_eq_zero hm n
  · unfold error
    rw [round_of_scale_le hm h, sub_self, abs_zero]

/-- How far a mantissa is from the multiple of a unit that it is rounded to. -/
def offset (mantissa unit : Nat) : Int :=
  |((mantissa + unit / 2) / unit * unit : Nat) - (mantissa : Int)|

/-- No multiple of the unit is nearer. -/
theorem offset_le (mantissa : Nat) {unit : Nat} (hunit : 0 < unit) (k : Nat) :
    offset mantissa unit ≤ |((k * unit : Nat) : Int) - mantissa| := by
  have hdiv := Nat.div_add_mod (mantissa + unit / 2) unit
  have hmod := Nat.mod_lt (mantissa + unit / 2) hunit
  unfold offset
  set q := (mantissa + unit / 2) / unit
  rw [Nat.mul_comm] at hdiv
  rcases Nat.lt_trichotomy k q with hlt | rfl | hgt
  · have hle : k * unit + unit ≤ q * unit := by
      rw [← Nat.succ_mul]
      exact Nat.mul_le_mul_right _ hlt
    rw [abs_le]
    constructor
    all_goals
      rw [abs_of_nonpos (by omega)]
      omega
  · exact le_rfl
  · have hle : q * unit + unit ≤ k * unit := by
      rw [← Nat.succ_mul]
      exact Nat.mul_le_mul_right _ hgt
    rw [abs_le]
    constructor
    all_goals
      rw [abs_of_nonneg (by omega)]
      omega

/-- The distance to a rounded decimal, in terms of the digits that it loses. -/
theorem error_eq (hm : d.mantissa ≠ 0) (h : n < d.scale) :
    d.error n = offset d.mantissa (10 ^ (d.scale - n)) / 10 ^ d.scale := by
  have hpower : (10 : ℚ) ^ d.scale = 10 ^ n * 10 ^ (d.scale - n) := by
    rw [← pow_add, Nat.add_sub_cancel' h.le]
  have hpos : (0 : ℚ) < 10 ^ d.scale := pow_pos (by decide) _
  unfold error offset value signed round
  rw [if_neg hm, if_neg (Nat.not_le_of_lt h)]
  dsimp only
  set q := (d.mantissa + 10 ^ (d.scale - n) / 2) / 10 ^ (d.scale - n)
  have hsign : (if (d.negative && q != 0) = true then -(q : Int) else q) =
      if d.negative then -(q : Int) else q := by
    by_cases hq : q = 0
    · simp [hq]
    · simp [hq]
  have hgrid : (q : ℚ) / 10 ^ n = q * 10 ^ (d.scale - n) / 10 ^ d.scale := by
    rw [hpower, mul_div_mul_right _ _ (pow_pos (by decide) _).ne']
  have hoffset : ((|((q * 10 ^ (d.scale - n) : Nat) : Int) - d.mantissa| : Int) : ℚ) / 10 ^ d.scale =
      |(q : ℚ) / 10 ^ n - d.mantissa / 10 ^ d.scale| := by
    rw [hgrid, ← sub_div, abs_div, abs_of_pos hpos]
    push_cast
    rfl
  rw [hsign, hoffset]
  split
  · push_cast
    rw [neg_div, neg_div, neg_sub_neg, abs_sub_comm]
  · push_cast
    rfl

/-- **To round to more digits** does not take a decimal farther away. -/
theorem error_le_error (d : ScaledDecimal) (h : m ≤ n) : d.error n ≤ d.error m := by
  have hnonneg : 0 ≤ d.error m := abs_nonneg _
  by_cases hm : d.mantissa = 0
  · rwa [error_of_mantissa_eq_zero hm]
  by_cases hscale : d.scale ≤ n
  · rwa [error_of_scale_le hscale]
  -- a multiple of the greater unit is one of the smaller
  have hunit : 10 ^ (d.scale - m) = 10 ^ (n - m) * 10 ^ (d.scale - n) := by
    rw [← Nat.pow_add]
    congr 1
    omega
  rw [error_eq hm (by omega), error_eq hm (by omega)]
  refine div_le_div_of_nonneg_right ?_ (pow_pos (by decide) _).le
  have hpos : 0 < 10 ^ (d.scale - n) := Nat.pow_pos (by decide)
  have hle := offset_le d.mantissa hpos
    ((d.mantissa + 10 ^ (d.scale - m) / 2) / 10 ^ (d.scale - m) * 10 ^ (n - m))
  rw [Nat.mul_assoc, ← hunit] at hle
  exact Int.cast_le.2 hle

end ScaledDecimal

/-! ### Lower bounds in binary -/

namespace Binary64

/-- Positive, and no less than a count of units. -/
def AtLeast (count : Nat) : Binary64 → Prop
  | .finite negative units _ => negative = false ∧ count ≤ units
  | .infinite negative => negative = false
  | .notANumber => False

variable {x : Binary64}

theorem AtLeast.isZero_eq_false {count : Nat} (hcount : 0 < count) (h : x.AtLeast count) :
    x.isZero = false := by
  unfold isZero rank
  cases x with
  | notANumber => exact h.elim
  | infinite negative =>
    obtain rfl : negative = false := h
    have hne : (limit : Int) ≠ 0 := Int.natCast_ne_zero.2 limit_pos.ne'
    exact beq_eq_false_iff_ne.2 fun hzero => hne (Option.some.inj hzero)
  | finite negative units hrep =>
    obtain ⟨rfl, hle⟩ := h
    have hne : (units : Int) ≠ 0 := Int.natCast_ne_zero.2 (hcount.trans_le hle).ne'
    exact beq_eq_false_iff_ne.2 fun hzero => hne (Option.some.inj hzero)

theorem AtLeast.ne_zero {count : Nat} (hcount : 0 < count) (h : x.AtLeast count) :
    x ≠ zero false := by
  rintro rfl
  exact (Nat.not_le_of_lt hcount) h.2

theorem atLeast_ofUnits {count units : Nat} (h : count ≤ units) :
    (ofUnits false units).AtLeast count := by
  unfold ofUnits
  split
  · exact ⟨rfl, h⟩
  · exact rfl

theorem atLeast_roundUnits {num den k : Nat} (hden : 0 < den) (h : 2 ^ k * den ≤ num) :
    (roundUnits false num den).AtLeast (2 ^ k) :=
  atLeast_ofUnits (two_pow_le_nearest hden h)

theorem atLeast_zero_add {k : Nat} (h : x.AtLeast (2 ^ k)) : (zero false + x).AtLeast (2 ^ k) := by
  cases x with
  | notANumber => exact h.elim
  | infinite => exact h
  | finite negative units hrep =>
    obtain ⟨rfl, hle⟩ := h
    have hpos := Nat.two_pow_pos k
    have hsum : signed false 0 + signed false units = units := Int.zero_add _
    show (if _ then _ else _ : Binary64).AtLeast _
    rw [hsum, if_neg (by omega), decide_eq_false (by omega)]
    exact atLeast_roundUnits Nat.one_pos (by rwa [Nat.mul_one])

section Factor

variable {j k n : Nat} (hn : Representable n)

theorem atLeast_mul (h : x.AtLeast j) (hpos : n ≠ 0) (hle : 2 ^ k * one ≤ j * n) :
    (x * .finite false n hn).AtLeast (2 ^ k) := by
  cases x with
  | notANumber => exact h.elim
  | infinite negative =>
    obtain rfl : negative = false := h
    show (if _ then _ else _ : Binary64).AtLeast _
    rw [if_neg hpos]
    rfl
  | finite negative units hrep =>
    obtain ⟨rfl, hj⟩ := h
    exact atLeast_roundUnits one_pos (hle.trans (Nat.mul_le_mul_right n hj))

theorem atLeast_div (h : x.AtLeast j) (hpos : n ≠ 0) (hle : 2 ^ k * n ≤ j * one) :
    (x / .finite false n hn).AtLeast (2 ^ k) := by
  cases x with
  | notANumber => exact h.elim
  | infinite negative =>
    obtain rfl : negative = false := h
    rfl
  | finite negative units hrep =>
    obtain ⟨rfl, hj⟩ := h
    show (if _ then _ else _ : Binary64).AtLeast _
    rw [if_neg hpos]
    exact atLeast_roundUnits (Nat.pos_of_ne_zero hpos) (hle.trans (Nat.mul_le_mul_right _ hj))

end Factor

/-- A number from one half on is rounded to one at least. -/
theorem atLeast_round {k : Nat} (h : x.AtLeast k) (hk : one ≤ 2 * k) : x.round.AtLeast one := by
  cases x with
  | notANumber => exact h.elim
  | infinite negative => exact h
  | finite negative units hrep =>
    obtain ⟨rfl, hle⟩ := h
    have hpos := one_pos
    have hquot : 1 ≤ (2 * units + one) / (2 * one) :=
      (Nat.le_div_iff_mul_le (by omega)).2 (by omega)
    exact atLeast_ofUnits (Nat.le_mul_of_pos_left _ hquot)

end Binary64

namespace ScaledDecimal

/-! ### The last digit -/

/-- The decimal whose only digit is a one at the end. -/
def lastDigit (scale : Nat) : ScaledDecimal := ⟨false, 1, scale⟩

/-- The power of two below a quotient, which is more than half of it. -/
theorem exists_two_pow_mul {num den : Nat} (hden : 0 < den) (h : den ≤ num) :
    ∃ k, 2 ^ k * den ≤ num ∧ num < 2 * (2 ^ k * den) := by
  have hquot : num / den ≠ 0 := (Nat.div_pos h hden).ne'
  refine ⟨(num / den).log2, (Nat.le_div_iff_mul_le hden).1 (Nat.log2_self_le hquot), ?_⟩
  rw [← Nat.mul_assoc, ← Nat.pow_succ']
  exact (Nat.div_lt_iff_lt_mul hden).1 Nat.lt_log2_self

/-- The bits of the quotient of one by a power of ten: times the power they make half of one at
least. -/
theorem exists_quotient_bits {n : Nat} (hpos : 0 < n) (h : n ≤ 2 ^ 94 * Binary64.one) :
    ∃ k half, Binary64.one = 2 ^ (half + 1) ∧ 2 ^ k * n ≤ Binary64.one * Binary64.one ∧
      2 ^ half * Binary64.one ≤ 2 ^ k * n := by
  obtain ⟨b, hlarge, hb⟩ := Binary64.exists_le_one_eq_two_pow
  have hhalf : Binary64.one = 2 ^ (b - 1 + 1) := by rw [hb, Nat.sub_add_cancel (by omega)]
  have hpower : 2 ^ 94 ≤ Binary64.one := by
    rw [hb]
    exact Nat.pow_le_pow_right (by decide) (by omega)
  obtain ⟨k, hlow, hhigh⟩ := exists_two_pow_mul hpos (h.trans (Nat.mul_le_mul_right _ hpower))
  have hmul : Binary64.one * Binary64.one = 2 * (2 ^ (b - 1) * Binary64.one) := by
    rw [← Nat.mul_assoc, ← Nat.pow_succ', ← hhalf]
  exact ⟨k, b - 1, hhalf, hlow, by omega⟩

/-- **The last digit of a decimal is not lost in binary.** -/
theorem toBinary64_lastDigit {scale : Nat} (hpos : scale ≠ 0) (h : scale ≤ maxScale) :
    (lastDigit scale).toBinary64 ≠ .zero false := by
  obtain ⟨s, n, hn, hpower, hone, hwithin⟩ := ofRatio_ten_pow h
  have hn0 : 0 < n := Binary64.one_pos.trans_le hone
  obtain ⟨k, half, hhalf, hlow, hproduct⟩ := exists_quotient_bits hn0 hwithin
  have hdigit : (Binary64.ofRatio false 1 1).AtLeast Binary64.one := by
    rw [hhalf]
    refine Binary64.atLeast_roundUnits Nat.one_pos ?_
    rw [hhalf, Nat.mul_one, Nat.one_mul]
  have hscale : (Binary64.ofRatio false (10 ^ scale) 1).AtLeast (2 ^ 0) :=
    Binary64.atLeast_roundUnits Nat.one_pos
      (Nat.mul_pos (Nat.pow_pos (by decide)) Binary64.one_pos)
  rw [hpower] at hscale
  obtain rfl : s = false := hscale.1
  have hfraction := Binary64.atLeast_div hn hdigit hn0.ne' hlow
  have hwhole := Binary64.atLeast_mul hn (Binary64.atLeast_zero_add hfraction) hn0.ne' hproduct
  have hrounded := Binary64.atLeast_round hwhole (by rw [hhalf, ← Nat.pow_succ'])
  have hvalue := Binary64.atLeast_div hn hrounded hn0.ne' hlow
  have hten : 1 < 10 ^ scale := Nat.one_lt_pow hpos (by decide)
  have hnonzero : (Binary64.ofRatio false 1 1 / .finite false n hn).isZero = false :=
    hfraction.isZero_eq_false (Nat.two_pow_pos k)
  unfold toBinary64 lastDigit
  dsimp only
  rw [if_neg hpos, Nat.div_eq_of_lt hten, Nat.mod_eq_of_lt hten, hpower, hnonzero]
  unfold Binary64.ofRatio at hvalue ⊢
  rw [Nat.zero_mul, Binary64.roundUnits_zero]
  exact hvalue.ne_zero (Nat.two_pow_pos k)

/-- A decimal of no digits is zero in binary. -/
theorem toBinary64_zero {scale : Nat} (h : scale ≤ maxScale) :
    (⟨false, 0, scale⟩ : ScaledDecimal).toBinary64 = .zero false := by
  obtain ⟨s, n, hn, hpower, hone, -⟩ := ofRatio_ten_pow h
  have hwhole : Binary64.ofRatio false 0 1 = .zero false := by
    unfold Binary64.ofRatio
    rw [Nat.zero_mul, Binary64.roundUnits_zero]
  have hfraction : (Binary64.zero false / .finite s n hn).isZero = true := by
    show (if _ then _ else _ : Binary64).isZero = true
    rw [if_neg (Binary64.one_pos.trans_le hone).ne', Nat.zero_mul, Binary64.roundUnits_zero]
    cases s <;> rfl
  unfold toBinary64
  dsimp only
  split
  · exact hwhole
  · rw [Nat.zero_div, Nat.zero_mod, hwhole, hpower, hfraction]
    rfl

/-- The last digit is the decimal of a floating-point number. -/
theorem ofBinary64?_lastDigit : ∀ scale ≤ maxScale,
    ofBinary64? (.ofDecimal false 1 (-(scale : Int))) = some (lastDigit scale) := by
  decide +kernel

end ScaledDecimal

/-! ### Rounded numbers -/

namespace Number

open ScaledDecimal (lastDigit ofBinary64?_lastDigit)

/-- The number of a rounded decimal; with no digits, an integer of 64 bits if it is one. -/
def ofRounded (digits : Nat) (d : ScaledDecimal) : Number :=
  match if digits = 0 then d.toInt64? else none with
  | some n => .integer n
  | none => .float d.toBinary64

theorem ofRounded_of_ne_zero {n : Nat} (hn : n ≠ 0) (d : ScaledDecimal) :
    ofRounded n d = .float d.toBinary64 := by
  unfold ofRounded
  rw [if_neg hn]

theorem round?_float (x : Binary64) (n : Nat) :
    (float x).round? n = (ScaledDecimal.ofBinary64? x).map fun d => ofRounded n (d.round n) := rfl

/-- Digits beyond those of the decimals make no difference to a number. -/
theorem round?_min (r : Number) (n : Nat) :
    r.round? (min n ScaledDecimal.maxScale) = r.round? n := by
  cases r with
  | integer k => rfl
  | float x =>
    have hzero : min n ScaledDecimal.maxScale = 0 ↔ n = 0 := by
      unfold ScaledDecimal.maxScale
      omega
    rw [round?_float, round?_float]
    refine Option.map_congr fun d hd => ?_
    unfold ofRounded
    simp only [ScaledDecimal.round_min (ScaledDecimal.ofBinary64?_fits hd), hzero]

/-- **Each digit of the format counts**: there is a number that loses a digit by a rounding to
fewer. -/
theorem exists_lost_digit {m n : Nat}
    (h : min m ScaledDecimal.maxScale < min n ScaledDecimal.maxScale) :
    ∃ x d, ScaledDecimal.ofBinary64? x = some d ∧ d.error n < d.error m ∧
      (float x).round? m ≠ (float x).round? n := by
  have hlt : m < n := by omega
  have hdecimal := ofBinary64?_lastDigit (m + 1) (by omega)
  have hscale : (lastDigit (m + 1)).scale = m + 1 := rfl
  have hmantissa : (lastDigit (m + 1)).mantissa = 1 := rfl
  have hkept : (lastDigit (m + 1)).round n = lastDigit (m + 1) :=
    ScaledDecimal.round_of_scale_le Nat.one_ne_zero hlt
  have hlost : (lastDigit (m + 1)).round m = ⟨false, 0, m⟩ := by
    unfold ScaledDecimal.round
    rw [hmantissa, hscale, if_neg Nat.one_ne_zero, if_neg (by omega), Nat.add_sub_cancel_left]
    rfl
  refine ⟨_, _, hdecimal, ?_, ?_⟩
  · have hoffset : ScaledDecimal.offset 1 (10 ^ 1) = 1 := by decide
    rw [ScaledDecimal.error_of_scale_le hlt,
      ScaledDecimal.error_eq Nat.one_ne_zero (Nat.lt_succ_self m),
      hmantissa, hscale, Nat.add_sub_cancel_left, hoffset, Int.cast_one]
    exact div_pos one_pos (pow_pos (by decide) _)
  · rw [round?_float, round?_float, hdecimal, Option.map_some, Option.map_some, hlost, hkept,
      ofRounded_of_ne_zero (Nat.ne_of_gt (Nat.zero_lt_of_lt hlt))]
    intro heq
    unfold ofRounded at heq
    split at heq
    · cases heq
    · rw [ScaledDecimal.toBinary64_zero (by omega)] at heq
      exact ScaledDecimal.toBinary64_lastDigit (Nat.succ_ne_zero m) (by omega)
        (float.inj (Option.some.inj heq)).symm

end Number

end RowQuery
