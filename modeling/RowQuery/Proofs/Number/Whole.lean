/-
# Integers as floating-point numbers

The floating-point number nearest to an integer of 64 bits is whole: it is the
integer without what goes beyond its first 53 bits. So which one it is can be said
of integers alone, by the rounding that the format does with counts of units.
Rounding keeps the order of numbers, though it may make one number of several, and
it leaves integers of at most 53 bits as they are.

A whole number has a decimal without digits after the point, which is this number, if it is below
`2 ^ 96` in magnitude, and none if it is not.

Key definitions: `nearestInt`, `ScaledDecimal.Whole`.
Key theorems: `Binary64.nearest_mono`, `Binary64.ofInt_finite`, `nearestInt_mono`,
`nearestInt_of_natAbs_le`, `ScaledDecimal.ofBinary64?_ofInt`.
-/
import RowQuery.Proofs.Number.Decimal
import RowQuery.Proofs.Number.Shortest

namespace RowQuery

namespace Binary64

attribute [local irreducible] one limit

/-! ### Rounding keeps the order -/

theorem roundHalfEven_mono {m n : Nat} (den : Nat) (h : m ≤ n) :
    roundHalfEven m den ≤ roundHalfEven n den := by
  have hdiv : m / den ≤ n / den := Nat.div_le_div_right h
  have hm := Nat.div_add_mod m den
  have hn := Nat.div_add_mod n den
  unfold roundHalfEven
  dsimp only
  rcases hdiv.lt_or_eq with hlt | heq
  · split <;> split <;> omega
  · -- the quotients are equal, so it is the remainders that decide
    rw [heq] at hm ⊢
    have hrem : m % den ≤ n % den := by omega
    split <;> split <;> omega

/-- **Rounding a natural to 53 bits keeps the order.** -/
theorem nearest_mono {m n : Nat} (h : m ≤ n) : nearest m 1 ≤ nearest n 1 := by
  rcases Nat.eq_zero_or_pos m with rfl | hpos
  · have hzero : nearest 0 1 = 0 := by decide
    rw [hzero]
    exact Nat.zero_le _
  have hm : m ≠ 0 := hpos.ne'
  have hn : n ≠ 0 := (hpos.trans_le h).ne'
  have hlog : m.log2 ≤ n.log2 := (Nat.le_log2 hn).2 ((Nat.log2_self_le hm).trans h)
  rcases hlog.lt_or_eq with hlt | heq
  · -- a power of two lies between the two numbers, and so between what they are rounded to
    have hbelow : m ≤ 2 ^ n.log2 := ((Nat.log2_lt hm).1 hlt).le
    have habove : 2 ^ n.log2 ≤ n := Nat.log2_self_le hn
    calc nearest m 1 ≤ 2 ^ n.log2 := nearest_le_two_pow Nat.one_pos (by rwa [Nat.mul_one])
      _ ≤ nearest n 1 := two_pow_le_nearest Nat.one_pos (by rwa [Nat.mul_one])
  · have hstep : stepBits m = stepBits n := by
      unfold stepBits
      rw [heq]
    unfold nearest
    simp only [Nat.div_one, Nat.one_mul, hstep]
    exact Nat.mul_le_mul_right _ (roundHalfEven_mono _ h)

/-! ### Whole numbers -/

theorem roundHalfEven_mul_right (n den : Nat) {c : Nat} (hc : 0 < c) :
    roundHalfEven (n * c) (den * c) = roundHalfEven n den := by
  have hlt : den * c < 2 * (n % den * c) ↔ den < 2 * (n % den) := by
    rw [← Nat.mul_assoc]
    exact Nat.mul_lt_mul_right hc
  have heq : 2 * (n % den * c) = den * c ↔ 2 * (n % den) = den := by
    rw [← Nat.mul_assoc]
    exact Nat.mul_left_inj hc.ne'
  unfold roundHalfEven
  dsimp only
  rw [Nat.mul_div_mul_right _ _ hc, Nat.mul_mod_mul_right]
  simp only [hlt, heq]

/-- A natural of at most 53 bits is not rounded. -/
theorem nearest_of_le {n : Nat} (h : n ≤ 2 ^ 53) : nearest n 1 = n := by
  obtain ⟨b, -, hlim⟩ := exists_one_eq_two_pow
  have hlt : n < limit := by
    calc n ≤ 2 ^ 53 := h
      _ ≤ 2 ^ (53 + b) := Nat.pow_le_pow_right (by decide) (Nat.le_add_right 53 b)
      _ < limit := hlim 53 (by decide)
  refine nearest_of_representable (representable_of_dvd (k := 0) hlt h ?_)
  rw [Nat.pow_zero]
  exact Nat.one_dvd n

/-- **Whole numbers are rounded to whole numbers**, as naturals are rounded to 53 bits. -/
theorem nearest_mul_one (n : Nat) : nearest (n * one) 1 = nearest n 1 * one := by
  obtain ⟨b, hb, -⟩ := exists_one_eq_two_pow
  rcases Nat.lt_or_ge (2 ^ 53) n with hlarge | hsmall
  · have hn : n ≠ 0 := by omega
    have hunits : n * one ≠ 0 := Nat.mul_ne_zero hn one_pos.ne'
    have hlog : 53 ≤ n.log2 := (Nat.le_log2 hn).2 hlarge.le
    have hlogs : (n * one).log2 = n.log2 + b := by
      rw [Nat.log2_eq_iff hunits, hb, Nat.pow_add, Nat.add_right_comm, Nat.pow_add]
      exact ⟨Nat.mul_le_mul_right _ (Nat.log2_self_le hn),
        Nat.mul_lt_mul_of_pos_right Nat.lt_log2_self (Nat.two_pow_pos b)⟩
    have hstep : stepBits (n * one) = stepBits n + b := by
      unfold stepBits
      omega
    unfold nearest
    simp only [Nat.div_one, Nat.one_mul]
    rw [hstep, Nat.pow_add, hb, roundHalfEven_mul_right _ _ (Nat.two_pow_pos b), Nat.mul_assoc]
  · rw [nearest_of_le hsmall, nearest_of_representable (representable_mul_one hsmall)]

end Binary64

/-! ### Integers -/

/-- The whole number that is the floating-point number nearest to an integer. -/
def nearestInt (n : Int) : Int := Binary64.signed (n < 0) (Binary64.nearest n.natAbs 1)

theorem nearestInt_of_natAbs_le {n : Int} (h : n.natAbs ≤ 2 ^ 53) : nearestInt n = n := by
  unfold nearestInt
  rw [Binary64.nearest_of_le h]
  exact Number.signed_natAbs n

/-- **Rounding integers keeps their order.** -/
theorem nearestInt_mono {m n : Int} (h : m ≤ n) : nearestInt m ≤ nearestInt n := by
  unfold nearestInt Binary64.signed
  by_cases hm : m < 0
  · by_cases hn : n < 0
    · have hle := Binary64.nearest_mono (show n.natAbs ≤ m.natAbs by omega)
      simp only [hm, hn, decide_true, if_true]
      omega
    · simp only [hm, hn, decide_true, decide_false, if_true, Bool.false_eq_true, if_false]
      omega
  · have hn : ¬ n < 0 := by omega
    have hle := Binary64.nearest_mono (show m.natAbs ≤ n.natAbs by omega)
    simp only [hm, hn, decide_false, Bool.false_eq_true, if_false]
    omega

namespace Binary64

attribute [local irreducible] one limit

/-- **The floating-point number nearest to an integer is whole.** -/
theorem ofInt_finite {n : Int} (h : n.natAbs ≤ 2 ^ 63) :
    ∃ hrep, ofInt n = .finite (n < 0) (nearest n.natAbs 1 * one) hrep := by
  have hwithin : (ofInt n).Within 63 := within_ofInt (by decide) h
  unfold ofInt ofRatio roundUnits ofUnits at hwithin ⊢
  rw [nearest_mul_one] at hwithin ⊢
  split at hwithin
  · rename_i hrep
    exact ⟨hrep, dif_pos hrep⟩
  · exact hwithin.elim

/-- The place of an integer on the line is that of the whole number it is rounded to. -/
theorem rank_ofInt {n : Int} (h : n.natAbs ≤ 2 ^ 63) :
    (ofInt n).rank = some (nearestInt n * one) := by
  obtain ⟨hrep, hn⟩ := ofInt_finite h
  rw [hn]
  show some (signed _ (nearest n.natAbs 1 * one)) = _
  unfold nearestInt signed
  split <;> simp

end Binary64

theorem natAbs_toInt_le (n : Int64) : n.toInt.natAbs ≤ 2 ^ 63 := by
  have hlow := n.le_toInt
  have hhigh := n.toInt_lt
  omega

/-! ### Decimals of whole numbers -/

namespace ScaledDecimal

/-- The decimal is an integer, written without digits after the point. -/
structure Whole (d : ScaledDecimal) (n : Int) : Prop where
  scale : d.scale = 0
  signed : d.signed = n

theorem Whole.mantissa {d : ScaledDecimal} {n : Int} (h : d.Whole n) : d.mantissa = n.natAbs := by
  have hsigned := h.signed
  unfold ScaledDecimal.signed at hsigned
  split at hsigned <;> omega

/-- Halvings of a number that has as many factors two are divisions. -/
theorem clearHalvings_mul : ∀ (k m : Nat) (e : Int), clearHalvings k (m * 2 ^ k) e = (m, e + k)
  | 0, m, e => by simp [clearHalvings]
  | k + 1, m, e => by
    have heven : m * 2 ^ (k + 1) % 2 = 0 := by
      rw [Nat.pow_succ, ← Nat.mul_assoc]
      exact Nat.mul_mod_left _ 2
    have hhalf : m * 2 ^ (k + 1) / 2 = m * 2 ^ k := by
      rw [Nat.pow_succ, ← Nat.mul_assoc]
      exact Nat.mul_div_cancel _ (by decide)
    unfold clearHalvings
    rw [if_pos heven, hhalf, clearHalvings_mul k m (e + 1)]
    congr 1
    push_cast
    ring

/-- Doublings that stay within 96 bits are all done. -/
theorem clearDoublings_mul : ∀ (k m : Nat) (e : Int), m * 2 ^ k < 2 ^ 96 →
    clearDoublings k m e = some (m * 2 ^ k, e - k)
  | 0, m, e, _ => by simp [clearDoublings]
  | k + 1, m, e, h => by
    have hdouble : m * 2 * 2 ^ k = m * 2 ^ (k + 1) := by ring
    have hlt : m < 2 ^ 95 := by
      have hpow : 2 ≤ 2 ^ (k + 1) := Nat.le_self_pow (by omega) 2
      have hle : m * 2 ≤ m * 2 ^ (k + 1) := Nat.mul_le_mul_left m hpow
      omega
    unfold clearDoublings
    rw [if_pos hlt, clearDoublings_mul k (m * 2) (e - 1) (by rwa [hdouble]), hdouble]
    congr 2
    push_cast
    ring

/-- Doublings that would go beyond 96 bits leave nothing, as the power of ten is still as large as
the number of those to be done. -/
theorem clearDoublings_eq_none : ∀ (k m : Nat), m < 2 ^ 96 → 2 ^ 96 ≤ m * 2 ^ k →
    clearDoublings k m k = none
  | 0, m, hlt, hle => by omega
  | k + 1, m, hlt, hle => by
    have hdouble : m * 2 * 2 ^ k = m * 2 ^ (k + 1) := by ring
    unfold clearDoublings
    by_cases hroom : m < 2 ^ 95
    · have hnext : ((k + 1 : Nat) : Int) - 1 = k := by omega
      rw [if_pos hroom, hnext]
      exact clearDoublings_eq_none k (m * 2) (by omega) (by rwa [hdouble])
    · rw [if_neg hroom, if_pos (by omega)]

theorem ofPower?_zero (negative : Bool) (m : Nat) : ofPower? negative m 0 = some ⟨negative, m, 0⟩ :=
  rfl

/-- A whole number comes in as it is, unless it is too large. -/
theorem ofBinary64?_whole {negative : Bool} {units w : Nat} {hrep : Binary64.Representable units}
    (hunits : units = w * Binary64.one) :
    ofBinary64? (.finite negative units hrep) =
      if w < limit then some ⟨negative, w, 0⟩ else none := by
  -- the exponent of one is kept apart, so that its power is not computed
  obtain ⟨top, hone, htop⟩ : ∃ top, Binary64.one = 2 ^ top ∧ top = 1074 :=
    ⟨1074, by rw [Binary64.one], rfl⟩
  have hlarge := mantissa_lt_limit units
  obtain ⟨m, hm⟩ := hrep.2
  unfold ofBinary64?
  dsimp only
  rcases Nat.eq_zero_or_pos w with rfl | hpos
  · rw [Nat.zero_mul] at hunits
    rw [if_pos hunits, if_pos limit_pos]
  have hne : units ≠ 0 := hunits ▸ (Nat.mul_pos hpos Binary64.one_pos).ne'
  rw [if_neg hne, ← htop]
  generalize Binary64.stepBits units = bits at hm hlarge ⊢
  rw [hunits, hone] at hm
  have hmantissa : units / 2 ^ bits = m := by
    rw [hunits, hone, hm]
    exact Nat.mul_div_cancel_left m (Nat.two_pow_pos bits)
  rw [hmantissa] at hlarge ⊢
  split
  · -- below the last bit of the mantissa nothing but zeros stand before the point
    rename_i hbits
    have hshift : m = w * 2 ^ (top - bits) := by
      refine Nat.eq_of_mul_eq_mul_left (Nat.two_pow_pos bits) ?_
      rw [← hm, Nat.mul_left_comm, ← Nat.pow_add, Nat.add_sub_cancel' hbits]
    have hexponent : (bits : Int) - 1074 + ((top - bits : Nat) : Int) = 0 := by omega
    have hlt : w < limit := (hshift ▸ Nat.le_mul_of_pos_right w (Nat.two_pow_pos _)).trans_lt hlarge
    rw [hshift, clearHalvings_mul, hexponent, if_pos hlt]
    exact ofPower?_zero negative w
  · rename_i hbits
    have hwhole : m * 2 ^ (bits - top) = w := by
      refine Nat.eq_of_mul_eq_mul_right (Nat.two_pow_pos top) ?_
      rw [hm, Nat.mul_assoc, ← Nat.pow_add, Nat.sub_add_cancel (by omega), Nat.mul_comm]
    by_cases hlt : w < limit
    · have hexponent : (bits : Int) - 1074 - ((bits - top : Nat) : Int) = 0 := by omega
      rw [clearDoublings_mul _ _ _ (by rwa [hwhole]), hexponent, hwhole, if_pos hlt]
      exact ofPower?_zero negative w
    · have hexponent : (bits : Int) - 1074 = ((bits - top : Nat) : Int) := by omega
      have hle : limit ≤ m * 2 ^ (bits - top) := hwhole ▸ Nat.le_of_not_lt hlt
      rw [hexponent, clearDoublings_eq_none _ _ hlarge hle, if_neg hlt]
      rfl

/-- **The decimal for an integer is the whole number that the integer is rounded to.** -/
theorem ofBinary64?_ofInt {n : Int} (h : n.natAbs ≤ 2 ^ 63) :
    ∃ d, ofBinary64? (.ofInt n) = some d ∧ d.Whole (nearestInt n) := by
  obtain ⟨hrep, hn⟩ := Binary64.ofInt_finite h
  have hle : Binary64.nearest n.natAbs 1 ≤ 2 ^ 63 :=
    Binary64.nearest_le_two_pow Nat.one_pos (by rwa [Nat.mul_one])
  have hlt : Binary64.nearest n.natAbs 1 < limit := hle.trans_lt (by decide)
  rw [hn, ofBinary64?_whole rfl, if_pos hlt]
  exact ⟨_, rfl, rfl, rfl⟩

end ScaledDecimal

end RowQuery
