/-
# Rounding to the format

A rounded ratio lies between the same powers of two as the ratio itself, a
count that the format holds is not rounded at all, and a count that results
from rounding is one that the format holds. So a result is finite as soon as a
power of two below the limit bounds the exact one.

Key definitions: `Binary64.Within`.
Key theorems: `Binary64.nearest_le_two_pow`, `Binary64.two_pow_le_nearest`,
`Binary64.representable_nearest`, `Binary64.nearest_of_representable`,
`Binary64.within_ofRatio`.
-/
import RowQuery.Number.Binary64
import Mathlib.Tactic.Linarith
import Mathlib.Tactic.Ring

namespace RowQuery.Binary64

/-- One is a power of two, and further ones up to the limit are numbers too. The exponents are
nowhere else computed with. -/
theorem exists_one_eq_two_pow : ∃ b, one = 2 ^ b ∧ ∀ k < 1024, 2 ^ (k + b) < limit := by
  refine ⟨_, rfl, fun k hk => ?_⟩
  unfold limit
  apply Nat.pow_lt_pow_right (by decide)
  omega

/-- The power of two that one is has more bits than the mantissa of a decimal. -/
theorem exists_le_one_eq_two_pow : ∃ b, 96 ≤ b ∧ one = 2 ^ b := ⟨_, by decide, rfl⟩

attribute [local irreducible] one limit

/-! ### To the nearest natural -/

theorem roundHalfEven_le {num den bound : Nat} (hden : 0 < den) (h : num ≤ bound * den) :
    roundHalfEven num den ≤ bound := by
  have hdiv : num / den ≤ bound := Nat.div_le_of_le_mul (by rwa [Nat.mul_comm] at h)
  unfold roundHalfEven
  dsimp only
  split
  · -- something remains, so the quotient is below the bound
    rename_i hup
    have hrem : 0 < num % den := by
      rcases hup with hup | ⟨hup, -⟩ <;> omega
    by_contra hlt
    have heq : num / den = bound := by omega
    have := Nat.div_add_mod num den
    rw [heq, Nat.mul_comm] at this
    omega
  · exact hdiv

theorem le_roundHalfEven {num den bound : Nat} (hden : 0 < den) (h : bound * den ≤ num) :
    bound ≤ roundHalfEven num den := by
  have hdiv : bound ≤ num / den := (Nat.le_div_iff_mul_le hden).2 h
  unfold roundHalfEven
  dsimp only
  split <;> omega

theorem roundHalfEven_mul {n den : Nat} (hden : 0 < den) : roundHalfEven (n * den) den = n :=
  Nat.le_antisymm (roundHalfEven_le hden le_rfl) (le_roundHalfEven hden le_rfl)

/-! ### To the nearest count -/

theorem nearest_zero (den : Nat) : nearest 0 den = 0 := by
  unfold nearest roundHalfEven
  simp

theorem roundUnits_zero (negative : Bool) (den : Nat) :
    roundUnits negative 0 den = zero negative := by
  unfold roundUnits
  rw [nearest_zero]
  exact dif_pos _

theorem stepBits_le {units k : Nat} (h : units ≤ 2 ^ k) : stepBits units ≤ k := by
  unfold stepBits
  rcases Nat.eq_zero_or_pos units with rfl | hpos
  · simp
  · have hlog : 2 ^ units.log2 ≤ 2 ^ k := (Nat.log2_self_le hpos.ne').trans h
    have := (Nat.pow_le_pow_iff_right (by decide : 1 < 2)).1 hlog
    omega

theorem two_pow_sub_mul {n k : Nat} (h : n ≤ k) : 2 ^ (k - n) * 2 ^ n = 2 ^ k := by
  rw [← Nat.pow_add, Nat.sub_add_cancel h]

/-- A power of two above a ratio is above what it is rounded to. -/
theorem nearest_le_two_pow {num den k : Nat} (hden : 0 < den) (h : num ≤ 2 ^ k * den) :
    nearest num den ≤ 2 ^ k := by
  have hbits : stepBits (num / den) ≤ k :=
    stepBits_le (Nat.div_le_of_le_mul (by rwa [Nat.mul_comm] at h))
  unfold nearest
  dsimp only
  rw [← two_pow_sub_mul hbits] at h ⊢
  refine Nat.mul_le_mul_right _ (roundHalfEven_le (Nat.mul_pos hden (Nat.two_pow_pos _)) ?_)
  calc num ≤ 2 ^ (k - stepBits (num / den)) * 2 ^ stepBits (num / den) * den := h
    _ = 2 ^ (k - stepBits (num / den)) * (den * 2 ^ stepBits (num / den)) := by ring

/-- A power of two below a ratio is below what it is rounded to. -/
theorem two_pow_le_nearest {num den k : Nat} (hden : 0 < den) (h : 2 ^ k * den ≤ num) :
    2 ^ k ≤ nearest num den := by
  have hquot : 2 ^ k ≤ num / den := (Nat.le_div_iff_mul_le hden).2 h
  have hne : num / den ≠ 0 := by have := Nat.two_pow_pos k; omega
  unfold nearest
  dsimp only
  by_cases hbits : stepBits (num / den) ≤ k
  · rw [← two_pow_sub_mul hbits] at h ⊢
    refine Nat.mul_le_mul_right _ (le_roundHalfEven (Nat.mul_pos hden (Nat.two_pow_pos _)) ?_)
    calc 2 ^ (k - stepBits (num / den)) * (den * 2 ^ stepBits (num / den))
        = 2 ^ (k - stepBits (num / den)) * 2 ^ stepBits (num / den) * den := by ring
      _ ≤ num := h
  · -- one step is above the bound already
    have hone : 1 ≤ roundHalfEven num (den * 2 ^ stepBits (num / den)) := by
      refine le_roundHalfEven (Nat.mul_pos hden (Nat.two_pow_pos _)) ?_
      rw [Nat.one_mul, Nat.mul_comm]
      refine (Nat.le_div_iff_mul_le hden).1 (le_trans ?_ (Nat.log2_self_le hne))
      exact Nat.pow_le_pow_right (by decide) (Nat.sub_le _ _)
    calc 2 ^ k ≤ 2 ^ stepBits (num / den) := Nat.pow_le_pow_right (by decide) (by omega)
      _ ≤ _ := Nat.le_mul_of_pos_left _ hone

/-- A quotient fills at most 53 bits, so it is rounded to `2 ^ 53` steps at most. -/
theorem roundHalfEven_step_le {num den : Nat} (hden : 0 < den) :
    roundHalfEven num (den * 2 ^ stepBits (num / den)) ≤ 2 ^ 53 := by
  refine roundHalfEven_le (Nat.mul_pos hden (Nat.two_pow_pos _)) ?_
  have hlt : num / den < 2 ^ 53 * 2 ^ stepBits (num / den) := by
    rw [← Nat.pow_add]
    refine Nat.lt_log2_self.trans_le (Nat.pow_le_pow_right (by decide) ?_)
    unfold stepBits
    omega
  have := (Nat.div_lt_iff_lt_mul hden).1 hlt
  calc num ≤ 2 ^ 53 * 2 ^ stepBits (num / den) * den := this.le
    _ = 2 ^ 53 * (den * 2 ^ stepBits (num / den)) := by ring

theorem representable_of_dvd {units k : Nat} (hlim : units < limit) (hle : units ≤ 2 ^ (k + 53))
    (hdvd : 2 ^ k ∣ units) : Representable units := by
  refine And.intro hlim ?_
  rcases Nat.lt_or_eq_of_le hle with hlt | heq
  · refine Nat.dvd_trans (Nat.pow_dvd_pow 2 ?_) hdvd
    unfold stepBits
    rcases Nat.eq_zero_or_pos units with rfl | hpos
    · simp
    · have := (Nat.log2_lt hpos.ne').2 hlt
      omega
  · generalize k + 53 = n at heq
    rw [heq]
    exact Nat.pow_dvd_pow 2 (stepBits_le le_rfl)

/-- What a ratio is rounded to is a count that the format holds, below the limit. -/
theorem representable_nearest {num den : Nat} (hden : 0 < den) (h : nearest num den < limit) :
    Representable (nearest num den) := by
  refine representable_of_dvd (k := stepBits (num / den)) h ?_ (Nat.dvd_mul_left _ _)
  rw [Nat.add_comm, Nat.pow_add]
  exact Nat.mul_le_mul_right _ (roundHalfEven_step_le hden)

/-- A count that the format holds is not rounded. -/
theorem nearest_of_representable {units : Nat} (h : Representable units) :
    nearest units 1 = units := by
  obtain ⟨n, hn⟩ := h.2
  unfold nearest
  dsimp only
  rw [Nat.div_one, Nat.one_mul]
  have hpos : 0 < 2 ^ stepBits units := Nat.two_pow_pos _
  generalize 2 ^ stepBits units = step at hn hpos ⊢
  rw [hn, Nat.mul_comm step n, roundHalfEven_mul hpos]

/-- A whole number of at most 53 bits is one that the format holds. -/
theorem representable_mul_one {n : Nat} (h : n ≤ 2 ^ 53) : Representable (n * one) := by
  obtain ⟨b, hb, hlim⟩ := exists_one_eq_two_pow
  have hle : n * one ≤ 2 ^ (53 + b) := by
    rw [hb, Nat.pow_add]
    exact Nat.mul_le_mul_right _ h
  have hdvd : 2 ^ b ∣ n * one := hb ▸ Nat.dvd_mul_left _ _
  exact representable_of_dvd (lt_of_le_of_lt hle (hlim 53 (by decide)))
    (by rwa [Nat.add_comm] at hle) hdvd

/-! ### Magnitudes -/

/-- Finite, and at most `2 ^ k` in magnitude. -/
def Within (k : Nat) : Binary64 → Prop
  | .finite _ units _ => units ≤ 2 ^ k * one
  | _ => False

theorem Within.isFinite {k : Nat} {x : Binary64} (h : x.Within k) : x.isFinite = true := by
  cases x with
  | finite => rfl
  | infinite => exact h.elim
  | notANumber => exact h.elim

theorem Within.mono {j k : Nat} {x : Binary64} (h : x.Within j) (hjk : j ≤ k) : x.Within k := by
  cases x with
  | finite =>
    exact le_trans h (Nat.mul_le_mul_right _ (Nat.pow_le_pow_right (by decide) hjk))
  | infinite => exact h.elim
  | notANumber => exact h.elim

/-- A ratio of units that is at most a power of two is rounded to a finite number. -/
theorem within_roundUnits {negative : Bool} {num den k : Nat} (hk : k < 1024) (hden : 0 < den)
    (h : num ≤ 2 ^ k * one * den) : (roundUnits negative num den).Within k := by
  obtain ⟨b, hb, hlim⟩ := exists_one_eq_two_pow
  have hpow : 2 ^ k * one = 2 ^ (k + b) := by rw [hb, Nat.pow_add]
  have hle : nearest num den ≤ 2 ^ k * one := by
    rw [hpow] at h ⊢
    exact nearest_le_two_pow hden h
  have hlt : nearest num den < limit := lt_of_le_of_lt hle (hpow ▸ hlim k hk)
  unfold roundUnits ofUnits
  rw [dif_pos (representable_nearest hden hlt)]
  exact hle

theorem within_ofRatio {negative : Bool} {num den k : Nat} (hk : k < 1024) (hden : 0 < den)
    (h : num ≤ 2 ^ k * den) : (ofRatio negative num den).Within k := by
  refine within_roundUnits hk hden ?_
  calc num * one ≤ 2 ^ k * den * one := Nat.mul_le_mul_right _ h
    _ = 2 ^ k * one * den := by ring

theorem within_ofInt {n : Int} {k : Nat} (hk : k < 1024) (h : n.natAbs ≤ 2 ^ k) :
    (ofInt n).Within k :=
  within_ofRatio hk Nat.one_pos (by rwa [Nat.mul_one])

theorem natAbs_signed (negative : Bool) (units : Nat) : (signed negative units).natAbs = units := by
  unfold signed
  split <;> omega

theorem signed_inj {s t : Bool} {m n : Nat} (h : signed s m = signed t n) :
    m = n ∧ (s = t ∨ m = 0) := by
  have habs : m = n := by rw [← natAbs_signed s m, h, natAbs_signed]
  subst habs
  refine ⟨rfl, ?_⟩
  unfold signed at h
  cases s <;> cases t
  · exact .inl rfl
  · exact .inr (by have : (m : Int) = -(m : Int) := h; omega)
  · exact .inr (by have : -(m : Int) = (m : Int) := h; omega)
  · exact .inl rfl

theorem within_add {x y : Binary64} {k : Nat} (hk : k + 1 < 1024) (hx : x.Within k)
    (hy : y.Within k) : (x + y).Within (k + 1) := by
  cases x with
  | infinite => exact hx.elim
  | notANumber => exact hx.elim
  | finite s m _ =>
    cases y with
    | infinite => exact hy.elim
    | notANumber => exact hy.elim
    | finite t n _ =>
      show (if _ then _ else _ : Binary64).Within (k + 1)
      split
      · exact Nat.zero_le _
      · refine within_roundUnits hk Nat.one_pos ?_
        calc (signed s m + signed t n).natAbs ≤ (signed s m).natAbs + (signed t n).natAbs :=
              Int.natAbs_add_le _ _
          _ = m + n := by rw [natAbs_signed, natAbs_signed]
          _ ≤ 2 ^ k * one + 2 ^ k * one := Nat.add_le_add hx hy
          _ = 2 ^ (k + 1) * one * 1 := by ring

theorem within_mul {x y : Binary64} {j k : Nat} (hjk : j + k < 1024) (hx : x.Within j)
    (hy : y.Within k) : (x * y).Within (j + k) := by
  cases x with
  | infinite => exact hx.elim
  | notANumber => exact hx.elim
  | finite s m _ =>
    cases y with
    | infinite => exact hy.elim
    | notANumber => exact hy.elim
    | finite t n _ =>
      refine within_roundUnits hjk one_pos ?_
      calc m * n ≤ 2 ^ j * one * (2 ^ k * one) := Nat.mul_le_mul hx hy
        _ = 2 ^ (j + k) * one * one := by ring

/-- Dividing by a number of magnitude one at least keeps a bound. -/
theorem within_div {s : Bool} {n k : Nat} {h : Representable n} {x : Binary64} (hk : k < 1024)
    (hx : x.Within k) (hn : one ≤ n) : (x / .finite s n h).Within k := by
  cases x with
  | infinite => exact hx.elim
  | notANumber => exact hx.elim
  | finite t m _ =>
    have hpos : 0 < n := lt_of_lt_of_le one_pos hn
    show (if _ then _ else _ : Binary64).Within k
    rw [if_neg hpos.ne']
    exact within_roundUnits hk hpos (Nat.mul_le_mul hx hn)

/-- A ratio that is one at least is rounded to a number that is one at least. -/
theorem one_le_of_ofRatio {negative s : Bool} {num n : Nat} {h : Representable n} (hnum : num ≠ 0)
    (heq : ofRatio negative num 1 = .finite s n h) : one ≤ n := by
  obtain ⟨b, hb, -⟩ := exists_one_eq_two_pow
  have hone : one ≤ nearest (num * one) 1 := by
    rw [hb]
    refine two_pow_le_nearest Nat.one_pos ?_
    rw [Nat.mul_one]
    exact Nat.le_mul_of_pos_left _ (Nat.pos_of_ne_zero hnum)
  unfold ofRatio roundUnits ofUnits at heq
  split at heq
  · cases heq; exact hone
  · cases heq

/-- A count that fills 53 bits or more before the point is whole. -/
theorem one_dvd_of_representable {units : Nat} (h : Representable units)
    (hle : 2 ^ 52 * one ≤ units) : one ∣ units := by
  obtain ⟨b, hb, -⟩ := exists_one_eq_two_pow
  refine Nat.dvd_trans ?_ h.2
  rw [hb] at hle ⊢
  rw [← Nat.pow_add] at hle
  refine Nat.pow_dvd_pow 2 ?_
  have hne : units ≠ 0 := by have := Nat.two_pow_pos (52 + b); omega
  have := (Nat.le_log2 hne).2 hle
  unfold stepBits
  omega

/-- The nearest whole number is at most one away, and one that the format holds. -/
theorem within_round {x : Binary64} {k : Nat} (hx : x.Within k) : x.round.Within (k + 1) := by
  cases x with
  | infinite => exact hx.elim
  | notANumber => exact hx.elim
  | finite s m hm =>
    have hone := one_pos
    have hbound : (2 * m + one) / (2 * one) * one ≤ 2 ^ (k + 1) * one := by
      refine Nat.mul_le_mul_right _ (Nat.div_le_of_le_mul ?_)
      have h2 : one ≤ 2 ^ k * one := Nat.le_mul_of_pos_left _ (Nat.two_pow_pos _)
      calc 2 * m + one ≤ 2 * (2 ^ k * one) + 2 * (2 ^ k * one) := by
            have : m ≤ 2 ^ k * one := hx
            omega
        _ = 2 * one * 2 ^ (k + 1) := by ring
    have hrep : Representable ((2 * m + one) / (2 * one) * one) := by
      by_cases hlarge : 2 ^ 52 * one ≤ m
      · -- the number is whole already
        obtain ⟨n, hn⟩ := one_dvd_of_representable hm hlarge
        have hround : (2 * m + one) / (2 * one) = n := by
          refine Nat.div_eq_of_lt_le ?_ ?_
          · rw [hn]; nlinarith
          · rw [hn]; nlinarith
        rw [hround, Nat.mul_comm, ← hn]
        exact hm
      · refine representable_mul_one (Nat.div_le_of_le_mul ?_)
        calc 2 * m + one ≤ 2 * (2 ^ 52 * one) + 2 * (2 ^ 52 * one) := by omega
          _ = 2 * one * 2 ^ 53 := by ring
    show (ofUnits _ _).Within (k + 1)
    unfold ofUnits
    rw [dif_pos hrep]
    exact hbound

end RowQuery.Binary64
