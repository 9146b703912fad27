/-
# The interval of what rounds to a number

The shortest decimal of a number is searched for in an interval around it. That interval is what
rounding says it is: a ratio is in it just if the number is the one nearest to the ratio. In the
number's own binade this is what rounding to the nearest multiple of its last bit means. Below a
power of two the numbers lie twice as dense, so there the interval reaches half as far.

Key definition: `Binary64.Near`.
Key theorems: `Binary64.near_iff_nearest`, `Binary64.readsBack_iff`.
-/
import RowQuery.Proofs.Number.Shortest

namespace RowQuery.Binary64

attribute [local irreducible] one limit

/-- A ratio of units is in the interval of a number: not beyond halfway to either neighbour, and
not halfway either if the number's last bit is one. -/
structure Near (units num den : Nat) : Prop where
  low : (4 * units - gapBelow units) * den ≤ 4 * num
  high : 4 * num ≤ (4 * units + gapAbove units) * den
  ends : isEven units = false →
    (4 * units - gapBelow units) * den ≠ 4 * num ∧ 4 * num ≠ (4 * units + gapAbove units) * den

/-- The ends of the interval on a grid of ratios. -/
theorem ends_mul (units den : Nat) :
    (4 * units - gapBelow units) * den = 4 * (units * den) - gapBelow units * den ∧
      (4 * units + gapAbove units) * den =
        4 * (units * den) + 2 * (den * 2 ^ stepBits units) := by
  refine ⟨by rw [Nat.sub_mul, Nat.mul_assoc], ?_⟩
  unfold gapAbove
  ring

/-- A number is strictly between the ends of its interval. -/
theorem ends_lt {units den : Nat} (hunits : units ≠ 0) (hden : 0 < den) :
    (4 * units - gapBelow units) * den < 4 * (units * den) ∧
      4 * (units * den) < (4 * units + gapAbove units) * den := by
  obtain ⟨hlow, hhigh⟩ := ends_mul units den
  have hgap : 0 < gapBelow units * den := Nat.mul_pos (gaps_pos units).1 hden
  have hgap' : 0 < den * 2 ^ stepBits units := Nat.mul_pos hden (Nat.two_pow_pos _)
  have hpos : 0 < units * den := Nat.mul_pos (Nat.pos_of_ne_zero hunits) hden
  omega

theorem Near.self {units den : Nat} (hunits : units ≠ 0) (hden : 0 < den) :
    Near units (units * den) den := by
  obtain ⟨hlow, hhigh⟩ := ends_lt hunits hden
  exact ⟨hlow.le, hhigh.le, fun _ => ⟨hlow.ne, hhigh.ne⟩⟩

/-- What lies between a number and a ratio in its interval is in the interval. -/
theorem Near.of_between {units a b den : Nat} (h : Near units a den) (hunits : units ≠ 0)
    (hden : 0 < den) (hb : a ≤ b ∧ b ≤ units * den ∨ units * den ≤ b ∧ b ≤ a) :
    Near units b den := by
  obtain ⟨hmin, hmax, hends⟩ := h
  obtain ⟨hlow, hhigh⟩ := ends_lt hunits hden
  refine ⟨by omega, by omega, fun hodd => ?_⟩
  have := hends hodd
  omega

/-! ### The nearest natural -/

/-- A natural is the nearest one to a ratio just if it is at most a half away, and less if it is
odd. -/
theorem roundHalfEven_eq_iff {num den q : Nat} (hden : 0 < den) :
    roundHalfEven num den = q ↔
      2 * (q * den) ≤ 2 * num + den ∧ 2 * num ≤ 2 * (q * den) + den ∧
        (q % 2 = 1 → 2 * (q * den) ≠ 2 * num + den ∧ 2 * num ≠ 2 * (q * den) + den) := by
  have hdiv := Nat.div_add_mod num den
  have hmod := Nat.mod_lt num hden
  rw [Nat.mul_comm] at hdiv
  unfold roundHalfEven
  dsimp only
  generalize num % den = r at hdiv hmod ⊢
  generalize num / den = a at hdiv ⊢
  rcases Nat.lt_trichotomy q a with hlt | rfl | hgt
  · have hstep : q * den + den ≤ a * den := by
      rw [← Nat.succ_mul]
      exact Nat.mul_le_mul_right _ hlt
    split <;> omega
  · split <;> omega
  · rcases Nat.lt_or_eq_of_le (Nat.succ_le_of_lt hgt) with hfar | rfl
    · have hstep : a * den + den + den ≤ q * den := by
        rw [← Nat.succ_mul, ← Nat.succ_mul]
        exact Nat.mul_le_mul_right _ hfar
      split <;> omega
    · have hstep : a.succ * den = a * den + den := Nat.succ_mul _ _
      rw [hstep]
      split <;> omega

/-! ### Binades -/

/-- Different multiples are a step apart at least. -/
theorem add_le_of_dvd {step m n : Nat} (hm : step ∣ m) (hn : step ∣ n) (h : m < n) :
    m + step ≤ n := by
  have := Nat.le_of_dvd (Nat.sub_pos_of_lt h) (Nat.dvd_sub hn hm)
  omega

theorem stepBits_eq_iff {n s : Nat} :
    stepBits n = s ↔ n < 2 ^ (s + 53) ∧ (s ≠ 0 → 2 ^ (s + 52) ≤ n) := by
  rcases Nat.eq_zero_or_pos n with rfl | hpos
  · have hzero : stepBits 0 = 0 := by decide
    have hstep := Nat.two_pow_pos (s + 52)
    have hstep' := Nat.two_pow_pos (s + 53)
    rw [hzero]
    omega
  · unfold stepBits
    rw [← Nat.log2_lt hpos.ne', ← Nat.le_log2 hpos.ne']
    omega

theorem gapBelow_eq (units : Nat) :
    gapBelow units =
      if stepBits units ≠ 0 ∧ units = 2 ^ (stepBits units + 52) then 2 ^ stepBits units
      else 2 * 2 ^ stepBits units := by
  unfold gapBelow
  refine if_congr ?_ rfl rfl
  by_cases hlog : 52 < units.log2
  · have hbits : stepBits units + 52 = units.log2 := Nat.sub_add_cancel hlog.le
    rw [hbits, and_comm, and_congr_left_iff]
    intro _
    exact iff_of_true hlog (by omega)
  · have hbits : stepBits units = 0 := Nat.sub_eq_zero_of_le (Nat.le_of_not_lt hlog)
    exact iff_of_false (fun h => hlog h.2) (fun h => h.1 hbits)

theorem isEven_eq_false_iff {units u : Nat} (hu : units = 2 ^ stepBits units * u) :
    isEven units = false ↔ u % 2 = 1 := by
  unfold isEven
  rw [Nat.div_eq_of_eq_mul_right (Nat.two_pow_pos _) hu]
  simp

section Binade

variable {units num den : Nat}

/-- In the binade of a number a ratio is in its interval just if it is rounded to it. -/
theorem near_iff_of_stepBits_eq (hrep : Representable units) (hunits : units ≠ 0) (hden : 0 < den)
    (hbits : stepBits (num / den) = stepBits units) :
    Near units num den ↔ nearest num den = units := by
  obtain ⟨u, hu⟩ := hrep.2
  have hstep := Nat.two_pow_pos (stepBits units)
  have hpos : 0 < u := Nat.pos_of_ne_zero fun hzero => hunits (by rw [hu, hzero, Nat.mul_zero])
  have hgrid : 0 < den * 2 ^ stepBits units := Nat.mul_pos hden hstep
  have hnearest : nearest num den = units ↔ roundHalfEven num (den * 2 ^ stepBits units) = u := by
    unfold nearest
    dsimp only
    rw [hbits]
    nth_rewrite 3 [hu]
    rw [Nat.mul_comm _ u]
    exact Nat.mul_left_inj hstep.ne'
  have hvalue : units * den = u * (den * 2 ^ stepBits units) := by
    nth_rewrite 1 [hu]
    ring
  have hlarge : den * 2 ^ stepBits units ≤ u * (den * 2 ^ stepBits units) :=
    Nat.le_mul_of_pos_left _ hpos
  have hgap : gapBelow units * den = 2 * (den * 2 ^ stepBits units) ∨
      gapBelow units * den = den * 2 ^ stepBits units ∧
        u * (den * 2 ^ stepBits units) ≤ num := by
    rw [gapBelow_eq, Nat.mul_comm den]
    split
    · -- the number is the least of its binade, so the ratio is not below it
      rename_i hpower
      refine .inr ⟨rfl, ?_⟩
      rw [Nat.mul_comm _ den, ← hvalue, hpower.2]
      exact (Nat.le_div_iff_mul_le hden).1 ((stepBits_eq_iff.1 hbits).2 hpower.1)
    · exact .inl (Nat.mul_assoc _ _ _)
  obtain ⟨hlow, hhigh⟩ := ends_mul units den
  rw [hvalue] at hlow hhigh
  rw [hnearest, roundHalfEven_eq_iff hgrid]
  constructor
  · rintro ⟨hmin, hmax, hends⟩
    rw [isEven_eq_false_iff hu] at hends
    omega
  · rintro ⟨hmin, hmax, hends⟩
    refine ⟨by omega, by omega, fun hodd => ?_⟩
    have := hends ((isEven_eq_false_iff hu).1 hodd)
    omega

/-- A number is a last bit below the next binade at least. -/
theorem add_step_le (hrep : Representable units) :
    units + 2 ^ stepBits units ≤ 2 ^ (stepBits units + 53) :=
  add_le_of_dvd hrep.2 (Nat.pow_dvd_pow 2 (Nat.le_add_right _ _)) (stepBits_eq_iff.1 rfl).1

/-- A ratio of a later binade is neither in the interval of a number nor rounded to it. -/
theorem not_near_of_above (hrep : Representable units) (hden : 0 < den)
    (h : 2 ^ (stepBits units + 53) * den ≤ num) :
    ¬ Near units num den ∧ nearest num den ≠ units := by
  have hnext := add_step_le hrep
  have hstep := Nat.two_pow_pos (stepBits units)
  constructor
  · intro hnear
    have hhigh := hnear.high
    have hlt : (4 * units + gapAbove units) * den < 4 * 2 ^ (stepBits units + 53) * den := by
      refine Nat.mul_lt_mul_of_pos_right ?_ hden
      unfold gapAbove
      omega
    rw [Nat.mul_assoc] at hlt
    omega
  · have hlarge := two_pow_le_nearest hden h
    omega

/-- A ratio of an earlier binade is in the interval of a power of two just if it is rounded to
it. -/
theorem near_two_pow_iff {k : Nat} (hden : 0 < den) (hbits : stepBits units = k + 1)
    (hunits : units = 2 ^ (k + 53)) (h : num < units * den) :
    Near units num den ↔ nearest num den = units := by
  have hstep := Nat.two_pow_pos k
  have hgrid : 0 < den * 2 ^ k := Nat.mul_pos hden hstep
  have hsplit : units = 2 ^ 53 * 2 ^ k := by rw [hunits, Nat.add_comm, Nat.pow_add]
  have hvalue : units * den = 2 ^ 53 * (den * 2 ^ k) := by
    rw [hsplit]
    ring
  have hgap : gapBelow units * den = 2 * (den * 2 ^ k) := by
    rw [gapBelow_eq, hbits, if_pos ⟨Nat.succ_ne_zero k, hunits⟩]
    ring
  have heven : ¬ isEven units = false := by
    have hu : units = 2 ^ stepBits units * 2 ^ 52 := by
      rw [hbits, hunits, ← Nat.pow_add, Nat.add_right_comm]
    rw [isEven_eq_false_iff hu]
    decide
  obtain ⟨hlow, hhigh⟩ := ends_mul units den
  rw [hvalue, hgap] at hlow
  rw [hvalue] at hhigh
  have hnear : Near units num den ↔ 2 * (2 ^ 53 * (den * 2 ^ k)) ≤ 2 * num + den * 2 ^ k := by
    constructor
    · intro hnear
      have := hnear.low
      omega
    · intro hmin
      have hless : num < 2 ^ 53 * (den * 2 ^ k) := hvalue ▸ h
      exact ⟨by omega, by omega, fun hodd => absurd hodd heven⟩
  rw [hnear]
  by_cases hclose : 2 ^ (k + 52) * den ≤ num
  · -- the binade right below, which has twice as many numbers
    have hquotient : stepBits (num / den) = k :=
      stepBits_eq_iff.2 ⟨(Nat.div_lt_iff_lt_mul hden).2 (hunits ▸ h),
        fun _ => (Nat.le_div_iff_mul_le hden).2 hclose⟩
    have hnearest : nearest num den = units ↔ roundHalfEven num (den * 2 ^ k) = 2 ^ 53 := by
      unfold nearest
      dsimp only
      rw [hquotient, hunits, Nat.add_comm k, Nat.pow_add]
      exact Nat.mul_left_inj hstep.ne'
    rw [hvalue] at h
    rw [hnearest, roundHalfEven_eq_iff hgrid]
    omega
  · have hfar : num < 2 ^ (k + 52) * den := Nat.lt_of_not_le hclose
    have hnearest := nearest_le_two_pow hden hfar.le
    have hhalf : 2 ^ (k + 52) * den = 2 ^ 52 * (den * 2 ^ k) := by
      rw [Nat.pow_add]
      ring
    have hless : 2 ^ (k + 52) < units := by
      rw [hunits]
      exact Nat.pow_lt_pow_right (by decide) (by omega)
    refine iff_of_false ?_ (by omega)
    omega

/-- A ratio of an earlier binade is in the interval of a number just if it is rounded to it: the
number is the least of its binade then. -/
theorem near_iff_of_below (hrep : Representable units) (hden : 0 < den)
    (hbits : stepBits units ≠ 0) (h : num < 2 ^ (stepBits units + 52) * den) :
    Near units num den ↔ nearest num den = units := by
  obtain ⟨k, hk⟩ := Nat.exists_eq_succ_of_ne_zero hbits
  have hleast := (stepBits_eq_iff.1 rfl).2 hbits
  rcases Nat.lt_or_eq_of_le hleast with hlt | heq
  · have hnearest := nearest_le_two_pow hden h.le
    refine iff_of_false (fun hnear => ?_) (by omega)
    have hnext := add_le_of_dvd (Nat.pow_dvd_pow 2 (Nat.le_add_right _ _)) hrep.2 hlt
    have hlow := hnear.low
    have hmin : 4 * 2 ^ (stepBits units + 52) * den ≤ (4 * units - gapBelow units) * den := by
      refine Nat.mul_le_mul_right _ ?_
      unfold gapBelow
      split <;> omega
    rw [Nat.mul_assoc] at hmin
    omega
  · have hunits : units = 2 ^ (k + 53) := by
      rw [← heq, hk]
    exact near_two_pow_iff hden hk hunits (heq ▸ h)

/-- **The interval of a number is what rounds to it.** -/
theorem near_iff_nearest (hrep : Representable units) (hunits : units ≠ 0) (hden : 0 < den) :
    Near units num den ↔ nearest num den = units := by
  rcases Nat.lt_or_ge num (2 ^ (stepBits units + 53) * den) with habove | habove
  · by_cases hbelow : stepBits units ≠ 0 ∧ num < 2 ^ (stepBits units + 52) * den
    · exact near_iff_of_below hrep hden hbelow.1 hbelow.2
    · refine near_iff_of_stepBits_eq hrep hunits hden (stepBits_eq_iff.2 ⟨?_, fun hbits => ?_⟩)
      · exact (Nat.div_lt_iff_lt_mul hden).2 habove
      · exact (Nat.le_div_iff_mul_le hden).2 (Nat.le_of_not_lt fun hlt => hbelow ⟨hbits, hlt⟩)
  · obtain ⟨hnear, hne⟩ := not_near_of_above hrep hden habove
    exact iff_of_false hnear hne

end Binade

/-- A decimal that reads back is in the interval. -/
theorem readsBack_iff_near {units point : Nat} {exponent : Int} :
    readsBack units point exponent = true ↔
      Near units (point * one * 10 ^ exponent.toNat) (10 ^ (-exponent).toNat) := by
  have hscaled : 4 * point * one * 10 ^ exponent.toNat =
      4 * (point * one * 10 ^ exponent.toNat) := by ring
  unfold readsBack
  dsimp only
  rw [hscaled]
  constructor
  · intro h
    split at h
    · rename_i heven
      simp only [Bool.and_eq_true, decide_eq_true_eq] at h
      exact ⟨h.1, h.2, fun hodd => absurd heven (by simp [hodd])⟩
    · simp only [Bool.and_eq_true, decide_eq_true_eq] at h
      exact ⟨h.1.le, h.2.le, fun _ => ⟨h.1.ne, h.2.ne⟩⟩
  · rintro ⟨hlow, hhigh, hends⟩
    split
    · simp only [Bool.and_eq_true, decide_eq_true_eq]
      exact ⟨hlow, hhigh⟩
    · rename_i hodd
      obtain ⟨hlow', hhigh'⟩ := hends (Bool.eq_false_of_not_eq_true hodd)
      simp only [Bool.and_eq_true, decide_eq_true_eq]
      exact ⟨lt_of_le_of_ne hlow hlow', lt_of_le_of_ne hhigh hhigh'⟩

/-- **A decimal reads back just if it is rounded to the number.** -/
theorem readsBack_iff {units point : Nat} {exponent : Int} (hrep : Representable units)
    (hunits : units ≠ 0) :
    readsBack units point exponent = true ↔
      nearest (point * one * 10 ^ exponent.toNat) (10 ^ (-exponent).toNat) = units :=
  readsBack_iff_near.trans (near_iff_nearest hrep hunits (Nat.pow_pos (by decide)))

end RowQuery.Binary64
