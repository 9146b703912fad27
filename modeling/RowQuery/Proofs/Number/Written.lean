/-
# The integer that a floating-point number is written as

Seventeen digits are always enough: their grid is finer than the interval of what rounds to the
number, so it has a point there. The search for the shortest decimal ends with them at the latest.

The decimal of a number is whole just if the number is. It need not be the number: above
`2 ^ 53` the shortest digits are filled up with zeros. No decimal on a coarser grid rounds to the
number, and a number on its own grid is the point of it. So it is written as itself just if no
integer that ends in more zeros rounds to it.

Key definition: `Binary64.written?`.
Key theorems: `Binary64.gridPoint?_seventeen`, `Binary64.shortest_spec`,
`Binary64.one_dvd_iff_exponent`, `Binary64.le_exponent_of_readsBack`,
`Binary64.written?_eq_toInt?_iff`, `Number.floatText_eq_ofInt_iff`, `Binary64.written?_of_within`.
-/
import RowQuery.Proofs.Number.Interval
import RowQuery.Proofs.Number.Numeral

namespace RowQuery

attribute [local irreducible] Binary64.one Binary64.limit

namespace Binary64

/-! ### Seventeen digits -/

variable {units : Nat}

/-- The interval of a number is more than a part in `2 ^ 53` of it. -/
theorem four_mul_lt_gaps (units : Nat) :
    4 * units < (gapBelow units + gapAbove units) * 2 ^ 53 := by
  have hbits : units < 2 ^ stepBits units * 2 ^ 53 := by
    refine lt_of_lt_of_le (Nat.lt_log2_self (n := units)) ?_
    rw [← Nat.pow_add]
    refine Nat.pow_le_pow_right (by decide) ?_
    unfold stepBits
    omega
  unfold gapBelow gapAbove
  split
  · -- a power of two is twice as far from the number above it as from the one below
    rename_i hpower
    have heq : units = 2 ^ stepBits units * 2 ^ 52 := by
      rw [← Nat.pow_add]
      unfold stepBits
      rw [Nat.sub_add_cancel hpower.2.le]
      exact hpower.1
    omega
  · omega

section Grid

variable (hunits : units ≠ 0)

include hunits

theorem step_le : 2 ^ stepBits units ≤ units :=
  (Nat.pow_le_pow_right (by decide) (Nat.sub_le _ _)).trans (Nat.log2_self_le hunits)

theorem gapBelow_le : gapBelow units ≤ 2 * units := by
  have hstep := step_le hunits
  unfold gapBelow
  split <;> omega

/-- **A grid that is finer than the interval has a point in it**: one of the two next to the
number. -/
theorem gridPoint?_isSome {exponent : Int}
    (h : 4 * (one * 10 ^ exponent.toNat) <
      (gapBelow units + gapAbove units) * 10 ^ (-exponent).toNat) :
    (gridPoint? units exponent).isSome = true := by
  have hbelow := gapBelow_le hunits
  obtain ⟨hgap, hgap'⟩ := gaps_pos units
  rw [isSome_gridPoint?, Bool.or_eq_true]
  -- the ends of the interval on the grid
  have hread : ∀ point,
      gapBelow units * 10 ^ (-exponent).toNat + 4 * (point * (one * 10 ^ exponent.toNat)) >
        4 * (units * 10 ^ (-exponent).toNat) →
      4 * (point * (one * 10 ^ exponent.toNat)) <
        4 * (units * 10 ^ (-exponent).toNat) + gapAbove units * 10 ^ (-exponent).toNat →
      readsBack units point exponent = true := fun point hlow hhigh => by
    have hscaled : 4 * point * one * 10 ^ exponent.toNat =
        4 * (point * (one * 10 ^ exponent.toNat)) := by ring
    have hwhole : (4 * units - gapBelow units) * 10 ^ (-exponent).toNat +
        gapBelow units * 10 ^ (-exponent).toNat = 4 * (units * 10 ^ (-exponent).toNat) := by
      rw [← Nat.add_mul, Nat.sub_add_cancel (by omega), Nat.mul_assoc]
    refine readsBack_of_lt ?_ ?_
    · rw [hscaled]
      omega
    · rw [hscaled, Nat.add_mul, Nat.mul_assoc 4]
      exact hhigh
  have hten : 0 < 10 ^ (-exponent).toNat := Nat.pow_pos (by decide)
  have hden : 0 < one * 10 ^ exponent.toNat := Nat.mul_pos one_pos (Nat.pow_pos (by decide))
  have hpos := Nat.mul_pos hgap hten
  have hpos' := Nat.mul_pos hgap' hten
  rw [Nat.add_mul] at h
  generalize gapBelow units * 10 ^ (-exponent).toNat = gap at h hread hpos
  generalize gapAbove units * 10 ^ (-exponent).toNat = gap' at h hread hpos'
  generalize units * 10 ^ (-exponent).toNat = num at hread ⊢
  generalize one * 10 ^ exponent.toNat = den at h hread hden ⊢
  have hdiv := Nat.div_add_mod num den
  have hmod := Nat.mod_lt num hden
  rw [Nat.mul_comm] at hdiv
  have hnext : (num / den + 1) * den = num / den * den + den := Nat.add_one_mul _ _
  by_cases hnear : 4 * (num % den) < gap
  · exact .inl (hread _ (by omega) (by omega))
  · exact .inr (hread _ (by omega) (by omega))

/-- The power of ten below a number. -/
theorem magnitude_spec :
    one * 10 ^ (magnitude units - 1).toNat ≤ units * 10 ^ (-(magnitude units - 1)).toNat := by
  have hlength : ∀ n : Nat, (Nat.toDigits 10 n).length ≠ 0 := fun n =>
    mt List.length_eq_zero_iff.1 Nat.toDigits_ne_nil
  unfold magnitude
  split
  · rename_i hone
    have hpower : 10 ^ ((Nat.toDigits 10 (units / one)).length - 1) ≤ units / one := by
      by_contra hlt
      rcases Nat.eq_zero_or_pos ((Nat.toDigits 10 (units / one)).length - 1) with hzero | hpos
      · rw [hzero] at hlt
        exact hlt (Nat.div_pos hone one_pos)
      · have hle := (Nat.length_toDigits_le_iff (by decide) hpos).2 (Nat.lt_of_not_le hlt)
        omega
    have hlength := hlength (units / one)
    generalize (Nat.toDigits 10 (units / one)).length = length at hlength hpower
    have hexponent : ((length : Int) - 1).toNat = length - 1 ∧ (-((length : Int) - 1)).toNat = 0 := by
      omega
    rw [hexponent.1, hexponent.2, Nat.pow_zero, Nat.mul_one, Nat.mul_comm]
    exact (Nat.le_div_iff_mul_le one_pos).1 hpower
  · have hpower : (one - 1) / units < 10 ^ (Nat.toDigits 10 ((one - 1) / units)).length :=
      (Nat.length_toDigits_le_iff (by decide) (Nat.pos_of_ne_zero (hlength _))).1 le_rfl
    generalize (Nat.toDigits 10 ((one - 1) / units)).length = length at hpower
    have hexponent : (1 - (length : Int) - 1).toNat = 0 ∧
        (-(1 - (length : Int) - 1)).toNat = length := by omega
    have hlt : one - 1 < 10 ^ length * units :=
      (Nat.div_lt_iff_lt_mul (Nat.pos_of_ne_zero hunits)).1 hpower
    rw [hexponent.1, hexponent.2, Nat.pow_zero, Nat.mul_one, Nat.mul_comm]
    omega

/-- Sixteen digits of the number stand before the seventeenth. -/
theorem ten_pow_mul_le :
    one * 10 ^ (magnitude units - 17).toNat * 10 ^ 16 ≤
      units * 10 ^ (-(magnitude units - 17)).toNat := by
  have hspec := magnitude_spec hunits
  generalize magnitude units = top at hspec
  obtain ⟨k, hpoint, hshift⟩ : ∃ k, (top - 17).toNat + 16 = (top - 1).toNat + k ∧
      (-(top - 17)).toNat = (-(top - 1)).toNat + k :=
    ⟨(-(top - 17)).toNat - (-(top - 1)).toNat, by omega, by omega⟩
  rw [Nat.mul_assoc, ← Nat.pow_add, hpoint, hshift, Nat.pow_add, Nat.pow_add, ← Nat.mul_assoc,
    ← Nat.mul_assoc]
  exact Nat.mul_le_mul_right _ hspec

/-- **Seventeen digits are enough.** -/
theorem gridPoint?_seventeen : (gridPoint? units (magnitude units - 17)).isSome = true := by
  refine gridPoint?_isSome hunits ?_
  have hten : 0 < 10 ^ (-(magnitude units - 17)).toNat := Nat.pow_pos (by decide)
  have hdigits := ten_pow_mul_le hunits
  have hgaps := Nat.mul_lt_mul_of_pos_right (four_mul_lt_gaps units) hten
  rw [Nat.mul_right_comm _ (2 ^ 53), Nat.mul_assoc 4] at hgaps
  omega

end Grid

/-! ### The decimal that is found -/

theorem gridPoint?_spec {exponent : Int} {d : DecimalDigits}
    (h : gridPoint? units exponent = some d) :
    d.exponent = exponent ∧ readsBack units d.digits exponent = true := by
  unfold gridPoint? at h
  dsimp only at h
  split at h
  · rename_i hbelow habove
    obtain rfl := Option.some.inj h
    refine ⟨rfl, ?_⟩
    dsimp only
    split <;> assumption
  · rename_i hbelow _
    obtain rfl := Option.some.inj h
    exact ⟨rfl, hbelow⟩
  · rename_i _ habove
    obtain rfl := Option.some.inj h
    exact ⟨rfl, habove⟩
  · cases h

/-- The shortest decimal is the point of its grid. -/
theorem gridPoint?_shortest (hunits : units ≠ 0) :
    gridPoint? units (shortest units).exponent = some (shortest units) := by
  obtain ⟨k, -, hgrid⟩ := shortest_of_isSome (m := 17) (by decide) (gridPoint?_seventeen hunits)
  rwa [(gridPoint?_spec hgrid).1]

/-- **The shortest decimal rounds to the number.** -/
theorem shortest_spec (hunits : units ≠ 0) :
    readsBack units (shortest units).digits (shortest units).exponent = true :=
  (gridPoint?_spec (gridPoint?_shortest hunits)).2

/-- Zero does not round to a number other than zero. -/
theorem digits_pos_of_readsBack {point : Nat} {exponent : Int} (hunits : units ≠ 0)
    (h : readsBack units point exponent = true) : 0 < point := by
  obtain ⟨hlow, -⟩ := bounds_of_readsBack h
  have hbelow := gapBelow_le hunits
  have hpos : 0 < (4 * units - gapBelow units) * 10 ^ (-exponent).toNat :=
    Nat.mul_pos (by omega) (Nat.pow_pos (by decide))
  refine Nat.pos_of_ne_zero ?_
  rintro rfl
  rw [Nat.mul_zero, Nat.zero_mul, Nat.zero_mul] at hlow
  omega

/-! ### Whole numbers -/

/-- Multiples of a step are equal if they are at most half of it apart. -/
theorem eq_of_near_multiples {step u v : Nat} (hstep : 0 < step)
    (hlow : step * (4 * u) - 2 * step ≤ step * (4 * v))
    (hhigh : step * (4 * v) ≤ step * (4 * u) + 2 * step) : u = v := by
  have hle : step * (4 * u) ≤ step * (4 * v + 2) := by
    rw [Nat.mul_add]
    omega
  have hge : step * (4 * v) ≤ step * (4 * u + 2) := by
    rw [Nat.mul_add]
    omega
  have hle := Nat.le_of_mul_le_mul_left hle hstep
  have hge := Nat.le_of_mul_le_mul_left hge hstep
  omega

/-- A number to which a whole decimal rounds is whole: both are multiples of its last bit, if that
is below one. -/
theorem one_dvd_of_readsBack {point e : Nat} (hrep : Representable units)
    (h : readsBack units point e = true) : one ∣ units := by
  obtain ⟨b, hb, -⟩ := exists_one_eq_two_pow
  obtain ⟨hlow, hhigh⟩ := bounds_of_readsBack h
  rw [Int.toNat_neg_natCast, Int.toNat_natCast, Nat.pow_zero, Nat.mul_one] at hlow hhigh
  rcases Nat.le_total b (stepBits units) with hlarge | hsmall
  · rw [hb]
    exact (Nat.pow_dvd_pow 2 hlarge).trans hrep.2
  · obtain ⟨u, hu⟩ := hrep.2
    have hone : one = 2 ^ stepBits units * 2 ^ (b - stepBits units) := by
      rw [hb, ← Nat.pow_add, Nat.add_sub_cancel' hsmall]
    have hbelow : gapBelow units ≤ 2 * 2 ^ stepBits units := by
      unfold gapBelow
      split <;> omega
    have hpoint : 4 * point * one * 10 ^ e =
        2 ^ stepBits units * (4 * (point * 2 ^ (b - stepBits units) * 10 ^ e)) := by
      rw [hone]
      ring
    have hu4 : 4 * units = 2 ^ stepBits units * (4 * u) := by
      rw [Nat.mul_left_comm, ← hu]
    rw [hpoint, hu4] at hlow hhigh
    have heq := eq_of_near_multiples (Nat.two_pow_pos (stepBits units))
      (hlow.trans' (Nat.sub_le_sub_left hbelow _)) hhigh
    refine ⟨point * 10 ^ e, hu.trans ?_⟩
    rw [heq, hone]
    ring

/-- **A shortest decimal is whole just if the number is.** -/
theorem one_dvd_iff_exponent (hrep : Representable units) (hunits : units ≠ 0) :
    one ∣ units ↔ 0 ≤ (shortest units).exponent := by
  constructor
  · rintro ⟨n, rfl⟩
    have hpos : 0 < n := Nat.pos_of_ne_zero fun hzero => hunits (by rw [hzero, Nat.mul_zero])
    rw [Nat.mul_comm] at hunits ⊢
    have hmagnitude := magnitude_mul_one hpos
    -- the search ends on the grid of one, or on that of the seventeenth digit if this comes sooner
    by_cases htop : (Nat.toDigits 10 n).length < 17
    · obtain ⟨k, hk, hgrid⟩ := shortest_of_isSome (by omega) (gridPoint?_finest hpos)
      rw [(gridPoint?_spec hgrid).1]
      omega
    · obtain ⟨k, hk, hgrid⟩ := shortest_of_isSome (m := 17) (by decide) (gridPoint?_seventeen hunits)
      rw [(gridPoint?_spec hgrid).1]
      omega
  · intro hexponent
    have hread := shortest_spec hunits
    rw [← Int.toNat_of_nonneg hexponent] at hread
    exact one_dvd_of_readsBack hrep hread

/-! ### The coarsest grid -/

/-- A grid with any point in the interval has one that is next to the number. -/
theorem gridPoint?_isSome_of_readsBack {point : Nat} {exponent : Int} (hunits : units ≠ 0)
    (h : readsBack units point exponent = true) : (gridPoint? units exponent).isSome = true := by
  have hten : 0 < 10 ^ (-exponent).toNat := Nat.pow_pos (by decide)
  have hden : 0 < one * 10 ^ exponent.toNat := Nat.mul_pos one_pos (Nat.pow_pos (by decide))
  rw [isSome_gridPoint?, Bool.or_eq_true, readsBack_iff_near, readsBack_iff_near]
  rw [readsBack_iff_near] at h
  simp only [Nat.mul_assoc] at h ⊢
  have hdiv := Nat.div_add_mod (units * 10 ^ (-exponent).toNat) (one * 10 ^ exponent.toNat)
  have hmod := Nat.mod_lt (units * 10 ^ (-exponent).toNat) hden
  rw [Nat.mul_comm] at hdiv
  generalize one * 10 ^ exponent.toNat = den at h hdiv hmod ⊢
  rcases Nat.lt_or_ge (units * 10 ^ (-exponent).toNat / den) point with habove | hbelow
  · have hnext := Nat.mul_le_mul_right den (Nat.succ_le_of_lt habove)
    rw [Nat.succ_mul] at hnext
    refine .inr (h.of_between hunits hten (.inr ?_))
    rw [Nat.add_one_mul]
    omega
  · have hprevious := Nat.mul_le_mul_right den hbelow
    exact .inl (h.of_between hunits hten (.inl ⟨hprevious, by omega⟩))

/-- A decimal of a grid above the number is not in its interval. -/
theorem le_length_of_readsBack {n point e : Nat} (hn : n ≠ 0)
    (h : readsBack (n * one) point e = true) : e ≤ (Nat.toDigits 10 n).length := by
  have hunits : n * one ≠ 0 := Nat.mul_ne_zero hn one_pos.ne'
  have hpoint := digits_pos_of_readsBack hunits h
  have hstep := step_le hunits
  obtain ⟨-, hhigh⟩ := bounds_of_readsBack h
  rw [Int.toNat_neg_natCast, Int.toNat_natCast, Nat.pow_zero, Nat.mul_one] at hhigh
  have hlength : n < 10 ^ (Nat.toDigits 10 n).length :=
    (Nat.length_toDigits_le_iff (by decide) (List.length_pos_iff.2 Nat.toDigits_ne_nil)).1 le_rfl
  by_contra hlt
  have hpower : 10 * 10 ^ (Nat.toDigits 10 n).length ≤ 10 ^ e := by
    rw [Nat.mul_comm, ← Nat.pow_succ]
    exact Nat.pow_le_pow_right (by decide) (Nat.lt_of_not_le hlt)
  have hbound : 4 * 10 ^ e * one ≤ 6 * n * one := by
    have hpoint : 4 * 10 ^ e * one ≤ 4 * point * one * 10 ^ e := by
      calc 4 * 10 ^ e * one = 4 * 1 * one * 10 ^ e := by ring
        _ ≤ 4 * point * one * 10 ^ e := by gcongr; exact hpoint
    unfold gapAbove at hhigh
    rw [Nat.mul_assoc 6]
    omega
  have := Nat.le_of_mul_le_mul_right hbound one_pos
  omega

/-- **No decimal of a coarser grid rounds to the number** than the shortest one's. -/
theorem le_exponent_of_readsBack {point e : Nat} (hrep : Representable units) (hunits : units ≠ 0)
    (h : readsBack units point e = true) : (e : Int) ≤ (shortest units).exponent := by
  obtain ⟨n, hn⟩ := one_dvd_of_readsBack hrep h
  rw [Nat.mul_comm] at hn
  subst hn
  have hpos : 0 < n := Nat.pos_of_ne_zero fun hzero => hunits (by rw [hzero, Nat.zero_mul])
  have hlength := le_length_of_readsBack hpos.ne' h
  have hmagnitude := magnitude_mul_one hpos
  by_cases htop : (Nat.toDigits 10 n).length < e + 17
  · have hgrid := gridPoint?_isSome_of_readsBack hunits h
    have hplace : (e : Int) = magnitude (n * one) - ((Nat.toDigits 10 n).length - e : Nat) := by
      omega
    rw [hplace] at hgrid
    obtain ⟨k, hk, hgrid⟩ := shortest_of_isSome (by omega) hgrid
    rw [(gridPoint?_spec hgrid).1]
    omega
  · obtain ⟨k, hk, hgrid⟩ := shortest_of_isSome (m := 17) (by decide) (gridPoint?_seventeen hunits)
    rw [(gridPoint?_spec hgrid).1]
    omega

/-- A grid that holds a whole number has this for its point. -/
theorem gridPoint?_of_dvd {n e : Nat} (hpos : 0 < n) (h : 10 ^ e ∣ n) :
    gridPoint? (n * one) e = some ⟨n / 10 ^ e, e⟩ := by
  have hunits : n * one ≠ 0 := Nat.mul_ne_zero hpos.ne' one_pos.ne'
  have hread : readsBack (n * one) (n / 10 ^ e) e = true := by
    have hself := Near.self hunits Nat.one_pos
    rw [readsBack_iff_near, Int.toNat_neg_natCast, Int.toNat_natCast, Nat.pow_zero,
      Nat.mul_right_comm, Nat.div_mul_cancel h]
    rwa [Nat.mul_one] at hself
  have hden : 2 * (one * (n % 10 ^ e)) < one * 10 ^ e := by
    rw [Nat.mod_eq_zero_of_dvd h, Nat.mul_zero, Nat.mul_zero]
    exact Nat.mul_pos one_pos (Nat.pow_pos (by decide))
  rw [gridPoint?_mul_one_eq, hread, if_pos hden]
  cases readsBack (n * one) (n / 10 ^ e + 1) e with
  | true => rfl
  | false => rfl

/-- **A shortest decimal is a whole number itself** just if the number is on its grid. -/
theorem shortest_eq_iff {n : Nat} (hrep : Representable (n * one)) (hpos : 0 < n) :
    (shortest (n * one)).digits * 10 ^ (shortest (n * one)).exponent.toNat = n ↔
      10 ^ (shortest (n * one)).exponent.toNat ∣ n := by
  have hunits : n * one ≠ 0 := Nat.mul_ne_zero hpos.ne' one_pos.ne'
  refine ⟨fun h => Dvd.intro_left _ h, fun h => ?_⟩
  have hexponent := (one_dvd_iff_exponent hrep hunits).1 (Nat.dvd_mul_left _ _)
  have hgrid := gridPoint?_shortest hunits
  have hpoint := gridPoint?_of_dvd hpos h
  rw [Int.toNat_of_nonneg hexponent, hgrid] at hpoint
  rw [congrArg DecimalDigits.digits (Option.some.inj hpoint)]
  exact Nat.div_mul_cancel h

end Binary64

/-! ### Texts -/

/-- A decimal that is not whole has a point in its text. -/
theorem DecimalDigits.point_mem_text {d : DecimalDigits} (h : d.exponent < 0) : '.' ∈ d.text := by
  unfold text
  rw [if_neg (Int.not_le.2 h)]
  exact List.mem_append_right _ List.mem_cons_self

theorem Numeral.ofInt_inj {m n : Int} : ofInt m = ofInt n ↔ m = n := by
  refine ⟨fun h => ?_, congrArg ofInt⟩
  have hread := integer?_ofInt m
  rw [h, integer?_ofInt n] at hread
  exact (Option.some.inj hread).symm

theorem Numeral.point_not_mem_ofInt (n : Int) : '.' ∉ ofInt n := fun h => by
  rcases mem_ofInt h with heq | hdigit
  · exact absurd heq (by decide)
  · exact absurd hdigit (by decide)

namespace Binary64

/-- The integer that a whole number is written as: its shortest decimal. -/
def written? : Binary64 → Option Int
  | .finite negative units _ =>
    if units = 0 then some 0
    else if one ∣ units then
      some (signed negative ((shortest units).digits * 10 ^ (shortest units).exponent.toNat))
    else none
  | _ => none

theorem signed_zero (negative : Bool) : signed negative 0 = 0 := by
  cases negative <;> rfl

/-- **What is written is the number**, as far as 53 bits go. -/
theorem written?_of_within {x : Binary64} (h : x.Within 53) : x.written? = x.toInt? := by
  cases x with
  | infinite => rfl
  | notANumber => rfl
  | finite negative units hrep =>
    have hle : units ≤ 2 ^ 53 * one := h
    unfold written? toInt?
    dsimp only
    by_cases hzero : units = 0
    · subst hzero
      rw [if_pos rfl, if_pos (Nat.dvd_zero _), Nat.zero_div, signed_zero]
    rw [if_neg hzero]
    split
    · rename_i hwhole
      obtain ⟨n, hn⟩ := hwhole
      rw [Nat.mul_comm] at hn
      subst hn
      have hpos : 0 < n := Nat.pos_of_ne_zero fun hn => hzero (by rw [hn, Nat.zero_mul])
      obtain ⟨e, hdigits, hexponent⟩ :=
        shortest_mul_one (Nat.le_of_mul_le_mul_right hle one_pos) hpos
      rw [hexponent, Int.toNat_natCast, hdigits, Nat.mul_div_cancel n one_pos]
    · rfl

/-! ### What is written as itself -/

theorem toInt?_of_not_dvd {negative : Bool} {hrep : Representable units} (h : ¬ one ∣ units) :
    toInt? (.finite negative units hrep) = none := if_neg h

theorem ofInt_eq_finite_iff {n : Int} {negative : Bool} {hrep : Representable units} :
    ofInt n = .finite negative units hrep ↔
      decide (n < 0) = negative ∧ nearest (n.natAbs * one) 1 = units := by
  unfold ofInt ofRatio roundUnits ofUnits
  constructor
  · intro h
    split at h
    · obtain ⟨hsign, hunits⟩ := finite.inj h
      exact ⟨hsign, hunits⟩
    · cases h
  · rintro ⟨rfl, rfl⟩
    exact dif_pos hrep

/-- An integer that ends in zeros rounds to a number just if it reads back as this, without the
zeros on their grid. -/
theorem ofInt_mul_ten_pow_iff {m : Int} {e : Nat} {negative : Bool} {hrep : Representable units}
    (hunits : units ≠ 0) :
    ofInt (m * 10 ^ e) = .finite negative units hrep ↔
      decide (m < 0) = negative ∧ readsBack units m.natAbs e = true := by
  have hten : (0 : Int) < 10 ^ e := by positivity
  have hsign : m * 10 ^ e < 0 ↔ m < 0 := by
    constructor
    · intro h
      by_contra hm
      exact absurd h (Int.not_lt.2 (Int.mul_nonneg (Int.not_lt.1 hm) hten.le))
    · intro h
      exact Int.mul_neg_of_neg_of_pos h hten
  rw [ofInt_eq_finite_iff, readsBack_iff hrep hunits, Int.toNat_neg_natCast, Int.toNat_natCast,
    Nat.pow_zero, Int.natAbs_mul, Int.natAbs_pow, Nat.mul_right_comm, decide_eq_decide.2 hsign]
  rfl

theorem ten_pow_dvd_signed_iff {negative : Bool} {n e : Nat} :
    (10 : Int) ^ e ∣ signed negative n ↔ 10 ^ e ∣ n := by
  have hcast : ((10 ^ e : Nat) : Int) = 10 ^ e := Int.natCast_pow 10 e
  rw [← hcast, Int.natCast_dvd, natAbs_signed]

theorem decide_signed_lt_zero {negative : Bool} {n : Nat} (hn : 0 < n) :
    decide (signed negative n < 0) = negative := by
  unfold signed
  cases negative with
  | true => exact decide_eq_true (show -(n : Int) < 0 by omega)
  | false => exact decide_eq_false (show ¬ (n : Int) < 0 by omega)

/-- The zeros of the shortest decimal are the most that an integer which rounds to the number has. So
the number has as many just if it has as many as each of these. -/
theorem dvd_iff_forall_dvd (negative : Bool) {n : Nat} (hrep : Representable (n * one))
    (hpos : 0 < n) :
    10 ^ (shortest (n * one)).exponent.toNat ∣ n ↔
      ∀ (m : Int) (e : Nat), ofInt (m * 10 ^ e) = .finite negative (n * one) hrep → 10 ^ e ∣ n := by
  have hunits : n * one ≠ 0 := Nat.mul_ne_zero hpos.ne' one_pos.ne'
  have hexponent := (one_dvd_iff_exponent hrep hunits).1 (Nat.dvd_mul_left _ _)
  constructor
  · intro hdvd m e hround
    have hread := ((ofInt_mul_ten_pow_iff hunits).1 hround).2
    have hle := le_exponent_of_readsBack hrep hunits hread
    exact (Nat.pow_dvd_pow 10 (by omega)).trans hdvd
  · intro h
    have hread := shortest_spec hunits
    have hdigits := digits_pos_of_readsBack hunits hread
    refine h (signed negative (shortest (n * one)).digits) _
      ((ofInt_mul_ten_pow_iff hunits).2 ⟨decide_signed_lt_zero hdigits, ?_⟩)
    rwa [natAbs_signed, Int.toNat_of_nonneg hexponent]

/-- **What is written is the number just if no integer that ends in more zeros rounds to it.** -/
theorem written?_eq_toInt?_iff (x : Binary64) :
    x.written? = x.toInt? ↔
      ∀ (w m : Int) (e : Nat), x.toInt? = some w → ofInt (m * 10 ^ e) = x → 10 ^ e ∣ w := by
  cases x with
  | infinite => exact iff_of_true rfl fun w m e h => by cases h
  | notANumber => exact iff_of_true rfl fun w m e h => by cases h
  | finite negative units hrep =>
    by_cases hzero : units = 0
    · subst hzero
      have hvalue : toInt? (.finite negative 0 hrep) = some 0 :=
        (toInt?_finite (Nat.zero_mul one).symm).trans (congrArg some (signed_zero negative))
      have hwritten : written? (.finite negative 0 hrep) = some 0 := by
        unfold written?
        exact if_pos rfl
      rw [hvalue, hwritten]
      refine iff_of_true rfl fun w m e h _ => ?_
      rw [← Option.some.inj h]
      exact Int.dvd_zero _
    by_cases hwhole : one ∣ units
    · obtain ⟨n, hn⟩ := hwhole
      rw [Nat.mul_comm] at hn
      subst hn
      have hpos : 0 < n := Nat.pos_of_ne_zero fun hn => hzero (by rw [hn, Nat.zero_mul])
      have hsigned : ∀ a b : Nat, signed negative a = signed negative b ↔ a = b := fun a b =>
        ⟨fun h => (signed_inj h).1, congrArg _⟩
      rw [toInt?_finite rfl]
      unfold written?
      dsimp only
      rw [if_neg hzero, if_pos (Nat.dvd_mul_left _ _), Option.some.injEq, hsigned,
        shortest_eq_iff hrep hpos, dvd_iff_forall_dvd negative hrep hpos]
      constructor
      · intro h w m e hw hround
        rw [← Option.some.inj hw]
        exact ten_pow_dvd_signed_iff.2 (h m e hround)
      · intro h m e hround
        exact ten_pow_dvd_signed_iff.1 (h _ m e rfl hround)
    · rw [toInt?_of_not_dvd hwhole]
      refine iff_of_true ?_ fun w m e h => by cases h
      unfold written?
      dsimp only
      rw [if_neg hzero, if_neg hwhole]

end Binary64

namespace Number

open Binary64 (shortest one signed)

variable {negative : Bool} {units : Nat} {hrep : Binary64.Representable units}

/-- A whole number is written as the integer of its shortest decimal. -/
theorem floatText_of_dvd (hunits : units ≠ 0) (h : one ∣ units) :
    floatText (.finite negative units hrep) = Numeral.ofInt
      (signed negative ((shortest units).digits * 10 ^ (shortest units).exponent.toNat)) := by
  have hexponent := (Binary64.one_dvd_iff_exponent hrep hunits).1 h
  have hdigits := Binary64.digits_pos_of_readsBack hunits (Binary64.shortest_spec hunits)
  have hpos : 0 < (shortest units).digits * 10 ^ (shortest units).exponent.toNat :=
    Nat.mul_pos hdigits (Nat.pow_pos (by decide))
  obtain ⟨n, hn⟩ := h
  rw [Nat.mul_comm] at hn
  by_cases hsmall : n ≤ 2 ^ 53
  · have hn0 : 0 < n := Nat.pos_of_ne_zero fun hzero => hunits (by rw [hn, hzero, Nat.zero_mul])
    obtain ⟨e, hwhole, hgrid⟩ := Binary64.shortest_mul_one hsmall hn0
    rw [← hn] at hwhole hgrid
    rw [floatText_finite hn hsmall, hgrid, Int.toNat_natCast, hwhole]
  · have hlarge : ¬ (signed negative n).natAbs < 10 ^ 15 := by
      rw [Binary64.natAbs_signed]
      omega
    unfold floatText
    rw [Binary64.toInt?_finite hn]
    dsimp only
    rw [if_neg hlarge, Binary64.text_finite hunits, DecimalDigits.text_of_nonneg hdigits hexponent,
      ofInt_signed hpos]

/-- A number that is not whole is written with a point. -/
theorem point_mem_floatText (h : ¬ one ∣ units) :
    '.' ∈ floatText (.finite negative units hrep) := by
  have hunits : units ≠ 0 := fun hzero => h (hzero ▸ Nat.dvd_zero _)
  have hexponent : (shortest units).exponent < 0 :=
    Int.not_le.1 (mt (Binary64.one_dvd_iff_exponent hrep hunits).2 h)
  have hpoint := DecimalDigits.point_mem_text hexponent
  unfold floatText
  rw [Binary64.toInt?_of_not_dvd h]
  dsimp only
  rw [Binary64.text_finite hunits]
  split
  · exact List.mem_cons_of_mem _ hpoint
  · exact hpoint

/-- **The text of a floating-point number is that of an integer** just if it is written as this
one. -/
theorem floatText_eq_ofInt_iff {x : Binary64} (hx : x.isFinite = true) {m : Int} :
    floatText x = Numeral.ofInt m ↔ x.written? = some m := by
  cases x with
  | infinite => cases hx
  | notANumber => cases hx
  | finite negative units hrep =>
    unfold Binary64.written?
    dsimp only
    split
    · rename_i hzero
      have htext : floatText (.finite negative units hrep) = Numeral.ofInt (signed negative 0) :=
        floatText_finite (by rw [hzero, Nat.zero_mul]) (Nat.zero_le _)
      rw [htext, Binary64.signed_zero, Numeral.ofInt_inj, Option.some.injEq]
    · rename_i hunits
      split
      · rename_i hwhole
        rw [floatText_of_dvd hunits hwhole, Numeral.ofInt_inj, Option.some.injEq]
      · rename_i hfraction
        refine iff_of_false (fun heq => ?_) (Option.some_ne_none m).symm
        exact Numeral.point_not_mem_ofInt m (heq ▸ point_mem_floatText hfraction)

end Number

end RowQuery
