/-
# The text of whole numbers

A whole number of at most 53 bits is a floating-point number, and the interval
of what rounds to it holds no other whole number, but for the one that follows
`2 ^ 53`. So whichever grid of powers of ten its shortest decimal is found on,
the decimal is the number itself; and its text is that of the integer, the last
zeros of which the grid had left out.

Key theorems: `Binary64.gridPoint?_mul_one`, `Binary64.shortest_mul_one_text`,
`Number.floatText_finite`, `Number.floatText_ofInt`.
-/
import RowQuery.Number
import RowQuery.Proofs.Number.Rounding

namespace RowQuery

namespace Binary64

attribute [local irreducible] one limit

/-! ### The interval -/

section Interval

variable {units point : Nat} {exponent : Int}

/-- What reads back is in the interval, the ends included. -/
theorem bounds_of_readsBack (h : readsBack units point exponent = true) :
    (4 * units - gapBelow units) * 10 ^ (-exponent).toNat ≤ 4 * point * one * 10 ^ exponent.toNat ∧
      4 * point * one * 10 ^ exponent.toNat ≤
        (4 * units + gapAbove units) * 10 ^ (-exponent).toNat := by
  unfold readsBack at h
  dsimp only at h
  split at h
  · simp only [Bool.and_eq_true, decide_eq_true_eq] at h
    exact h
  · simp only [Bool.and_eq_true, decide_eq_true_eq] at h
    exact ⟨h.1.le, h.2.le⟩

/-- What is in the interval reads back, but for the ends. -/
theorem readsBack_of_lt
    (hlow : (4 * units - gapBelow units) * 10 ^ (-exponent).toNat <
      4 * point * one * 10 ^ exponent.toNat)
    (hhigh : 4 * point * one * 10 ^ exponent.toNat <
      (4 * units + gapAbove units) * 10 ^ (-exponent).toNat) :
    readsBack units point exponent = true := by
  unfold readsBack
  dsimp only
  split
  · simp only [Bool.and_eq_true, decide_eq_true_eq]
    exact ⟨hlow.le, hhigh.le⟩
  · simp only [Bool.and_eq_true, decide_eq_true_eq]
    exact ⟨hlow, hhigh⟩

end Interval

/-! ### The interval of a whole number -/

theorem stepBits_le_of_lt {units k : Nat} (h : units < 2 ^ (k + 53)) : stepBits units ≤ k := by
  unfold stepBits
  rcases Nat.eq_zero_or_pos units with rfl | hpos
  · simp
  · have := (Nat.log2_lt hpos.ne').2 h
    omega

/-- The gaps around a whole number: a half of one at most, and less than a whole above the last. -/
theorem gaps_mul_one {n : Nat} (h : n ≤ 2 ^ 53) :
    gapBelow (n * one) ≤ 2 * one ∧ gapAbove (n * one) ≤ 4 * one ∧
      (n < 2 ^ 53 → gapAbove (n * one) ≤ 2 * one) := by
  obtain ⟨b, hb, -⟩ := exists_one_eq_two_pow
  rcases Nat.lt_or_eq_of_le h with hlt | heq
  · have hunits : n * one < 2 ^ (b + 53) := by
      rw [hb, Nat.add_comm, Nat.pow_add]
      exact Nat.mul_lt_mul_of_pos_right hlt (Nat.two_pow_pos b)
    have hstep : 2 ^ stepBits (n * one) ≤ one := by
      rw [hb] at hunits ⊢
      exact Nat.pow_le_pow_right (by decide) (stepBits_le_of_lt hunits)
    unfold gapBelow gapAbove
    refine ⟨?_, by omega, fun _ => by omega⟩
    split <;> omega
  · have hunits : n * one = 2 ^ (b + 53) := by rw [heq, hb, ← Nat.pow_add, Nat.add_comm]
    have hlog : (n * one).log2 = b + 53 := by rw [hunits, Nat.log2_two_pow]
    have hstep : 2 ^ stepBits (n * one) = 2 * one := by
      unfold stepBits
      rw [hlog, hb, show b + 53 - 52 = b + 1 by omega, Nat.pow_succ, Nat.mul_comm]
    unfold gapBelow gapAbove
    refine ⟨?_, by omega, fun hlt => absurd heq hlt.ne⟩
    rw [if_pos ⟨by rw [hlog, hunits], by omega⟩]
    omega

theorem gaps_pos (units : Nat) : 0 < gapBelow units ∧ 0 < gapAbove units := by
  have hstep := Nat.two_pow_pos (stepBits units)
  unfold gapBelow gapAbove
  refine ⟨?_, by omega⟩
  split <;> omega

/-- A whole number that rounds to another is this one, or follows the last of 53 bits. -/
theorem of_readsBack {n point e : Nat} (hn : n ≤ 2 ^ 53)
    (h : readsBack (n * one) point e = true) :
    point * 10 ^ e = n ∨ n = 2 ^ 53 ∧ point * 10 ^ e = n + 1 := by
  obtain ⟨hbelow, habove, hlast⟩ := gaps_mul_one hn
  have hone := one_pos
  have hbounds : 4 * (n * one) - gapBelow (n * one) ≤ 4 * point * one * 10 ^ e ∧
      4 * point * one * 10 ^ e ≤ 4 * (n * one) + gapAbove (n * one) := by
    have hbounds := bounds_of_readsBack h
    simpa only [Int.toNat_natCast, Int.toNat_neg_natCast, Nat.pow_zero, Nat.mul_one] using hbounds
  have hscaled : 4 * point * one * 10 ^ e = 4 * (point * 10 ^ e) * one := by ring
  rw [hscaled] at hbounds
  generalize point * 10 ^ e = m at hbounds ⊢
  have hlow : 4 * n * one ≤ (4 * m + 2) * one := by
    have : 4 * (n * one) = 4 * n * one := by ring
    rw [Nat.add_mul]
    omega
  have hhigh : 4 * m * one ≤ (4 * n + 4) * one := by
    have : 4 * (n * one) = 4 * n * one := by ring
    rw [Nat.add_mul]
    omega
  have hlow := Nat.le_of_mul_le_mul_right hlow hone
  have hhigh := Nat.le_of_mul_le_mul_right hhigh hone
  rcases Nat.lt_or_eq_of_le hn with hlt | heq
  · have habove := hlast hlt
    have hhigh : 4 * m * one ≤ (4 * n + 2) * one := by
      have : 4 * (n * one) = 4 * n * one := by ring
      rw [Nat.add_mul]
      omega
    have hhigh := Nat.le_of_mul_le_mul_right hhigh hone
    omega
  · omega

theorem readsBack_self {n : Nat} (hn : 0 < n) : readsBack (n * one) n 0 = true := by
  obtain ⟨hbelow, habove⟩ := gaps_pos (n * one)
  have hpos : 0 < n * one := Nat.mul_pos hn one_pos
  have hscaled : 4 * n * one = 4 * (n * one) := by ring
  refine readsBack_of_lt ?_ ?_
  all_goals
    simp only [Int.toNat_zero, Int.neg_zero, Nat.pow_zero, Nat.mul_one]
    omega

/-! ### Grids -/

/-- The number that follows `2 ^ 53` is on no grid but the finest. -/
theorem exponent_eq_zero {n point e : Nat} (hn : n = 2 ^ 53) (h : point * 10 ^ e = n + 1) :
    e = 0 := by
  cases e with
  | zero => rfl
  | succ e =>
    rw [Nat.pow_succ, ← Nat.mul_assoc] at h
    omega

/-- The point of a grid at or below a whole number reads back only if it is the number. -/
theorem eq_of_readsBack_below {n e : Nat} (hn : n ≤ 2 ^ 53)
    (h : readsBack (n * one) (n / 10 ^ e) e = true) : n / 10 ^ e * 10 ^ e = n := by
  have hdiv : n / 10 ^ e * 10 ^ e ≤ n := Nat.div_mul_le_self n _
  rcases of_readsBack hn h with h | ⟨-, h⟩
  · exact h
  · omega

/-- The point of a grid above a whole number reads back on the finest grid only. -/
theorem exponent_eq_zero_of_readsBack_above {n e : Nat} (hn : n ≤ 2 ^ 53)
    (h : readsBack (n * one) (n / 10 ^ e + 1) e = true) : e = 0 := by
  have hlt : n < (n / 10 ^ e + 1) * 10 ^ e := by
    rw [Nat.mul_comm]
    exact Nat.lt_mul_div_succ n (Nat.pow_pos (by decide))
  rcases of_readsBack hn h with h | ⟨hlast, h⟩
  · omega
  · exact exponent_eq_zero hlast h

/-- A grid's point by the whole part of the number on the grid. -/
theorem gridPoint?_eq (units : Nat) (exponent : Int) {below : Nat}
    (h : units * 10 ^ (-exponent).toNat / (one * 10 ^ exponent.toNat) = below) :
    gridPoint? units exponent =
      match readsBack units below exponent, readsBack units (below + 1) exponent with
      | true, true =>
        some ⟨if 2 * (units * 10 ^ (-exponent).toNat % (one * 10 ^ exponent.toNat)) <
          one * 10 ^ exponent.toNat then below else below + 1, exponent⟩
      | true, false => some ⟨below, exponent⟩
      | false, true => some ⟨below + 1, exponent⟩
      | false, false => none := by
  subst h
  rfl

theorem isSome_gridPoint? (units : Nat) (exponent : Int) :
    (gridPoint? units exponent).isSome =
      (readsBack units (units * 10 ^ (-exponent).toNat / (one * 10 ^ exponent.toNat)) exponent ||
        readsBack units (units * 10 ^ (-exponent).toNat / (one * 10 ^ exponent.toNat) + 1)
          exponent) := by
  unfold gridPoint?
  dsimp only
  split
  all_goals
    rename_i hbelow habove
    rw [hbelow, habove]
    rfl

/-- A grid from one upwards has the quotient of a whole number below it. -/
theorem gridPoint?_mul_one_eq (n e : Nat) :
    gridPoint? (n * one) e =
      match readsBack (n * one) (n / 10 ^ e) e, readsBack (n * one) (n / 10 ^ e + 1) e with
      | true, true =>
        some ⟨if 2 * (one * (n % 10 ^ e)) < one * 10 ^ e then n / 10 ^ e else n / 10 ^ e + 1, e⟩
      | true, false => some ⟨n / 10 ^ e, e⟩
      | false, true => some ⟨n / 10 ^ e + 1, e⟩
      | false, false => none := by
  have hexponent : (-(e : Int)).toNat = 0 ∧ (e : Int).toNat = e := by omega
  have hbelow : n * one * 10 ^ (-(e : Int)).toNat / (one * 10 ^ (e : Int).toNat) = n / 10 ^ e := by
    rw [hexponent.1, hexponent.2, Nat.pow_zero, Nat.mul_one, Nat.mul_comm n,
      Nat.mul_div_mul_left _ _ one_pos]
  have hmod : n * one * 10 ^ (-(e : Int)).toNat % (one * 10 ^ (e : Int).toNat) =
      one * (n % 10 ^ e) := by
    rw [hexponent.1, hexponent.2, Nat.pow_zero, Nat.mul_one, Nat.mul_comm n, Nat.mul_mod_mul_left]
  rw [gridPoint?_eq _ _ hbelow, hmod, hexponent.2]

/-- **The grids from one upwards hold a whole number or miss it.** -/
theorem gridPoint?_mul_one {n e : Nat} {d : DecimalDigits} (hn : n ≤ 2 ^ 53) (hpos : 0 < n)
    (h : gridPoint? (n * one) e = some d) : d.digits * 10 ^ e = n ∧ d.exponent = e := by
  have hten : 0 < 10 ^ e := Nat.pow_pos (by decide)
  rw [gridPoint?_mul_one_eq] at h
  cases hlow : readsBack (n * one) (n / 10 ^ e) e with
  | true =>
    cases hup : readsBack (n * one) (n / 10 ^ e + 1) e with
    | true =>
      rw [hlow, hup] at h
      obtain rfl := Option.some.inj h
      have hzero : n % 10 ^ e = 0 := by
        rw [exponent_eq_zero_of_readsBack_above hn hup, Nat.pow_zero, Nat.mod_one]
      have hden : 2 * (one * (n % 10 ^ e)) < one * 10 ^ e := by
        rw [hzero, Nat.mul_zero, Nat.mul_zero]
        exact Nat.mul_pos one_pos hten
      rw [if_pos hden]
      exact ⟨eq_of_readsBack_below hn hlow, rfl⟩
    | false =>
      rw [hlow, hup] at h
      obtain rfl := Option.some.inj h
      exact ⟨eq_of_readsBack_below hn hlow, rfl⟩
  | false =>
    cases hup : readsBack (n * one) (n / 10 ^ e + 1) e with
    | true =>
      -- on the finest grid the number itself reads back
      obtain rfl := exponent_eq_zero_of_readsBack_above hn hup
      rw [Nat.pow_zero, Nat.div_one] at hlow
      exact nomatch (readsBack_self hpos).symm.trans hlow
    | false =>
      rw [hlow, hup] at h
      cases h

theorem gridPoint?_zero {n : Nat} (hpos : 0 < n) : (gridPoint? (n * one) 0).isSome = true := by
  have hread := readsBack_self hpos
  have hbelow : n * one * 10 ^ (-(0 : Int)).toNat / (one * 10 ^ (0 : Int).toNat) = n := by
    show n * one * 1 / (one * 1) = n
    rw [Nat.mul_one, Nat.mul_one, Nat.mul_div_cancel n one_pos]
  rw [isSome_gridPoint?, hbelow, hread, Bool.true_or]

/-! ### The search -/

theorem magnitude_mul_one {n : Nat} (hpos : 0 < n) :
    magnitude (n * one) = (Nat.toDigits 10 n).length := by
  unfold magnitude
  rw [if_pos (Nat.le_mul_of_pos_left _ hpos), Nat.mul_div_cancel n one_pos]

/-- The search of a range finds at a place what it finds there or sooner. -/
theorem findSome?_range_of_isSome {α : Type} {f : Nat → Option α} {m n : Nat} (hm : m < n)
    (h : (f m).isSome = true) :
    ∃ k d, k ≤ m ∧ f k = some d ∧ (List.range n).findSome? f = some d := by
  have hne : f m ≠ none := Option.isSome_iff_ne_none.1 h
  cases hfound : (List.range n).findSome? f with
  | none => exact absurd (List.findSome?_eq_none_iff.1 hfound m (List.mem_range.2 hm)) hne
  | some d =>
    obtain ⟨before, k, after, hrange, hk, hnone⟩ := List.findSome?_eq_some_iff.1 hfound
    refine ⟨k, d, ?_, hk, rfl⟩
    have hsorted : (before ++ k :: after).Pairwise (· < ·) := hrange ▸ List.pairwise_lt_range
    have hmem : m ∈ before ++ k :: after := hrange ▸ List.mem_range.2 hm
    rcases List.mem_append.1 hmem with hbefore | hafter
    · exact absurd (hnone m hbefore) hne
    · rcases List.mem_cons.1 hafter with rfl | hafter
      · exact le_rfl
      · exact (List.rel_of_pairwise_cons (List.pairwise_append.1 hsorted).2.1 hafter).le

/-- The shortest decimal is on the first grid that has a point, so on no later one than any that
has. -/
theorem shortest_of_isSome {units m : Nat} (hm : m < 19)
    (h : (gridPoint? units (magnitude units - m)).isSome = true) :
    ∃ k : Nat, k ≤ m ∧ gridPoint? units (magnitude units - k) = some (shortest units) := by
  obtain ⟨k, d, hk, hgrid, hfound⟩ := findSome?_range_of_isSome
    (f := fun (k : Nat) => gridPoint? units (magnitude units - k)) hm h
  refine ⟨k, hk, hgrid.trans ?_⟩
  unfold shortest
  dsimp only
  rw [hfound]
  rfl

/-- The grid of one has a point for a whole number. -/
theorem gridPoint?_finest {n : Nat} (hpos : 0 < n) :
    (gridPoint? (n * one) (magnitude (n * one) - (Nat.toDigits 10 n).length)).isSome = true := by
  rw [magnitude_mul_one hpos, Int.sub_self]
  exact gridPoint?_zero hpos

/-- The shortest decimal of a whole number is the number, on a grid from one upwards. -/
theorem shortest_mul_one {n : Nat} (hn : n ≤ 2 ^ 53) (hpos : 0 < n) :
    ∃ e : Nat, (shortest (n * one)).digits * 10 ^ e = n ∧ (shortest (n * one)).exponent = e := by
  have hlength : (Nat.toDigits 10 n).length ≤ 16 :=
    (Nat.length_toDigits_le_iff (by decide) (by decide)).2 (lt_of_le_of_lt hn (by decide))
  obtain ⟨k, hk, hgrid⟩ := shortest_of_isSome (by omega) (gridPoint?_finest hpos)
  rw [magnitude_mul_one hpos, ← Nat.cast_sub hk] at hgrid
  exact ⟨_, gridPoint?_mul_one hn hpos hgrid⟩

end Binary64

/-! ### Texts -/

theorem toDigits_mul_ten_pow {n : Nat} (hpos : 0 < n) : ∀ e : Nat,
    Nat.toDigits 10 n ++ List.replicate e '0' = Nat.toDigits 10 (n * 10 ^ e)
  | 0 => by simp
  | e + 1 => by
    have hten : 0 < n * 10 ^ e := Nat.mul_pos hpos (Nat.pow_pos (by decide))
    rw [List.replicate_succ', ← List.append_assoc, toDigits_mul_ten_pow hpos e]
    have happend := Nat.toDigits_append_toDigits (b := 10) (by decide) hten (d := 0) (by decide)
    rw [Nat.toDigits_zero] at happend
    rw [happend]
    congr 1
    ring

/-- A decimal that is whole has the text of the integer. -/
theorem DecimalDigits.text_of_nonneg {d : DecimalDigits} (hd : 0 < d.digits)
    (h : 0 ≤ d.exponent) : d.text = Nat.toDigits 10 (d.digits * 10 ^ d.exponent.toNat) := by
  unfold text
  rw [if_pos h, toDigits_mul_ten_pow hd]

namespace Binary64

attribute [local irreducible] one limit

/-- **The text of a whole number of at most 53 bits has its digits.** -/
theorem shortest_mul_one_text {n : Nat} (hn : n ≤ 2 ^ 53) (hpos : 0 < n) :
    (shortest (n * one)).text = Nat.toDigits 10 n := by
  obtain ⟨e, hdigits, hexponent⟩ := shortest_mul_one hn hpos
  have hd : (shortest (n * one)).digits ≠ 0 := fun h => by
    rw [h, Nat.zero_mul] at hdigits
    omega
  rw [DecimalDigits.text_of_nonneg (Nat.pos_of_ne_zero hd) (by omega), hexponent,
    Int.toNat_natCast, hdigits]

theorem text_finite {negative : Bool} {units : Nat} {h : Representable units} (hpos : units ≠ 0) :
    text (.finite negative units h) =
      if negative then '-' :: (shortest units).text else (shortest units).text := by
  unfold text
  dsimp only
  rw [if_neg hpos]

theorem toInt?_finite {negative : Bool} {units n : Nat} {h : Representable units}
    (hn : units = n * one) : toInt? (.finite negative units h) = some (signed negative n) := by
  unfold toInt?
  dsimp only
  rw [if_pos (Dvd.intro_left n hn.symm), hn, Nat.mul_div_cancel n one_pos]

/-- An integer that the format holds is its own floating-point number. -/
theorem ofInt_of_representable {n : Int} (h : Representable (n.natAbs * one)) :
    ofInt n = .finite (n < 0) (n.natAbs * one) h := by
  unfold ofInt ofRatio roundUnits
  rw [nearest_of_representable h]
  exact dif_pos _

/-- An integer of at most 53 bits is a floating-point number. -/
theorem ofInt_eq {n : Int} (hn : n.natAbs ≤ 2 ^ 53) :
    ofInt n = .finite (n < 0) (n.natAbs * one) (representable_mul_one hn) :=
  ofInt_of_representable _

end Binary64

namespace Number

theorem signed_natAbs (n : Int) : Binary64.signed (n < 0) n.natAbs = n := by
  unfold Binary64.signed
  by_cases h : n < 0
  · rw [if_pos (decide_eq_true h)]
    omega
  · rw [if_neg (by rwa [decide_eq_true_eq])]
    omega

theorem ofInt_signed {negative : Bool} {n : Nat} (hn : 0 < n) :
    Numeral.ofInt (Binary64.signed negative n) =
      if negative then '-' :: Nat.toDigits 10 n else Nat.toDigits 10 n := by
  unfold Numeral.ofInt
  rw [Binary64.natAbs_signed]
  unfold Binary64.signed
  cases negative with
  | true => exact if_pos (show (-(n : Int)) < 0 by omega)
  | false => exact if_neg (show ¬(n : Int) < 0 by omega)

/-- **The text of a whole number of at most 53 bits is that of the integer.** -/
theorem floatText_finite {negative : Bool} {units n : Nat} {h : Binary64.Representable units}
    (hunits : units = n * Binary64.one) (hn : n ≤ 2 ^ 53) :
    floatText (.finite negative units h) = Numeral.ofInt (Binary64.signed negative n) := by
  unfold floatText
  rw [Binary64.toInt?_finite hunits]
  dsimp only
  split
  · rfl
  · rename_i hlarge
    rw [Binary64.natAbs_signed] at hlarge
    have hpos : 0 < n := by omega
    have hne : units ≠ 0 := hunits ▸ (Nat.mul_pos hpos Binary64.one_pos).ne'
    rw [Binary64.text_finite hne, hunits, Binary64.shortest_mul_one_text hn hpos, ofInt_signed hpos]

theorem floatText_ofInt {n : Int} (hn : n.natAbs ≤ 2 ^ 53) :
    floatText (.ofInt n) = Numeral.ofInt n := by
  rw [Binary64.ofInt_eq hn, floatText_finite rfl hn, signed_natAbs]

end Number

end RowQuery
