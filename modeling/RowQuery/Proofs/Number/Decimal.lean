/-
# Decimals stay in their format

Every decimal that comes from a binary number or from an operation has a
mantissa below `2 ^ 96` and a scale of at most 28. So the way back to binary
never leaves the finite numbers.

Key definitions: `ScaledDecimal.Fits`.
Key theorems: `ScaledDecimal.ofBinary64?_fits`, `ScaledDecimal.add?_fits`,
`ScaledDecimal.mul?_fits`, `ScaledDecimal.div?_fits`, `ScaledDecimal.round_fits`,
`ScaledDecimal.within_toBinary64`.
-/
import RowQuery.Number.ScaledDecimal
import RowQuery.Proofs.Number.Rounding

namespace RowQuery.ScaledDecimal

/-- Within the format: a mantissa of 96 bits and at most 28 digits after the point. -/
structure Fits (d : ScaledDecimal) : Prop where
  mantissa : d.mantissa < limit
  scale : d.scale ≤ maxScale

theorem limit_pos : 0 < limit := by unfold limit; exact Nat.two_pow_pos _

theorem zero_fits : zero.Fits := ⟨limit_pos, Nat.zero_le _⟩

/-! ### Sums and products -/

theorem fit?_fits {negative : Bool} {mantissa scale : Nat} {d : ScaledDecimal}
    (h : fit? negative mantissa scale = some d) : d.Fits := by
  obtain ⟨dropped, -, h⟩ := List.exists_of_findSome?_eq_some h
  dsimp only at h
  split at h
  · rename_i hd
    cases h
    exact ⟨hd.2, hd.1⟩
  · cases h

theorem add?_fits {x y d : ScaledDecimal} (h : x.add? y = some d) : d.Fits := fit?_fits h

theorem sub?_fits {x y d : ScaledDecimal} (h : x.sub? y = some d) : d.Fits := add?_fits h

theorem mul?_fits {x y d : ScaledDecimal} (h : x.mul? y = some d) : d.Fits := by
  unfold mul? at h
  split at h
  · cases h; exact zero_fits
  · exact fit?_fits h

/-! ### Quotients -/

/-- There is room for each of so many more digits. -/
theorem room_spec (quotient : Nat) (scale : Int) (h : 0 < room quotient scale) :
    quotient * 10 ^ room quotient scale < limit ∧ scale + room quotient scale ≤ maxScale := by
  set p : Nat → Bool := fun k => quotient * 10 ^ k < limit ∧ scale + k ≤ maxScale with hp
  have hroom : room quotient scale = ((List.range' 1 9).takeWhile p).length := rfl
  set digits := room quotient scale with hdigits
  have hmem : digits ∈ (List.range' 1 9).takeWhile p := by
    have hpre := List.takeWhile_prefix (l := List.range' 1 9) p
    have hlt : digits - 1 < ((List.range' 1 9).takeWhile p).length := by omega
    have hget : ((List.range' 1 9).takeWhile p)[digits - 1] = digits := by
      rw [hpre.getElem hlt, List.getElem_range']
      omega
    exact hget ▸ List.getElem_mem hlt
  have hall : p digits = true := List.all_eq_true.1 List.all_takeWhile digits hmem
  simpa [hp] using hall

theorem room_le (quotient : Nat) (scale : Int) : room quotient scale ≤ 9 :=
  (List.takeWhile_sublist _).length_le

theorem dropLast?_fits {mantissa : Nat} {scale : Int} {beyond : Bool} {q : Nat} {s : Int}
    (hm : mantissa < limit + 10 ^ 9) (hs : scale ≤ maxScale)
    (h : dropLast? mantissa scale beyond = some (q, s)) : q < limit ∧ s ≤ maxScale := by
  unfold dropLast? at h
  dsimp only at h
  split at h
  · cases h
  · have hlim : 10 ^ 9 < limit := by unfold limit; norm_num
    simp only [Option.some.injEq, Prod.mk.injEq] at h
    obtain ⟨rfl, rfl⟩ := h
    refine ⟨?_, by omega⟩
    split <;> omega

theorem roundQuotient?_fits {quotient remainder divisor : Nat} {scale : Int} {q : Nat} {s : Int}
    (hq : quotient < limit) (hs : scale ≤ maxScale)
    (h : roundQuotient? quotient remainder divisor scale = some (q, s)) :
    q < limit ∧ s ≤ maxScale := by
  unfold roundQuotient? at h
  dsimp only at h
  split at h
  · cases h; exact ⟨hq, hs⟩
  · split at h
    · rename_i hlt
      cases h; exact ⟨hlt, hs⟩
    · exact dropLast?_fits (by omega) hs h

/-- Digits that there is room for leave a quotient below the limit, or just above it. -/
theorem extended_lt {quotient remainder divisor digits : Nat} (hq : quotient * 10 ^ digits < limit)
    (hd : digits ≤ 9) (hr : remainder < divisor) :
    quotient * 10 ^ digits + remainder * 10 ^ digits / divisor < limit + 10 ^ 9 := by
  have hpow : 10 ^ digits ≤ 10 ^ 9 := Nat.pow_le_pow_right (by decide) hd
  have hlt : remainder * 10 ^ digits / divisor < 10 ^ digits := by
    refine (Nat.div_lt_iff_lt_mul (by omega)).2 ?_
    rw [Nat.mul_comm]
    exact Nat.mul_lt_mul_of_pos_left hr (Nat.pow_pos (by decide))
  omega

theorem extend?_fits (divisor : Nat) : ∀ (n quotient remainder : Nat) (scale : Int) (q : Nat) (s : Int),
    quotient < limit → remainder < divisor → scale ≤ maxScale →
    extend? divisor n quotient remainder scale = some (q, s) → q < limit ∧ s ≤ maxScale
  | 0, _, _, _, _, _, _, _, _, h => by cases h
  | n + 1, quotient, remainder, scale, q, s, hq, hr, hs, h => by
    unfold extend? at h
    dsimp only at h
    split at h
    · cases h; exact ⟨hq, hs⟩
    · split at h
      · -- nothing remains: zeros are filled in up to the point
        rename_i hrem
        split at h
        · rename_i hlt
          refine extend?_fits divisor n _ _ _ _ _ hlt (by omega) ?_ h
          have : (0 : Int) ≤ maxScale := Int.natCast_nonneg _
          omega
        · cases h
      · rename_i hrem
        split at h
        · cases h
        · split at h
          · exact roundQuotient?_fits hq hs h
          · rename_i hdigits
            have hroom := room_spec quotient scale (Nat.pos_of_ne_zero hdigits)
            split at h
            · rename_i hlt
              exact extend?_fits divisor n _ _ _ _ _ hlt (Nat.mod_lt _ (by omega)) hroom.2 h
            · exact dropLast?_fits (extended_lt hroom.1 (room_le _ _) hr) hroom.2 h

/-- A change that makes neither mantissa nor scale larger. -/
theorem foldl_le {α : Type} (step : Nat × Nat → α → Nat × Nat)
    (hstep : ∀ p a, (step p a).1 ≤ p.1 ∧ (step p a).2 ≤ p.2) :
    ∀ (as : List α) (p : Nat × Nat), (as.foldl step p).1 ≤ p.1 ∧ (as.foldl step p).2 ≤ p.2
  | [], _ => ⟨le_rfl, le_rfl⟩
  | a :: as, p => by
    obtain ⟨h1, h2⟩ := foldl_le step hstep as (step p a)
    exact ⟨h1.trans (hstep p a).1, h2.trans (hstep p a).2⟩

theorem dropZeroBlocks_le (mantissa scale : Nat) :
    (dropZeroBlocks mantissa scale).1 ≤ mantissa ∧ (dropZeroBlocks mantissa scale).2 ≤ scale := by
  refine foldl_le _ (fun p a => ?_) zeroBlocks (mantissa, scale)
  dsimp only
  split
  · exact ⟨Nat.div_le_self _ _, Nat.sub_le _ _⟩
  · exact ⟨le_rfl, le_rfl⟩

theorem div?_fits {x y d : ScaledDecimal} (hx : x.Fits) (h : x.div? y = some d) : d.Fits := by
  unfold div? at h
  dsimp only at h
  split at h
  · cases h
  · rename_i hy
    split at h
    · cases h; exact zero_fits
    · obtain ⟨⟨q, s⟩, hext, h⟩ := Option.map_eq_some_iff.1 h
      obtain ⟨hq, hs⟩ := extend?_fits y.mantissa _ _ _ _ q s
        (lt_of_le_of_lt (Nat.div_le_self _ _) hx.mantissa)
        (Nat.mod_lt _ (Nat.pos_of_ne_zero hy)) (by have := hx.scale; omega) hext
      subst h
      have hdrop := dropZeroBlocks_le q s.toNat
      constructor
      · show (if _ then _ else _ : Nat × Nat).1 < limit
        split
        · exact hq
        · exact lt_of_le_of_lt hdrop.1 hq
      · show (if _ then _ else _ : Nat × Nat).2 ≤ maxScale
        split
        · show s.toNat ≤ maxScale
          omega
        · exact hdrop.2.trans (by omega)

/-! ### From binary -/

theorem clearHalvings_lt : ∀ (n mantissa : Nat) (exponent : Int), mantissa < limit →
    (clearHalvings n mantissa exponent).1 < limit
  | 0, _, _, h => h
  | n + 1, mantissa, exponent, h => by
    have hhalf : mantissa / 2 < limit := lt_of_le_of_lt (Nat.div_le_self _ _) h
    unfold clearHalvings
    split
    · exact clearHalvings_lt n _ _ hhalf
    · split
      · rename_i hlt
        exact clearHalvings_lt n _ _ hlt
      · exact clearHalvings_lt n _ _ hhalf

theorem clearDoublings_lt : ∀ (n mantissa : Nat) (exponent : Int) (m : Nat) (e : Int),
    mantissa < limit → clearDoublings n mantissa exponent = some (m, e) → m < limit
  | 0, _, _, _, _, h, heq => by cases heq; exact h
  | n + 1, mantissa, exponent, m, e, h, heq => by
    unfold clearDoublings at heq
    split at heq
    · refine clearDoublings_lt n _ _ m e ?_ heq
      have hlimit : limit = 2 ^ 95 * 2 := by unfold limit; norm_num
      omega
    · split at heq
      · cases heq
      · exact clearDoublings_lt n _ _ m e (lt_of_le_of_lt (Nat.div_le_self _ _) h) heq

/-- So many digits are gone from the scale, or nothing is left. -/
theorem dropDigits_fits : ∀ n mantissa scale : Nat, mantissa < limit →
    (dropDigits n mantissa scale).1 < limit ∧ (dropDigits n mantissa scale).2 ≤ scale - n
  | 0, _, _, h => ⟨h, le_rfl⟩
  | n + 1, mantissa, scale, h => by
    unfold dropDigits
    dsimp only
    split
    · exact ⟨limit_pos, Nat.zero_le _⟩
    · have hnext : (if 5 ≤ mantissa % 10 then mantissa / 10 + 1 else mantissa / 10) < limit := by
        split <;> omega
      obtain ⟨hm, hs⟩ := dropDigits_fits n _ (scale - 1) hnext
      exact ⟨hm, by omega⟩

theorem dropExcess_le : ∀ mantissa scale : Nat,
    (dropExcess mantissa scale).1 ≤ mantissa ∧ (dropExcess mantissa scale).2 ≤ scale
  | _, 0 => ⟨le_rfl, le_rfl⟩
  | mantissa, scale + 1 => by
    unfold dropExcess
    split
    · rename_i hlarge
      obtain ⟨hm, hs⟩ := dropExcess_le ((mantissa + 5) / 10) scale
      exact ⟨by omega, by omega⟩
    · exact ⟨le_rfl, le_rfl⟩

theorem dropZeros_le : ∀ mantissa scale : Nat,
    (dropZeros mantissa scale).1 ≤ mantissa ∧ (dropZeros mantissa scale).2 ≤ scale
  | _, 0 => ⟨le_rfl, le_rfl⟩
  | mantissa, scale + 1 => by
    unfold dropZeros
    split
    · obtain ⟨hm, hs⟩ := dropZeros_le (mantissa / 10) scale
      exact ⟨by omega, by omega⟩
    · exact ⟨le_rfl, le_rfl⟩

theorem ofPower?_fits {negative : Bool} {mantissa : Nat} {exponent : Int} {d : ScaledDecimal}
    (hm : mantissa < limit) (h : ofPower? negative mantissa exponent = some d) : d.Fits := by
  unfold ofPower? at h
  dsimp only at h
  split at h
  · split at h
    · rename_i hlt
      cases h
      exact ⟨hlt, Nat.zero_le _⟩
    · cases h
  · cases h
    set scale := (-exponent).toNat
    obtain ⟨hm1, hs1⟩ := dropDigits_fits (scale - maxScale) mantissa scale hm
    set p := dropDigits (scale - maxScale) mantissa scale
    obtain ⟨hm2, hs2⟩ := dropExcess_le p.1 p.2
    set q := dropExcess p.1 p.2
    obtain ⟨hm3, hs3⟩ := dropZeros_le q.1 q.2
    constructor
    · show (dropZeros q.1 q.2).1 < limit
      omega
    · show (dropZeros q.1 q.2).2 ≤ maxScale
      omega

theorem mantissa_lt_limit (units : Nat) : units / 2 ^ Binary64.stepBits units < limit := by
  refine (Nat.div_lt_iff_lt_mul (Nat.two_pow_pos _)).2 ?_
  refine lt_of_lt_of_le (Nat.lt_log2_self (n := units)) ?_
  unfold limit
  rw [← Nat.pow_add]
  refine Nat.pow_le_pow_right (by decide) ?_
  unfold Binary64.stepBits
  omega

theorem ofBinary64?_fits {x : Binary64} {d : ScaledDecimal} (h : ofBinary64? x = some d) :
    d.Fits := by
  cases x with
  | infinite => cases h
  | notANumber => cases h
  | finite negative units hrep =>
    unfold ofBinary64? at h
    dsimp only at h
    have hlt := mantissa_lt_limit units
    split at h
    · cases h; exact ⟨limit_pos, Nat.zero_le _⟩
    · split at h
      · exact ofPower?_fits (clearHalvings_lt _ _ _ hlt) h
      · obtain ⟨⟨m, e⟩, hdoublings, h⟩ := Option.bind_eq_some_iff.1 h
        exact ofPower?_fits (clearDoublings_lt _ _ _ m e hlt hdoublings) h

/-! ### Rounding and back to binary -/

theorem round_fits {d : ScaledDecimal} (h : d.Fits) (digits : Nat) : (d.round digits).Fits := by
  unfold round
  dsimp only
  split
  · exact ⟨limit_pos, Nat.min_le_right _ _⟩
  · rename_i hm
    split
    · exact h
    · rename_i hs
      refine ⟨lt_of_le_of_lt (Nat.div_le_of_le_mul ?_) h.mantissa, by have := h.scale; show digits ≤ _; omega⟩
      have hunit : 2 ≤ 10 ^ (d.scale - digits) :=
        le_trans (by decide : 2 ≤ 10 ^ 1) (Nat.pow_le_pow_right (by decide) (by omega))
      set unit := 10 ^ (d.scale - digits)
      have h1 : 1 ≤ d.mantissa := Nat.pos_of_ne_zero hm
      have h2 : unit / 2 ≤ unit - 1 := by omega
      nlinarith [Nat.sub_add_cancel (show 1 ≤ unit by omega)]

attribute [local irreducible] Binary64.one Binary64.limit

/-- The powers of ten that divide mantissas are finite, and one at least. -/
theorem ofRatio_ten_pow {scale : Nat} (h : scale ≤ maxScale) :
    ∃ s n hn, Binary64.ofRatio false (10 ^ scale) 1 = .finite s n hn ∧ Binary64.one ≤ n ∧
      (Binary64.finite s n hn).Within 94 := by
  have hle : 10 ^ scale ≤ 2 ^ 94 * 1 :=
    le_trans (Nat.pow_le_pow_right (by decide) h) (by unfold maxScale; norm_num)
  have hwithin : (Binary64.ofRatio false (10 ^ scale) 1).Within 94 :=
    Binary64.within_ofRatio (by decide) Nat.one_pos hle
  cases heq : Binary64.ofRatio false (10 ^ scale) 1 with
  | finite s n hn =>
    have hone := Binary64.one_le_of_ofRatio (Nat.pow_pos (by decide)).ne' heq
    exact ⟨s, n, hn, rfl, hone, heq ▸ hwithin⟩
  | infinite => rw [heq] at hwithin; exact hwithin.elim
  | notANumber => rw [heq] at hwithin; exact hwithin.elim

/-- **A decimal has a finite binary number.** -/
theorem within_toBinary64 {d : ScaledDecimal} (h : d.Fits) : d.toBinary64.Within 192 := by
  have hm : d.mantissa < 2 ^ 96 := h.mantissa
  unfold toBinary64
  dsimp only
  split
  · refine (Binary64.within_ofInt (k := 96) (by decide) ?_).mono (by decide)
    unfold signed
    split <;> omega
  · obtain ⟨s, n, hn, hpower, hone, hscale⟩ := ofRatio_ten_pow h.scale
    have hpos : 0 < 10 ^ d.scale := Nat.pow_pos (by decide)
    have hten : 10 ^ d.scale ≤ 2 ^ 94 :=
      le_trans (Nat.pow_le_pow_right (by decide) h.scale) (by unfold maxScale; norm_num)
    have hwhole : (Binary64.ofRatio false (d.mantissa / 10 ^ d.scale) 1).Within 96 := by
      refine Binary64.within_ofRatio (by decide) Nat.one_pos ?_
      have := Nat.div_le_self d.mantissa (10 ^ d.scale)
      omega
    have hfraction : (Binary64.ofRatio false (d.mantissa % 10 ^ d.scale) 1 /
        Binary64.ofRatio false (10 ^ d.scale) 1).Within 96 := by
      rw [hpower]
      refine Binary64.within_div (by decide) (Binary64.within_ofRatio (by decide) Nat.one_pos ?_) hone
      have := Nat.mod_lt d.mantissa hpos
      omega
    have hvalue : ∀ x : Binary64, x.Within 192 → (if d.negative then -x else x).Within 192 := by
      intro x hx
      split
      · cases x with
        | finite => exact hx
        | infinite => exact hx
        | notANumber => exact hx
      · exact hx
    refine hvalue _ ?_
    split
    · exact hwhole.mono (by decide)
    · rw [hpower]
      have hsum := Binary64.within_add (by decide) hwhole hfraction
      rw [hpower] at hsum
      have hround := Binary64.within_round (Binary64.within_mul (by decide) hsum hscale)
      exact (Binary64.within_div (by decide) hround hone).mono (by decide)

end RowQuery.ScaledDecimal
