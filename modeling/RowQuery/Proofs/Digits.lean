/-
# Digits of ROUND

Numbers of digits from 28 on make ROUND give the same, and more digits never make it coarser, for
as long as the number of digits is below `2 ^ 32`. It counts modulo this number only, so to ask
for `2 ^ 32` digits is to ask for none.

Key theorems: `Function.call_round`, `round_digits_agree`, `round_digits_wrap`.
-/
import RowQuery.Evaluation.Function
import RowQuery.Proofs.Number.Digits

namespace RowQuery

attribute [local irreducible] Binary64.one Binary64.limit

variable {v w : Value} {c d : Int64}

namespace Function

theorem onNumber_eq_iff {f g : Number → Option Number} {x : Value} :
    onNumber f x = onNumber g x ↔ x.toNumber?.bind f = x.toNumber?.bind g := by
  unfold onNumber
  cases x.toNumber?.bind f with
  | none => cases x.toNumber?.bind g <;> simp
  | some m => cases x.toNumber?.bind g <;> simp

theorem onNumber_eq_of_some {f : Number → Option Number} {x : Value} {r k : Number}
    (hx : x.toNumber? = some r) (h : f r = some k) : onNumber f x = .number k := by
  unfold onNumber
  rw [hx, Option.bind_some, h]

theorem call_round (x : Value) (hv : v.toNumber? = some (.integer c)) (hc : 0 ≤ c.toInt) :
    call "ROUND" [x, v] = onNumber (·.round? (c.toInt.toNat % digitsModulus)) x := by
  have hdigits : digits? v = some (c.toInt.toNat % digitsModulus) := by
    unfold digits?
    rw [hv]
    exact if_pos hc
  show apply .round [x, v] = _
  unfold apply
  dsimp only
  rw [hdigits]

end Function

/-- **The digits of ROUND.** Let two numbers of digits be integers from zero on. They round all
values to the same just if they are the same modulo `2 ^ 32`, where all from 28 on count as one.
A floating-point number is rounded as the decimal that stands for it, and the second number of
digits never takes a decimal farther away than the first just if it is not less, counted so. -/
theorem round_digits_agree (hv : v.toNumber? = some (.integer c)) (hc : 0 ≤ c.toInt)
    (hw : w.toNumber? = some (.integer d)) (hd : 0 ≤ d.toInt) :
    let m := c.toInt.toNat % 2 ^ 32
    let n := d.toInt.toNat % 2 ^ 32
    ((∀ x, Function.call "ROUND" [x, v] = Function.call "ROUND" [x, w]) ↔ min m 28 = min n 28) ∧
      (∀ x f z, x.toNumber? = some (.float f) → ScaledDecimal.ofBinary64? f = some z →
        Function.call "ROUND" [x, v] = .number (.ofRounded m (z.round m))) ∧
      ((∀ f z, ScaledDecimal.ofBinary64? f = some z → z.error n ≤ z.error m) ↔
        min m 28 ≤ min n 28) := by
  intro m n
  have hcall : ∀ x, Function.call "ROUND" [x, v] = Function.onNumber (·.round? m) x :=
    fun x => Function.call_round x hv hc
  have hcall' : ∀ x, Function.call "ROUND" [x, w] = Function.onNumber (·.round? n) x :=
    fun x => Function.call_round x hw hd
  refine ⟨⟨fun h => ?_, fun h x => ?_⟩, fun x f z hx hz => ?_, fun h => ?_, fun h f z hz => ?_⟩
  · -- the lesser number of digits would lose one that the greater keeps
    have hround : ∀ f, (Number.float f).round? m = (Number.float f).round? n := fun f => by
      have hf := h (.float f)
      rw [hcall, hcall'] at hf
      exact Function.onNumber_eq_iff.1 hf
    by_contra hne
    rcases Nat.lt_or_gt_of_ne hne with hlt | hgt
    · obtain ⟨f, _, -, -, hlost⟩ := Number.exists_lost_digit hlt
      exact hlost (hround f)
    · obtain ⟨f, _, -, -, hlost⟩ := Number.exists_lost_digit hgt
      exact hlost (hround f).symm
  · have hround : ∀ r : Number, r.round? m = r.round? n := fun r => by
      rw [← Number.round?_min r m, ← Number.round?_min r n]
      exact congrArg r.round? h
    rw [hcall, hcall', Function.onNumber_eq_iff]
    simp only [hround]
  · rw [hcall]
    exact Function.onNumber_eq_of_some hx (by rw [Number.round?_float, hz, Option.map_some])
  · by_contra hlt
    obtain ⟨f, z, hz, hfarther, -⟩ := Number.exists_lost_digit (Nat.lt_of_not_le hlt)
    exact hfarther.not_ge (h f z hz)
  · have hfits := ScaledDecimal.ofBinary64?_fits hz
    have herror : ∀ k, z.error (min k 28) = z.error k := fun k => by
      unfold ScaledDecimal.error
      rw [← ScaledDecimal.round_min hfits k]
      rfl
    rw [← herror m, ← herror n]
    exact ScaledDecimal.error_le_error z h

/-- A number and the text of another one, both of them from 28 on. -/
theorem round_digits_agree_text :
    (Value.integer 28).toNumber? = some (.integer 28) ∧
      (Value.string "100").toNumber? = some (.integer 100) ∧
      ∀ x, Function.call "ROUND" [x, .integer 28] = Function.call "ROUND" [x, .string "100"] := by
  have hnumber : (Value.integer 28).toNumber? = some (.integer 28) := rfl
  have htext : (Value.string "100").toNumber? = some (.integer 100) := by decide +kernel
  obtain ⟨hsame, -, -⟩ := round_digits_agree hnumber (by decide) htext (by decide)
  exact ⟨hnumber, htext, hsame.2 (by decide)⟩

/-- With 28 digits 2.5 is as it was, and with `2 ^ 32` it is rounded to an integer. -/
theorem round_digits_wrap :
    let x : Value := .float (.ofDecimal false 25 (-1))
    Function.call "ROUND" [x, .integer 28] = x ∧
      Function.call "ROUND" [x, .integer (2 ^ 32)] = .integer 3 := by
  intro x
  have hkept : (Number.float (.ofDecimal false 25 (-1))).round? 28 =
      some (.float (.ofDecimal false 25 (-1))) := by decide +kernel
  have hlost : (Number.float (.ofDecimal false 25 (-1))).round? 0 = some (.integer 3) := by
    decide +kernel
  constructor
  · rw [Function.call_round (c := 28) x rfl (by decide)]
    exact Function.onNumber_eq_of_some rfl hkept
  · rw [Function.call_round (c := 2 ^ 32) x rfl (by decide +kernel)]
    exact Function.onNumber_eq_of_some rfl hlost

end RowQuery
