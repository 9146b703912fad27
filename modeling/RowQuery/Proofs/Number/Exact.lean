/-
# Integer results of arithmetic

An operation on two integers of 64 bits has the exact result, wherever this is an
integer of 64 bits. Where it is not, a sum, a difference or a product is found once
more in decimal, from the floating-point numbers nearest to the operands. These are
whole, but need not be the operands: rounding may have brought them so far together
that their sum is an integer of 64 bits after all. The result is then this integer,
and not the exact one.

Key definitions: `BinaryOp.exactResult?`, `BinaryOp.ReturnsRounded`, `Number.IsExact`.
Key theorems: `Number.exactOr?_eq_integer_iff`, `Number.div?_eq_integer_iff`,
`BinaryOp.apply_eq_integer_iff`, `integer_result_exact_iff`, `sum_of_rounded_returns`.
-/
import RowQuery.Evaluation.Operator
import RowQuery.Proofs.Number.Numeral
import RowQuery.Proofs.Number.Whole

namespace RowQuery

/-! ### Decimals of integers -/

namespace ScaledDecimal

/-- What an operation on integers makes in decimal: an integer, or nothing if it is beyond the
format. -/
inductive WholeResult (n : Int) : Option ScaledDecimal → Prop
  | some {d : ScaledDecimal} (whole : d.Whole n) : WholeResult n (some d)
  | none (beyond : limit ≤ n.natAbs) : WholeResult n none

theorem fit?_whole {negative : Bool} {m : Nat} {n : Int}
    (h : (⟨negative, m, 0⟩ : ScaledDecimal).signed = n) : WholeResult n (fit? negative m 0) := by
  have hwhole : (⟨negative, m, 0⟩ : ScaledDecimal).Whole n := ⟨rfl, h⟩
  have hround : Binary64.roundHalfEven m (10 ^ 0) = m := by
    simpa using Binary64.roundHalfEven_mul (n := m) Nat.one_pos
  unfold fit?
  simp only [Nat.zero_add, List.range_one, List.findSome?_cons, List.findSome?_nil, hround,
    Nat.sub_self, Nat.zero_le, true_and]
  by_cases hlt : m < limit
  · rw [if_pos hlt]
    exact .some hwhole
  · rw [if_neg hlt]
    have hm : m = n.natAbs := hwhole.mantissa
    exact .none (hm ▸ Nat.le_of_not_lt hlt)

variable {x y : ScaledDecimal} {m n : Int}

theorem add?_whole (hx : x.Whole m) (hy : y.Whole n) : WholeResult (m + n) (x.add? y) := by
  have hsigned : (⟨decide (m + n < 0), (m + n).natAbs, 0⟩ : ScaledDecimal).signed = m + n :=
    Number.signed_natAbs (m + n)
  unfold add?
  rw [hx.scale, hy.scale, hx.signed, hy.signed]
  simp only [Nat.max_self, Nat.sub_self, Int.pow_zero, Int.mul_one]
  exact fit?_whole hsigned

theorem Whole.neg (h : x.Whole n) : x.neg.Whole (-n) := by
  refine ⟨h.scale, ?_⟩
  rw [← h.signed]
  unfold ScaledDecimal.neg ScaledDecimal.signed
  cases x.negative <;> simp

theorem sub?_whole (hx : x.Whole m) (hy : y.Whole n) : WholeResult (m - n) (x.sub? y) :=
  add?_whole hx hy.neg

theorem mul?_whole (hx : x.Whole m) (hy : y.Whole n) : WholeResult (m * n) (x.mul? y) := by
  unfold mul?
  by_cases hzero : x.mantissa = 0 ∨ y.mantissa = 0
  · rw [if_pos hzero]
    rw [hx.mantissa, hy.mantissa, Int.natAbs_eq_zero, Int.natAbs_eq_zero] at hzero
    have hproduct : m * n = 0 := by
      rcases hzero with rfl | rfl <;> simp
    exact .some ⟨rfl, hproduct.symm⟩
  · rw [if_neg hzero, hx.scale, hy.scale]
    refine fit?_whole ?_
    rw [← hx.signed, ← hy.signed]
    unfold ScaledDecimal.signed
    cases x.negative <;> cases y.negative <;> simp

end ScaledDecimal

/-! ### Operations on integers -/

namespace Number

/-- The decimal of an integer is the integer, if it has 64 bits. -/
theorem ofDecimal_whole {d : ScaledDecimal} {n : Int} (h : d.Whole n) :
    ofDecimal d = ((int64OfInt? n).map integer).getD (.float d.toBinary64) := by
  have hinteger : d.isInteger = true := by
    unfold ScaledDecimal.isInteger
    rw [h.scale, Nat.pow_zero, Nat.mod_one]
    rfl
  have hword : d.toInt64? = int64OfInt? n := by
    unfold ScaledDecimal.toInt64?
    rw [h.scale, Nat.pow_zero, Nat.div_one, ← h.signed]
    rfl
  unfold ofDecimal
  rw [if_pos hinteger, hword]
  cases int64OfInt? n <;> rfl

/-- An operation on decimals that does on integers what an operation on integers does. -/
def IsExact (exact : Int → Int → Int)
    (decimal : ScaledDecimal → ScaledDecimal → Option ScaledDecimal) : Prop :=
  ∀ ⦃x y : ScaledDecimal⦄ ⦃m n : Int⦄, x.Whole m → y.Whole n →
    ScaledDecimal.WholeResult (exact m n) (decimal x y)

section Detour

variable {exact : Int → Int → Int}
  {decimal : ScaledDecimal → ScaledDecimal → Option ScaledDecimal}
  {binary : Binary64 → Binary64 → Binary64}

theorem viaDecimal?_of_decimals {x y : Binary64} {u v : ScaledDecimal}
    (hx : ScaledDecimal.ofBinary64? x = some u) (hy : ScaledDecimal.ofBinary64? y = some v) :
    viaDecimal? decimal binary x y = match decimal u v with
      | some d => some (ofDecimal d)
      | none => ofFinite? (binary x y) := by
  unfold viaDecimal?
  rw [hx, hy]
  rfl

theorem ofFinite?_ne_integer (x : Binary64) (r : Int64) : ofFinite? x ≠ some (.integer r) := by
  unfold ofFinite?
  split
  · exact fun h => nomatch Option.some.inj h
  · exact fun h => nomatch h

variable (hexact : IsExact exact decimal)

include hexact

/-- By way of floating-point numbers an operation has the result, if it is one of 64 bits, that it
has on the whole numbers that its operands are rounded to. -/
theorem viaDecimal?_eq_integer_iff (a b r : Int64) :
    viaDecimal? decimal binary (.ofInt a.toInt) (.ofInt b.toInt) = some (.integer r) ↔
      exact (nearestInt a.toInt) (nearestInt b.toInt) = r.toInt := by
  obtain ⟨x, hx, hxwhole⟩ := ScaledDecimal.ofBinary64?_ofInt (natAbs_toInt_le a)
  obtain ⟨y, hy, hywhole⟩ := ScaledDecimal.ofBinary64?_ofInt (natAbs_toInt_le b)
  have hresult := hexact hxwhole hywhole
  rw [viaDecimal?_of_decimals hx hy]
  generalize exact (nearestInt a.toInt) (nearestInt b.toInt) = n at hresult ⊢
  generalize decimal x y = result at hresult ⊢
  cases hresult with
  | some hwhole =>
    dsimp only
    rw [ofDecimal_whole hwhole, ← int64OfInt?_eq_some_iff]
    cases int64OfInt? n <;> simp
  | none hbeyond =>
    have hlimit : 2 ^ 63 < ScaledDecimal.limit := by decide
    have hr := natAbs_toInt_le r
    constructor
    · exact fun h => absurd h (ofFinite?_ne_integer _ r)
    · rintro rfl
      omega

/-- **An operation on integers is exact, or it is exact on rounded operands**, the first wherever
its result has 64 bits. -/
theorem exactOr?_eq_integer_iff (a b r : Int64) :
    exactOr? exact decimal binary (.integer a) (.integer b) = some (.integer r) ↔
      exact a.toInt b.toInt = r.toInt ∨ (∀ r' : Int64, exact a.toInt b.toInt ≠ r'.toInt) ∧
        exact (nearestInt a.toInt) (nearestInt b.toInt) = r.toInt := by
  unfold exactOr?
  dsimp only
  cases hword : int64OfInt? (exact a.toInt b.toInt) with
  | some n =>
    have hn := int64OfInt?_eq_some_iff.1 hword
    simp only [Option.some.injEq, integer.injEq, hn, Int64.toInt_inj]
    constructor
    · exact Or.inl
    · rintro (h | ⟨hnone, -⟩)
      · exact h
      · exact absurd rfl (hnone n)
  | none =>
    have hnone : ∀ r' : Int64, exact a.toInt b.toInt ≠ r'.toInt := fun r' h => by
      rw [int64OfInt?_eq_some_iff.2 h] at hword
      cases hword
    dsimp only
    rw [show (integer a).toBinary64 = .ofInt a.toInt from rfl,
      show (integer b).toBinary64 = .ofInt b.toInt from rfl, viaDecimal?_eq_integer_iff hexact]
    constructor
    · exact fun h => .inr ⟨hnone, h⟩
    · rintro (h | ⟨-, h⟩)
      · exact absurd h (hnone r)
      · exact h

end Detour

/-- **A quotient of integers is exact.** -/
theorem div?_eq_integer_iff (a b r : Int64) :
    div? (.integer a) (.integer b) = some (.integer r) ↔
      (b.toInt ≠ 0 ∧ b.toInt ∣ a.toInt) ∧ a.toInt / b.toInt = r.toInt := by
  have hzero : b = 0 ↔ b.toInt = 0 := by rw [← Int64.toInt_inj, Int64.toInt_zero]
  unfold div?
  dsimp only
  by_cases hb : b = 0
  · rw [if_pos hb]
    simp [hzero.1 hb]
  · rw [if_neg hb]
    have hne : b.toInt ≠ 0 := fun h => hb (hzero.2 h)
    by_cases hdvd : b.toInt ∣ a.toInt
    · rw [if_pos hdvd, ← int64OfInt?_eq_some_iff]
      cases int64OfInt? (a.toInt / b.toInt) <;> simp [hne, hdvd]
    · simp [hdvd]

end Number

/-! ### Operators -/

namespace BinaryOp

/-- The exact result of an arithmetic operator on two integers, where it is an integer. -/
def exactResult? : BinaryOp → Int → Int → Option Int
  | .add, a, b => some (a + b)
  | .subtract, a, b => some (a - b)
  | .multiply, a, b => some (a * b)
  | .divide, a, b => if b ≠ 0 ∧ b ∣ a then some (a / b) else none
  | _, _, _ => none

/-- The exact result does not have 64 bits, but the one on rounded operands does. Quotients are not
found a second time. -/
def ReturnsRounded (op : BinaryOp) (a b : Int64) : Prop :=
  op ≠ .divide ∧ (∀ r : Int64, op.exactResult? a.toInt b.toInt ≠ some r.toInt) ∧
    ∃ r : Int64, op.exactResult? (nearestInt a.toInt) (nearestInt b.toInt) = some r.toInt

variable {op : BinaryOp} {a b r : Int64}

theorem ofNumber?_eq_integer_iff {n : Option Number} :
    Value.ofNumber? n = .integer r ↔ n = some (.integer r) := by
  cases n <;> simp [Value.ofNumber?]

/-- Integer results of the four operators: the exact one, or that on rounded operands. -/
theorem apply_eq_integer_iff (hop : op ∈ [BinaryOp.add, .subtract, .multiply, .divide]) :
    op.apply (.integer a) (.integer b) = .integer r ↔
      op.exactResult? a.toInt b.toInt = some r.toInt ∨ op.ReturnsRounded a b ∧
        op.exactResult? (nearestInt a.toInt) (nearestInt b.toInt) = some r.toInt := by
  have hdetour : ∀ {exact : Int → Int → Int}, op ≠ .divide →
      (∀ m n, op.exactResult? m n = some (exact m n)) →
      ((exact a.toInt b.toInt = r.toInt ∨ (∀ r' : Int64, exact a.toInt b.toInt ≠ r'.toInt) ∧
        exact (nearestInt a.toInt) (nearestInt b.toInt) = r.toInt) ↔
      (op.exactResult? a.toInt b.toInt = some r.toInt ∨ op.ReturnsRounded a b ∧
        op.exactResult? (nearestInt a.toInt) (nearestInt b.toInt) = some r.toInt)) := by
    intro exact hne heq
    unfold ReturnsRounded
    simp only [heq, ne_eq, Option.some.injEq, hne, not_false_eq_true, true_and]
    constructor
    · rintro (h | ⟨hnone, h⟩)
      · exact .inl h
      · exact .inr ⟨⟨hnone, r, h⟩, h⟩
    · rintro (h | ⟨⟨hnone, -⟩, h⟩)
      · exact .inl h
      · exact .inr ⟨hnone, h⟩
  simp only [List.mem_cons, List.not_mem_nil, or_false] at hop
  rcases hop with rfl | rfl | rfl | rfl
  · exact (ofNumber?_eq_integer_iff.trans (Number.exactOr?_eq_integer_iff
      (fun _ _ _ _ => ScaledDecimal.add?_whole) a b r)).trans (hdetour (by decide) fun _ _ => rfl)
  · exact (ofNumber?_eq_integer_iff.trans (Number.exactOr?_eq_integer_iff
      (fun _ _ _ _ => ScaledDecimal.sub?_whole) a b r)).trans (hdetour (by decide) fun _ _ => rfl)
  · exact (ofNumber?_eq_integer_iff.trans (Number.exactOr?_eq_integer_iff
      (fun _ _ _ _ => ScaledDecimal.mul?_whole) a b r)).trans (hdetour (by decide) fun _ _ => rfl)
  · refine (ofNumber?_eq_integer_iff.trans (Number.div?_eq_integer_iff a b r)).trans ?_
    have hexact : BinaryOp.divide.exactResult? a.toInt b.toInt = some r.toInt ↔
        (b.toInt ≠ 0 ∧ b.toInt ∣ a.toInt) ∧ a.toInt / b.toInt = r.toInt := by
      unfold exactResult?
      split <;> simp_all
    rw [hexact]
    simp [ReturnsRounded]

end BinaryOp

/-- **Where the integer results of arithmetic are exact.** The exact result is always given, if it
is an integer of 64 bits. The four operators have an integer result only if it is the exact one, for
all operands but those on which it does not have 64 bits and the result on rounded operands does;
there the operator gives that. Quotients are never rounded, nor are operands of at most 53 bits. -/
theorem integer_result_exact_iff {op : BinaryOp}
    (hop : op ∈ [BinaryOp.add, .subtract, .multiply, .divide]) (a b : Int64) :
    (∀ r : Int64, op.exactResult? a.toInt b.toInt = some r.toInt →
      op.apply (.integer a) (.integer b) = .integer r) ∧
    ((∀ r : Int64, op.apply (.integer a) (.integer b) = .integer r ↔
        op.exactResult? a.toInt b.toInt = some r.toInt) ↔
      ¬ op.ReturnsRounded a b) ∧
    (op.ReturnsRounded a b → ∀ r : Int64, op.apply (.integer a) (.integer b) = .integer r ↔
      op.exactResult? (nearestInt a.toInt) (nearestInt b.toInt) = some r.toInt) ∧
    (op = .divide ∨ a.toInt.natAbs ≤ 2 ^ 53 ∧ b.toInt.natAbs ≤ 2 ^ 53 →
      ¬ op.ReturnsRounded a b) := by
  refine ⟨fun r h => (BinaryOp.apply_eq_integer_iff hop).2 (.inl h), ⟨?_, ?_⟩, ?_, ?_⟩
  · rintro hexact ⟨hne, hnone, r, hr⟩
    have happly := (BinaryOp.apply_eq_integer_iff hop).2 (.inr ⟨⟨hne, hnone, r, hr⟩, hr⟩)
    exact hnone r ((hexact r).1 happly)
  · intro hreturns r
    rw [BinaryOp.apply_eq_integer_iff hop]
    constructor
    · rintro (h | ⟨h, -⟩)
      · exact h
      · exact absurd h hreturns
    · exact .inl
  · intro hreturns r
    rw [BinaryOp.apply_eq_integer_iff hop]
    constructor
    · rintro (h | ⟨-, h⟩)
      · exact absurd h (hreturns.2.1 r)
      · exact h
    · exact fun h => .inr ⟨hreturns, h⟩
  · rintro (rfl | ⟨ha, hb⟩) ⟨hne, hnone, r, hr⟩
    · exact hne rfl
    · rw [nearestInt_of_natAbs_le ha, nearestInt_of_natAbs_le hb] at hr
      exact hnone r hr

/-- The sum of the greatest integer and one is no integer of 64 bits, and none is given. -/
theorem integer_result_exact_iff_greatest :
    BinaryOp.add ∈ [BinaryOp.add, .subtract, .multiply, .divide] ∧
      ∀ r : Int64, BinaryOp.add.apply (.integer (2 ^ 63 - 1)) (.integer 1) ≠ .integer r := by
  have hop : BinaryOp.add ∈ [BinaryOp.add, .subtract, .multiply, .divide] := by decide
  have hexact : BinaryOp.add.exactResult? (2 ^ 63 - 1 : Int64).toInt (1 : Int64).toInt =
      some (2 ^ 63) := by
    decide +kernel
  have hrounded : BinaryOp.add.exactResult? (nearestInt (2 ^ 63 - 1 : Int64).toInt)
      (nearestInt (1 : Int64).toInt) = some (2 ^ 63 + 1) := by
    decide +kernel
  have hreturns : ¬ BinaryOp.add.ReturnsRounded (2 ^ 63 - 1) 1 := by
    rintro ⟨-, -, r, hr⟩
    rw [hrounded] at hr
    have hlt := r.toInt_lt
    have heq := Option.some.inj hr
    omega
  refine ⟨hop, fun r h => ?_⟩
  have heq := ((integer_result_exact_iff hop (2 ^ 63 - 1) 1).2.1.2 hreturns r).1 h
  rw [hexact] at heq
  have hlt := r.toInt_lt
  have heq := Option.some.inj heq
  omega

/-- `(2 ^ 62 + 511) + (2 ^ 62 - 257)` is `2 ^ 63 + 254`. Rounded to 53 bits the operands are
`2 ^ 62` and `2 ^ 62 - 512`, whose sum is an integer of 64 bits. -/
theorem sum_of_rounded_returns :
    let a : Int64 := 2 ^ 62 + 511
    let b : Int64 := 2 ^ 62 - 257
    (BinaryOp.add.exactResult? a.toInt b.toInt = some (2 ^ 63 + 254) ∧
      BinaryOp.add.apply (.integer a) (.integer b) = .integer (2 ^ 63 - 512)) ∧
    ¬ ∀ op ∈ [BinaryOp.add, .subtract, .multiply, .divide], ∀ a b r : Int64,
      op.apply (.integer a) (.integer b) = .integer r ↔
        op.exactResult? a.toInt b.toInt = some r.toInt := by
  intro a b
  have hop : BinaryOp.add ∈ [BinaryOp.add, .subtract, .multiply, .divide] := by decide
  have hexact : BinaryOp.add.exactResult? a.toInt b.toInt = some (2 ^ 63 + 254) := by decide +kernel
  have hrounded : BinaryOp.add.exactResult? (nearestInt a.toInt) (nearestInt b.toInt) =
      some (2 ^ 63 - 512 : Int64).toInt := by
    decide +kernel
  have hnone : ∀ r : Int64, BinaryOp.add.exactResult? a.toInt b.toInt ≠ some r.toInt := by
    intro r h
    rw [hexact] at h
    have hlt := r.toInt_lt
    have heq := Option.some.inj h
    omega
  have happly : BinaryOp.add.apply (.integer a) (.integer b) = .integer (2 ^ 63 - 512) :=
    (BinaryOp.apply_eq_integer_iff hop).2 (.inr ⟨⟨by decide, hnone, _, hrounded⟩, hrounded⟩)
  exact ⟨⟨hexact, happly⟩, fun h => hnone _ ((h .add hop a b _).1 happly)⟩

end RowQuery
