/-
# Sums and means

A sum goes through the numbers and keeps a running total. The total of integers is an
integer while it has 64 bits, and a floating-point number beyond. There it may lose
digits, and which ones it loses depends on the order: once it has come back to 64 bits,
nothing tells that it is not the total any more.

An addition loses nothing where the total keeps to 64 bits, and where it makes no
difference that the operands are rounded to 53 bits. The running total is the number
nearest to the exact total all the way just if every addition is of this kind. There are
lists of integers of which every order is such a run.

Beyond the finite numbers there is no total at all, and no sum from there on. The mean
takes zero for it.

Key definitions: `Number.ofInt`, `AddsUp`, `Unrounded`, `Settled`, `Number.LeavesRange`.
Key theorems: `Number.add?_ofInt`, `Number.unrounded_iff`, `Settled.unrounded`,
`Number.add?_eq_none_iff`, `Number.sum?_eq_none_iff`, `Number.mean?_of_sum?`.
-/
import RowQuery.Proofs.Number.Exact
import RowQuery.Proofs.Number.Finite
import Mathlib.Algebra.BigOperators.Group.List.Basic
import Mathlib.Data.List.Induction

namespace RowQuery

attribute [local irreducible] Binary64.one Binary64.limit

/-! ### Integers as numbers -/

/-- The integer has 64 bits. -/
def IsWord (n : Int) : Prop := -2 ^ 63 ≤ n ∧ n < 2 ^ 63

/-- The integer is a floating-point number. -/
def IsBinary (n : Int) : Prop := Binary64.Representable (n.natAbs * Binary64.one)

instance (n : Int) : Decidable (IsWord n) := inferInstanceAs (Decidable (_ ∧ _))

instance (n : Int) : Decidable (IsBinary n) := inferInstanceAs (Decidable (Binary64.Representable _))

theorem int64OfInt?_of_isWord {n : Int} (h : IsWord n) :
    int64OfInt? n = some (Int64.ofInt n) := if_pos h

theorem int64OfInt?_of_not_isWord {n : Int} (h : ¬ IsWord n) : int64OfInt? n = none := if_neg h

theorem exists_toInt_of_isWord {n : Int} (h : IsWord n) : ∃ w : Int64, w.toInt = n :=
  ⟨_, (int64OfInt?_eq_some_iff.1 (int64OfInt?_of_isWord h)).symm⟩

theorem not_isWord_of_limit_le {n : Int} (h : ScaledDecimal.limit ≤ n.natAbs) : ¬ IsWord n := by
  rintro ⟨hlow, hhigh⟩
  unfold ScaledDecimal.limit at h
  omega

namespace Number

/-- The number nearest to an integer: itself, if it has 64 bits. -/
def ofInt (n : Int) : Number := ((int64OfInt? n).map integer).getD (.float (.ofInt n))

theorem ofInt_toInt (n : Int64) : ofInt n.toInt = .integer n := by
  unfold ofInt
  rw [Numeral.int64OfInt?_toInt]
  rfl

theorem ofInt_of_not_isWord {n : Int} (h : ¬ IsWord n) : ofInt n = .float (.ofInt n) := by
  unfold ofInt
  rw [int64OfInt?_of_not_isWord h]
  rfl

theorem ofInt_toBinary64 (n : Int) : (ofInt n).toBinary64 = .ofInt n := by
  by_cases h : IsWord n
  · obtain ⟨w, rfl⟩ := exists_toInt_of_isWord h
    rw [ofInt_toInt]
    rfl
  · rw [ofInt_of_not_isWord h]
    rfl

theorem ofInt_isFinite_of_isWord {n : Int} (h : IsWord n) : (ofInt n).isFinite = true := by
  obtain ⟨w, rfl⟩ := exists_toInt_of_isWord h
  rw [ofInt_toInt]
  rfl

end Number

namespace Binary64

theorem ofInt_eq_ofUnits (n : Int) : ofInt n = ofUnits (n < 0) (nearest n.natAbs 1 * one) := by
  unfold ofInt ofRatio roundUnits
  rw [nearest_mul_one]

theorem natAbs_nearestInt (n : Int) : (nearestInt n).natAbs = nearest n.natAbs 1 :=
  natAbs_signed _ _

/-- What an integer is rounded to is a floating-point number, unless it is too large. -/
theorem isBinary_nearestInt {n : Int} (h : (ofInt n).isFinite = true) : IsBinary (nearestInt n) := by
  rw [ofInt_eq_ofUnits] at h
  unfold IsBinary
  rw [natAbs_nearestInt]
  unfold ofUnits at h
  split at h
  · assumption
  · cases h

theorem nearestInt_of_isBinary {n : Int} (h : IsBinary n) : nearestInt n = n := by
  have hnearest : nearest n.natAbs 1 * one = n.natAbs * one := by
    rw [← nearest_mul_one, nearest_of_representable h]
  unfold nearestInt
  rw [Nat.eq_of_mul_eq_mul_right one_pos hnearest]
  exact Number.signed_natAbs n

theorem nearestInt_lt_zero_iff (n : Int) : nearestInt n < 0 ↔ n < 0 := by
  unfold nearestInt signed
  by_cases h : n < 0
  · have hpos : 2 ^ 0 ≤ nearest n.natAbs 1 := two_pow_le_nearest Nat.one_pos (by omega)
    simp only [h, decide_true, if_true, iff_true]
    omega
  · simp only [h, decide_false, Bool.false_eq_true, if_false, iff_false]
    omega

/-- An integer and what it is rounded to have one floating-point number. -/
theorem ofInt_nearestInt {n : Int} (h : (ofInt n).isFinite = true) :
    ofInt (nearestInt n) = ofInt n := by
  have hbinary := isBinary_nearestInt h
  rw [ofInt_eq_ofUnits, ofInt_eq_ofUnits, ← natAbs_nearestInt, ← natAbs_nearestInt,
    nearestInt_of_isBinary hbinary]
  simp only [nearestInt_lt_zero_iff]

theorem signed_mul_one (n : Int) : signed (n < 0) (n.natAbs * one) = n * one := by
  conv_rhs => rw [← Number.signed_natAbs n]
  unfold signed
  split <;> simp

/-- Whole numbers are added as integers, and rounded once. -/
theorem ofInt_add {m n : Int} (hm : IsBinary m) (hn : IsBinary n) (hne : m + n ≠ 0) :
    ofInt m + ofInt n = ofInt (m + n) := by
  have hunits : signed (m < 0) (m.natAbs * one) + signed (n < 0) (n.natAbs * one) =
      (m + n) * one := by
    rw [signed_mul_one, signed_mul_one, Int.add_mul]
  have hone := one_pos
  have hzero : (m + n) * (one : Int) ≠ 0 := Int.mul_ne_zero hne (by omega)
  have hsign : decide ((m + n) * (one : Int) < 0) = decide (m + n < 0) := by
    rw [decide_eq_decide]
    have hpos : (0 : Int) < one := by omega
    exact ⟨fun h => neg_of_mul_neg_left h hpos.le, fun h => Int.mul_neg_of_neg_of_pos h hpos⟩
  rw [ofInt_of_representable hm, ofInt_of_representable hn]
  show (if _ then _ else _ : Binary64) = _
  rw [hunits, if_neg hzero, hsign, Int.natAbs_mul, Int.natAbs_natCast]
  rfl

theorem ofBinary64?_ofInt {n : Int} (h : IsBinary n) :
    ScaledDecimal.ofBinary64? (ofInt n) =
      if n.natAbs < ScaledDecimal.limit then some ⟨n < 0, n.natAbs, 0⟩ else none := by
  rw [ofInt_of_representable h]
  exact ScaledDecimal.ofBinary64?_whole rfl

end Binary64

/-! ### Additions that lose nothing -/

/-- Adding an integer to a total gives the number nearest to the exact total: both totals have 64
bits, or it makes no difference to the number of the result that the operands are rounded. -/
def AddsUp (total n : Int) : Prop :=
  (IsWord total ∧ IsWord (total + n)) ∨
    (Number.ofInt (nearestInt total + nearestInt n) = Number.ofInt (total + n) ∧
      (Number.ofInt (total + n)).isFinite = true)

instance (total n : Int) : Decidable (AddsUp total n) := inferInstanceAs (Decidable (_ ∨ _))

/-- No addition of a run loses anything. -/
def Unrounded : Int → List Int64 → Prop
  | _, [] => True
  | total, n :: rest => AddsUp total n.toInt ∧ Unrounded (total + n.toInt) rest

instance decidableUnrounded : ∀ (total : Int) (ns : List Int64), Decidable (Unrounded total ns)
  | _, [] => .isTrue trivial
  | total, n :: rest =>
    have := decidableUnrounded (total + n.toInt) rest
    inferInstanceAs (Decidable (_ ∧ _))

theorem AddsUp.isFinite {total n : Int} (h : AddsUp total n) :
    (Number.ofInt (total + n)).isFinite = true :=
  h.elim (fun hwords => Number.ofInt_isFinite_of_isWord hwords.2) fun hnumber => hnumber.2

namespace Number

/-- Where the first operand has no decimal, the operation is done in binary. -/
theorem viaDecimal?_of_none {decimal : ScaledDecimal → ScaledDecimal → Option ScaledDecimal}
    {binary : Binary64 → Binary64 → Binary64} {x y : Binary64}
    (hx : ScaledDecimal.ofBinary64? x = none) :
    viaDecimal? decimal binary x y = ofFinite? (binary x y) := by
  unfold viaDecimal?
  rw [hx]
  rfl

section Step

variable {m n : Int}

/-- In binary the sum of whole numbers is the number of the sum, if this has more than 64 bits. -/
theorem ofFinite?_add (hm : IsBinary m) (hn : IsBinary n) (hword : ¬ IsWord (m + n)) :
    ofFinite? (.ofInt m + .ofInt n) =
      if (ofInt (m + n)).isFinite then some (ofInt (m + n)) else none := by
  have hne : m + n ≠ 0 := fun h => hword (h ▸ ⟨by decide, by decide⟩)
  rw [ofInt_of_not_isWord hword, Binary64.ofInt_add hm hn hne]
  rfl

/-- By way of decimals the sum of whole numbers is the number of the sum, if it is finite. -/
theorem viaDecimal?_add (hm : IsBinary m) (hn : IsBinary n) (hbound : n.natAbs ≤ 2 ^ 63) :
    viaDecimal? ScaledDecimal.add? (· + ·) (.ofInt m) (.ofInt n) =
      if (ofInt (m + n)).isFinite then some (ofInt (m + n)) else none := by
  have hy : ScaledDecimal.ofBinary64? (.ofInt n) = some ⟨n < 0, n.natAbs, 0⟩ := by
    rw [Binary64.ofBinary64?_ofInt hn, if_pos (hbound.trans_lt (by decide))]
  by_cases hlimit : m.natAbs < ScaledDecimal.limit
  · have hx : ScaledDecimal.ofBinary64? (.ofInt m) = some ⟨m < 0, m.natAbs, 0⟩ := by
      rw [Binary64.ofBinary64?_ofInt hm, if_pos hlimit]
    have hresult := ScaledDecimal.add?_whole
      (x := ⟨m < 0, m.natAbs, 0⟩) (y := ⟨n < 0, n.natAbs, 0⟩)
      ⟨rfl, signed_natAbs m⟩ ⟨rfl, signed_natAbs n⟩
    rw [viaDecimal?_of_decimals hx hy]
    have hfits := fun d => ScaledDecimal.add?_fits (d := d)
      (x := ⟨m < 0, m.natAbs, 0⟩) (y := ⟨n < 0, n.natAbs, 0⟩)
    generalize ScaledDecimal.add? _ _ = result at hresult hfits ⊢
    cases hresult with
    | @some d hwhole =>
      have hfinite := ofDecimal_isFinite (hfits d rfl)
      have hnumber : ofDecimal d = ofInt (m + n) := by
        have hbinary : d.toBinary64 = .ofInt (m + n) := by
          unfold ScaledDecimal.toBinary64
          rw [if_pos hwhole.scale, hwhole.signed]
        rw [ofDecimal_whole hwhole, hbinary]
        rfl
      dsimp only
      rw [hnumber] at hfinite ⊢
      rw [if_pos hfinite]
    | none hbeyond => exact ofFinite?_add hm hn (not_isWord_of_limit_le hbeyond)
  · -- such a number has no decimal, and the other one does not bring it back to 64 bits
    have hx : ScaledDecimal.ofBinary64? (.ofInt m) = none := by
      rw [Binary64.ofBinary64?_ofInt hm, if_neg hlimit]
    have hword : ¬ IsWord (m + n) := by
      rintro ⟨hlow, hhigh⟩
      unfold ScaledDecimal.limit at hlimit
      omega
    rw [viaDecimal?_of_none hx, ofFinite?_add hm hn hword]

variable {total : Int} {n : Int64}

/-- **One step of a sum of integers.** It is exact if both totals have 64 bits, and else the number
of the sum of the rounded operands, if it is finite. -/
theorem add?_ofInt (hfinite : (ofInt total).isFinite = true) :
    (ofInt total).add? (.integer n) =
      if IsWord total ∧ IsWord (total + n.toInt) then some (ofInt (total + n.toInt))
      else if (ofInt (nearestInt total + nearestInt n.toInt)).isFinite then
        some (ofInt (nearestInt total + nearestInt n.toInt))
      else none := by
  have hm : (Binary64.ofInt total).isFinite = true :=
    ofInt_toBinary64 total ▸ toBinary64_isFinite hfinite
  have hn : (Binary64.ofInt n.toInt).isFinite = true := (within_ofInt64 n).isFinite
  have hbound : (nearestInt n.toInt).natAbs ≤ 2 ^ 63 := by
    rw [Binary64.natAbs_nearestInt]
    exact Binary64.nearest_le_two_pow Nat.one_pos (by rw [Nat.mul_one]; exact natAbs_toInt_le n)
  have hdetour : viaDecimal? ScaledDecimal.add? (· + ·) (ofInt total).toBinary64 (.ofInt n.toInt) =
      if (ofInt (nearestInt total + nearestInt n.toInt)).isFinite then
        some (ofInt (nearestInt total + nearestInt n.toInt)) else none := by
    rw [ofInt_toBinary64, ← Binary64.ofInt_nearestInt hm, ← Binary64.ofInt_nearestInt hn]
    exact viaDecimal?_add (Binary64.isBinary_nearestInt hm) (Binary64.isBinary_nearestInt hn) hbound
  rw [← hdetour]
  unfold add? exactOr?
  by_cases hword : IsWord total
  · obtain ⟨w, rfl⟩ := exists_toInt_of_isWord hword
    rw [ofInt_toInt]
    dsimp only
    by_cases hsum : IsWord (w.toInt + n.toInt)
    · obtain ⟨r, hr⟩ := exists_toInt_of_isWord hsum
      rw [if_pos ⟨hword, hsum⟩, ← hr, Numeral.int64OfInt?_toInt, ofInt_toInt]
    · rw [if_neg fun h => hsum h.2, int64OfInt?_of_not_isWord hsum]
      rfl
  · rw [if_neg fun h => hword h.1, ofInt_of_not_isWord hword]
    rfl

/-- **An addition loses nothing** just if it goes from the number of a total to that of the next. -/
theorem add?_eq_iff_addsUp (hfinite : (ofInt total).isFinite = true) :
    (ofInt total).add? (.integer n) = some (ofInt (total + n.toInt)) ↔ AddsUp total n.toInt := by
  rw [add?_ofInt hfinite]
  unfold AddsUp
  by_cases hwords : IsWord total ∧ IsWord (total + n.toInt)
  · simp [hwords]
  · rw [if_neg hwords, or_iff_right hwords]
    constructor
    · intro h
      split at h
      · rename_i hrounded
        have heq := Option.some.inj h
        exact ⟨heq, heq ▸ hrounded⟩
      · cases h
    · rintro ⟨heq, hsum⟩
      rw [heq, if_pos hsum]

end Step

/-- The running total of integers is the number nearest to the exact total, after each of them,
just if no addition loses anything. -/
theorem unrounded_iff_foldlM : ∀ (ns : List Int64) (total : Int), (ofInt total).isFinite = true →
    (Unrounded total ns ↔ ∀ front back, ns = front ++ back →
      (front.map integer).foldlM (fun total n => total.add? n) (ofInt total) =
        some (ofInt (total + (front.map Int64.toInt).sum)))
  | [], total, _ => by
    refine ⟨fun _ front back hns => ?_, fun _ => trivial⟩
    obtain ⟨rfl, -⟩ := List.append_eq_nil_iff.1 hns.symm
    simp
  | n :: rest, total, hfinite => by
    have hcons : ∀ front : List Int64, AddsUp total n.toInt →
        (((n :: front).map integer).foldlM (fun total n => total.add? n) (ofInt total) =
          some (ofInt (total + ((n :: front).map Int64.toInt).sum)) ↔
        (front.map integer).foldlM (fun total n => total.add? n) (ofInt (total + n.toInt)) =
          some (ofInt (total + n.toInt + (front.map Int64.toInt).sum))) := fun front hstep => by
      rw [List.map_cons, List.foldlM_cons, (add?_eq_iff_addsUp hfinite).2 hstep, List.map_cons,
        List.sum_cons, Int.add_assoc]
      rfl
    constructor
    · rintro ⟨hstep, hrest⟩ front back hns
      cases front with
      | nil => simp
      | cons k front =>
        obtain ⟨rfl, rfl⟩ := List.cons.inj hns
        exact (hcons front hstep).2
          ((unrounded_iff_foldlM _ _ hstep.isFinite).1 hrest front back rfl)
    · intro h
      have hfirst := h [n] rest rfl
      have hstep : AddsUp total n.toInt := (add?_eq_iff_addsUp hfinite).1 (by simpa using hfirst)
      refine ⟨hstep, (unrounded_iff_foldlM rest _ hstep.isFinite).2 fun front back hrest => ?_⟩
      exact (hcons front hstep).1 (h (n :: front) back (by rw [hrest, List.cons_append]))

/-- **The sum of integers goes right all the way** just if no addition loses anything. -/
theorem unrounded_iff {ns : List Int64} : Unrounded 0 ns ↔ ∀ front back, ns = front ++ back →
    sum? (front.map integer) = some (ofInt (front.map Int64.toInt).sum) := by
  have hzero : (ofInt 0).isFinite = true := ofInt_isFinite_of_isWord ⟨by decide, by decide⟩
  rw [unrounded_iff_foldlM ns 0 hzero]
  simp only [Int.zero_add]
  rfl

/-- The sum of integers is the number nearest to the exact one if no addition loses anything. -/
theorem sum?_of_unrounded {ns : List Int64} (h : Unrounded 0 ns) :
    sum? (ns.map integer) = some (ofInt (ns.map Int64.toInt).sum) :=
  unrounded_iff.1 h ns [] (by simp)

end Number

/-! ### Every order -/

/-- The sum of the integers above zero. -/
def gains (ns : List Int64) : Int := (ns.map fun n => max n.toInt 0).sum

/-- The sum of the integers below zero. -/
def losses (ns : List Int64) : Int := (ns.map fun n => min n.toInt 0).sum

/-- Integers that can be added up in every order: what is above zero and what is below has 64 bits
by itself, or all are multiples of a power of two and 53 bits hold their magnitudes together. -/
inductive Settled (ns : List Int64) : Prop
  | words (low : -2 ^ 63 ≤ losses ns) (high : gains ns < 2 ^ 63)
  | grid (k : Nat) (small : k < 64) (multiples : ∀ n ∈ ns, (2 ^ k : Int) ∣ n.toInt)
      (magnitudes : (ns.map fun n => n.toInt.natAbs).sum ≤ 2 ^ (k + 53))

theorem Settled.perm {ms ns : List Int64} (hperm : ms.Perm ns) (h : Settled ns) : Settled ms := by
  cases h with
  | words low high =>
    refine .words ?_ ?_
    · unfold losses
      rwa [(hperm.map _).sum_eq]
    · unfold gains
      rwa [(hperm.map _).sum_eq]
  | grid k small multiples magnitudes =>
    refine .grid k small (fun n hn => multiples n (hperm.mem_iff.1 hn)) ?_
    rwa [(hperm.map _).sum_eq]

theorem gains_cons (n : Int64) (ns : List Int64) :
    gains (n :: ns) = max n.toInt 0 + gains ns := rfl

theorem losses_cons (n : Int64) (ns : List Int64) :
    losses (n :: ns) = min n.toInt 0 + losses ns := rfl

theorem gains_nonneg : ∀ ns : List Int64, 0 ≤ gains ns
  | [] => le_rfl
  | n :: ns => by
    have hrest := gains_nonneg ns
    rw [gains_cons]
    omega

theorem losses_nonpos : ∀ ns : List Int64, losses ns ≤ 0
  | [] => le_rfl
  | n :: ns => by
    have hrest := losses_nonpos ns
    rw [losses_cons]
    omega

/-- The total stays between what the losses and what the gains would make of it. -/
theorem unrounded_of_words : ∀ (ns : List Int64) (total : Int),
    -2 ^ 63 ≤ total + losses ns → total + gains ns < 2 ^ 63 → Unrounded total ns
  | [], _, _, _ => trivial
  | n :: rest, total, low, high => by
    have hgains := gains_nonneg rest
    have hlosses := losses_nonpos rest
    rw [losses_cons] at low
    rw [gains_cons] at high
    exact ⟨.inl ⟨⟨by omega, by omega⟩, by omega, by omega⟩,
      unrounded_of_words rest _ (by omega) (by omega)⟩

/-- A multiple of a power of two with 53 bits in front of its zeros is a floating-point number. -/
theorem isBinary_of_dvd {n : Int} {k : Nat} (small : k < 64) (hdvd : (2 ^ k : Int) ∣ n)
    (hle : n.natAbs ≤ 2 ^ (k + 53)) : IsBinary n := by
  obtain ⟨b, hb, hlim⟩ := Binary64.exists_one_eq_two_pow
  have hbound : n.natAbs * Binary64.one ≤ 2 ^ (k + 53 + b) := by
    rw [hb, Nat.pow_add _ _ b]
    exact Nat.mul_le_mul_right _ hle
  have hpower : 2 ^ (k + b) ∣ n.natAbs * Binary64.one := by
    rw [hb, Nat.pow_add]
    exact Nat.mul_dvd_mul_right (by simpa [Int.natAbs_pow] using Int.natAbs_dvd_natAbs.2 hdvd) _
  refine Binary64.representable_of_dvd (k := k + b) (hbound.trans_lt (hlim _ (by omega))) ?_ hpower
  rwa [Nat.add_right_comm k b 53]

/-- Nothing is lost where operands and result are floating-point numbers. -/
theorem addsUp_of_isBinary {total n : Int} (htotal : IsBinary total) (hn : IsBinary n)
    (hsum : IsBinary (total + n)) : AddsUp total n := by
  refine .inr ⟨?_, ?_⟩
  · rw [Binary64.nearestInt_of_isBinary htotal, Binary64.nearestInt_of_isBinary hn]
  · by_cases hword : IsWord (total + n)
    · exact Number.ofInt_isFinite_of_isWord hword
    · rw [Number.ofInt_of_not_isWord hword, Binary64.ofInt_of_representable hsum]
      rfl

/-- A total of multiples of a power of two is one, and has no more bits than their magnitudes. -/
theorem unrounded_of_grid {k : Nat} (small : k < 64) : ∀ (ns : List Int64) (total : Int),
    (∀ n ∈ ns, (2 ^ k : Int) ∣ n.toInt) → (2 ^ k : Int) ∣ total →
    total.natAbs + (ns.map fun n => n.toInt.natAbs).sum ≤ 2 ^ (k + 53) → Unrounded total ns
  | [], _, _, _, _ => trivial
  | n :: rest, total, multiples, htotal, magnitudes => by
    obtain ⟨hn, hrest⟩ := List.forall_mem_cons.1 multiples
    rw [List.map_cons, List.sum_cons] at magnitudes
    have hnext : (2 ^ k : Int) ∣ total + n.toInt := Int.dvd_add htotal hn
    refine ⟨addsUp_of_isBinary (isBinary_of_dvd small htotal ?_) (isBinary_of_dvd small hn ?_)
      (isBinary_of_dvd small hnext ?_), unrounded_of_grid small rest _ hrest hnext ?_⟩
    all_goals omega

/-- **Where every order will do**, no addition loses anything in the order that there is. -/
theorem Settled.unrounded {ns : List Int64} (h : Settled ns) : Unrounded 0 ns := by
  cases h with
  | words low high => exact unrounded_of_words ns 0 (by rwa [Int.zero_add]) (by rwa [Int.zero_add])
  | grid k small multiples magnitudes =>
    exact unrounded_of_grid small ns 0 multiples (Int.dvd_zero _) (by simpa using magnitudes)

/-! ### Totals out of range -/

/-- A number that has a decimal has at most 96 bits before the point. -/
theorem ScaledDecimal.within_of_ofBinary64? {x : Binary64} {d : ScaledDecimal}
    (h : ofBinary64? x = some d) : x.Within 96 := by
  cases x with
  | infinite => cases h
  | notANumber => cases h
  | finite negative units hrep =>
    by_contra hwithin
    have hlarge : 2 ^ 96 * Binary64.one < units := Nat.lt_of_not_le hwithin
    have hwhole : 2 ^ 52 * Binary64.one ≤ units :=
      (Nat.mul_le_mul_right _ (by decide)).trans hlarge.le
    obtain ⟨w, hw⟩ := Binary64.one_dvd_of_representable hrep hwhole
    rw [Nat.mul_comm] at hw
    have hlimit : ¬ w < limit := by
      rw [hw] at hlarge
      exact Nat.not_lt_of_le (Nat.lt_of_mul_lt_mul_right hlarge).le
    rw [ofBinary64?_whole hw, if_neg hlimit] at h
    cases h

namespace Number

theorem ofFinite?_eq_none_iff {x : Binary64} : ofFinite? x = none ↔ x.isFinite = false := by
  simp [ofFinite?]

theorem viaDecimal?_add_eq_none_iff (x y : Binary64) :
    viaDecimal? ScaledDecimal.add? (· + ·) x y = none ↔ (x + y).isFinite = false := by
  cases hx : ScaledDecimal.ofBinary64? x with
  | none => rw [viaDecimal?_of_none hx, ofFinite?_eq_none_iff]
  | some u =>
    cases hy : ScaledDecimal.ofBinary64? y with
    | none =>
      unfold viaDecimal?
      rw [hx, hy]
      exact ofFinite?_eq_none_iff
    | some v =>
      have hfinite : (x + y).isFinite = true := (Binary64.within_add (by decide)
        (ScaledDecimal.within_of_ofBinary64? hx) (ScaledDecimal.within_of_ofBinary64? hy)).isFinite
      rw [viaDecimal?_of_decimals hx hy, hfinite]
      cases ScaledDecimal.add? u v with
      | some d => simp
      | none => simp [ofFinite?_eq_none_iff, hfinite]

/-- **A sum of two numbers is out of range** just if it is so in binary. -/
theorem add?_eq_none_iff (a b : Number) :
    a.add? b = none ↔ (a.toBinary64 + b.toBinary64).isFinite = false := by
  unfold add? exactOr?
  dsimp only
  split
  · rename_i m n
    have hfinite : ((integer m).toBinary64 + (integer n).toBinary64).isFinite = true :=
      (Binary64.within_add (by decide) (within_ofInt64 m) (within_ofInt64 n)).isFinite
    split
    · simp [hfinite]
    · exact viaDecimal?_add_eq_none_iff _ _
  · exact viaDecimal?_add_eq_none_iff _ _

/-- Somewhere in a list of numbers the next one brings the total of those before it out of range. -/
def LeavesRange (numbers : List Number) : Prop :=
  ∃ front n back total, numbers = front ++ n :: back ∧ sum? front = some total ∧
    (total.toBinary64 + n.toBinary64).isFinite = false

/-- **Numbers have no sum** just if the total leaves the range on the way. -/
theorem sum?_eq_none_iff {numbers : List Number} : sum? numbers = none ↔ LeavesRange numbers := by
  constructor
  · induction numbers using List.reverseRecOn with
    | nil => nofun
    | append_singleton front n ih =>
      intro h
      unfold sum? at h ih
      rw [List.foldlM_append] at h
      cases hfront : front.foldlM (fun total n => add? total n) (integer 0) with
      | none =>
        obtain ⟨front', m, back, total, rfl, htotal, hrange⟩ := ih hfront
        exact ⟨front', m, back ++ [n], total, by simp, htotal, hrange⟩
      | some total =>
        rw [hfront] at h
        have hnone : total.add? n = none := by simpa using h
        exact ⟨front, n, [], total, rfl, hfront, (add?_eq_none_iff total n).1 hnone⟩
  · rintro ⟨front, n, back, total, rfl, htotal, hrange⟩
    unfold sum? at htotal ⊢
    rw [List.foldlM_append, htotal]
    show (n :: back).foldlM (fun total n => total.add? n) total = none
    rw [List.foldlM_cons, (add?_eq_none_iff total n).2 hrange]
    rfl

end Number

/-! ### Means -/

/-- Zero by a count is zero. -/
theorem Binary64.zero_div_ofInt {n : Nat} (hn : n ≠ 0) :
    zero false / ofInt n = zero false := by
  have hsign : decide ((n : Int) < 0) = false := decide_eq_false (by omega)
  cases heq : ofInt n with
  | notANumber =>
    unfold ofInt ofRatio roundUnits ofUnits at heq
    split at heq <;> cases heq
  | infinite negative =>
    unfold ofInt ofRatio roundUnits ofUnits at heq
    rw [hsign] at heq
    split at heq
    · cases heq
    · cases heq
      rfl
  | finite negative units hrep =>
    have hunits : units ≠ 0 :=
      (one_pos.trans_le (one_le_of_ofRatio (by rwa [Int.natAbs_natCast]) heq)).ne'
    have hpositive : negative = false := by
      unfold ofInt ofRatio roundUnits ofUnits at heq
      rw [hsign] at heq
      split at heq
      · cases heq
        rfl
      · cases heq
    subst hpositive
    show (if _ then _ else _ : Binary64) = _
    rw [if_neg hunits, Nat.zero_mul]
    exact roundUnits_zero false units

namespace Number

variable {numbers : List Number}

/-- The mean of numbers that have a sum is the sum by their count. -/
theorem mean?_of_sum? {total : Number} (hne : numbers ≠ []) (h : sum? numbers = some total) :
    mean? numbers = some (.float (total.toBinary64 / .ofInt numbers.length)) := by
  unfold mean?
  rw [if_neg (by simpa using hne), h]

/-- The mean of numbers that have no sum is zero. -/
theorem mean?_of_sum?_eq_none (h : sum? numbers = none) :
    mean? numbers = some (.float (.zero false)) := by
  have hne : numbers ≠ [] := by
    rintro rfl
    cases h
  unfold mean?
  rw [if_neg (by simpa using hne), h]
  exact congrArg (some ∘ float) (Binary64.zero_div_ofInt (by simpa using hne))

theorem mean?_eq_none_iff : mean? numbers = none ↔ numbers = [] := by
  simp [mean?]

end Number

end RowQuery
