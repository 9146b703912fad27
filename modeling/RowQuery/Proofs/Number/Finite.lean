/-
# Results of arithmetic are finite

Whatever the operands, the result of an operation is an integer or a finite
floating-point number, and a mean is never not-a-number. What else an
expression may have for a value it has found in a cell.

Key definitions: `Number.isFinite`, `Number.isNaN`.
Key theorems: `Number.add?_isFinite`, `Number.sub?_isFinite`,
`Number.mul?_isFinite`, `Number.div?_isFinite`, `Number.round?_isNaN`,
`Number.abs?_isNaN`, `Number.sum?_isFinite`, `Number.mean?_isNaN`.
-/
import RowQuery.Evaluation.Aggregate
import RowQuery.Proofs.Number.Decimal

namespace RowQuery

attribute [local irreducible] Binary64.one Binary64.limit

namespace Number

/-- An integer or a finite floating-point number. -/
def isFinite : Number → Bool
  | .integer _ => true
  | .float x => x.isFinite

def isNaN : Number → Bool
  | .float .notANumber => true
  | _ => false

theorem isNaN_of_isFinite {n : Number} (h : n.isFinite = true) : n.isNaN = false := by
  rcases n with _ | (_ | _ | _)
  · rfl
  · rfl
  · cases h
  · cases h

/-! ### Operations -/

theorem ofDecimal_isFinite {d : ScaledDecimal} (h : d.Fits) : (ofDecimal d).isFinite = true := by
  unfold ofDecimal
  split
  · rfl
  · exact (ScaledDecimal.within_toBinary64 h).isFinite

theorem ofFinite?_isFinite {x : Binary64} {r : Number} (h : ofFinite? x = some r) :
    r.isFinite = true := by
  unfold ofFinite? at h
  split at h
  · rename_i hx
    cases h; exact hx
  · cases h

section Decimal

variable {decimal : ScaledDecimal → ScaledDecimal → Option ScaledDecimal}
  {binary : Binary64 → Binary64 → Binary64}
  (hdecimal : ∀ x y d, x.Fits → decimal x y = some d → d.Fits)

include hdecimal

theorem viaDecimal?_isFinite {x y : Binary64} {r : Number}
    (h : viaDecimal? decimal binary x y = some r) : r.isFinite = true := by
  unfold viaDecimal? at h
  dsimp only at h
  split at h
  · rename_i d hd
    cases h
    obtain ⟨a, ha, hd⟩ := Option.bind_eq_some_iff.1 hd
    obtain ⟨b, -, hd⟩ := Option.bind_eq_some_iff.1 hd
    exact ofDecimal_isFinite (hdecimal a b d (ScaledDecimal.ofBinary64?_fits ha) hd)
  · exact ofFinite?_isFinite h

theorem exactOr?_isFinite {exact : Int → Int → Int} {a b r : Number}
    (h : exactOr? exact decimal binary a b = some r) : r.isFinite = true := by
  unfold exactOr? at h
  dsimp only at h
  split at h
  · split at h
    · cases h; rfl
    · exact viaDecimal?_isFinite hdecimal h
  · exact viaDecimal?_isFinite hdecimal h

end Decimal

theorem add?_isFinite {a b r : Number} (h : a.add? b = some r) : r.isFinite = true :=
  exactOr?_isFinite (fun _ _ _ _ h => ScaledDecimal.add?_fits h) h

theorem sub?_isFinite {a b r : Number} (h : a.sub? b = some r) : r.isFinite = true :=
  exactOr?_isFinite (fun _ _ _ _ h => ScaledDecimal.sub?_fits h) h

theorem mul?_isFinite {a b r : Number} (h : a.mul? b = some r) : r.isFinite = true :=
  exactOr?_isFinite (fun _ _ _ _ h => ScaledDecimal.mul?_fits h) h

theorem within_ofInt64 (n : Int64) : (Binary64.ofInt n.toInt).Within 63 := by
  refine Binary64.within_ofInt (by decide) ?_
  have h1 := n.le_toInt
  have h2 := n.toInt_lt
  omega

theorem div?_isFinite {a b r : Number} (h : a.div? b = some r) : r.isFinite = true := by
  unfold div? at h
  split at h
  · rename_i m n
    split at h
    · cases h
    · rename_i hn
      dsimp only at h
      split at h
      · cases h; rfl
      · cases h
        show (Binary64.ofInt m.toInt / Binary64.ofInt n.toInt).isFinite = true
        have hwithin := within_ofInt64 n
        cases heq : Binary64.ofInt n.toInt with
        | finite s u hu =>
          have hne : n.toInt.natAbs ≠ 0 := by
            intro h0
            exact hn (Int64.toInt_inj.1 (Int.natAbs_eq_zero.1 h0))
          have hone := Binary64.one_le_of_ofRatio hne heq
          exact (Binary64.within_div (by decide) (within_ofInt64 m) hone).isFinite
        | infinite => rw [heq] at hwithin; exact hwithin.elim
        | notANumber => rw [heq] at hwithin; exact hwithin.elim
  · dsimp only at h
    split at h
    · cases h
    · exact viaDecimal?_isFinite (fun _ _ _ hx h => ScaledDecimal.div?_fits hx h) h

theorem round?_isNaN {n r : Number} {digits : Nat} (h : n.round? digits = some r) :
    r.isNaN = false := by
  cases n with
  | integer => cases h; rfl
  | float x =>
    obtain ⟨d, hd, h⟩ := Option.map_eq_some_iff.1 h
    dsimp only at h
    subst h
    refine isNaN_of_isFinite ?_
    split
    · rfl
    · exact (ScaledDecimal.within_toBinary64
        (ScaledDecimal.round_fits (ScaledDecimal.ofBinary64?_fits hd) digits)).isFinite

/-- The magnitude is not-a-number only if the number is. -/
theorem abs?_isNaN {n r : Number} (h : n.abs? = some r) (hr : r.isNaN = true) : r = n := by
  cases n with
  | integer n =>
    unfold abs? at h
    obtain ⟨m, -, rfl⟩ := Option.map_eq_some_iff.1 h
    cases hr
  | float x =>
    obtain rfl := Option.some.inj h
    cases x with
    | finite => cases hr
    | infinite => cases hr
    | notANumber => rfl

/-! ### Aggregates -/

theorem foldlM_add?_isFinite : ∀ (numbers : List Number) (total r : Number), total.isFinite = true →
    numbers.foldlM (fun total n => total.add? n) total = some r → r.isFinite = true
  | [], _, _, htotal, h => by cases h; exact htotal
  | n :: rest, total, r, _, h => by
    rw [List.foldlM_cons] at h
    obtain ⟨next, hnext, h⟩ := Option.bind_eq_some_iff.1 h
    exact foldlM_add?_isFinite rest next r (add?_isFinite hnext) h

theorem sum?_isFinite {numbers : List Number} {r : Number} (h : sum? numbers = some r) :
    r.isFinite = true :=
  foldlM_add?_isFinite numbers (.integer 0) r rfl h

theorem toBinary64_isFinite {n : Number} (h : n.isFinite = true) : n.toBinary64.isFinite = true := by
  cases n with
  | integer n => exact (within_ofInt64 n).isFinite
  | float => exact h

theorem ofUnits_ne_notANumber (negative : Bool) (units : Nat) :
    Binary64.ofUnits negative units ≠ .notANumber := by
  unfold Binary64.ofUnits
  split
  · exact Binary64.noConfusion
  · exact Binary64.noConfusion

/-- A finite number has a quotient by every natural but zero. -/
theorem div_ofInt_ne_notANumber {x : Binary64} (hx : x.isFinite = true) {n : Nat} (hn : n ≠ 0) :
    x / Binary64.ofInt n ≠ .notANumber := by
  cases x with
  | infinite => cases hx
  | notANumber => cases hx
  | finite t m hm =>
    cases heq : Binary64.ofInt n with
    | infinite => exact Binary64.noConfusion
    | notANumber => exact (ofUnits_ne_notANumber _ _ heq).elim
    | finite s u hu =>
      have hone := Binary64.one_le_of_ofRatio (by rwa [Int.natAbs_natCast]) heq
      have hu0 : u ≠ 0 := (Binary64.one_pos.trans_le hone).ne'
      show (if _ then _ else _ : Binary64) ≠ .notANumber
      rw [if_neg hu0]
      exact ofUnits_ne_notANumber _ _

theorem isNaN_float {x : Binary64} (h : x ≠ .notANumber) : (Number.float x).isNaN = false := by
  cases x with
  | finite => rfl
  | infinite => rfl
  | notANumber => exact absurd rfl h

theorem mean?_isNaN {numbers : List Number} {r : Number} (h : mean? numbers = some r) :
    r.isNaN = false := by
  unfold mean? at h
  split at h
  · cases h
  · rename_i hne
    cases h
    have hlength : numbers.length ≠ 0 := by simpa using hne
    refine isNaN_float (div_ofInt_ne_notANumber ?_ hlength)
    split
    · rename_i hsum
      exact toBinary64_isFinite (sum?_isFinite hsum)
    · rfl

theorem foldl_mem {pick : Number → Number → Number} (hpick : ∀ m n, pick m n = m ∨ pick m n = n) :
    ∀ (rest : List Number) (n : Number), rest.foldl pick n ∈ n :: rest
  | [], _ => List.mem_singleton_self _
  | m :: rest, n => by
    rcases List.mem_cons.1 (foldl_mem hpick rest (pick n m)) with h | h
    · rw [List.foldl_cons, h]
      rcases hpick n m with h | h <;> simp [h]
    · exact List.mem_cons_of_mem _ (List.mem_cons_of_mem _ h)

theorem least_eq_or (m n : Number) : least m n = m ∨ least m n = n := by
  unfold least
  split
  · exact .inr rfl
  · exact .inl rfl

theorem greatest_eq_or (m n : Number) : greatest m n = m ∨ greatest m n = n := by
  unfold greatest
  split
  · exact .inl rfl
  · exact .inr rfl

theorem least?_mem {numbers : List Number} {r : Number} (h : least? numbers = some r) :
    r ∈ numbers := by
  cases numbers with
  | nil => cases h
  | cons n rest =>
    cases h
    exact foldl_mem least_eq_or rest n

theorem greatest?_mem {numbers : List Number} {r : Number} (h : greatest? numbers = some r) :
    r ∈ numbers := by
  cases numbers with
  | nil => cases h
  | cons n rest =>
    cases h
    exact foldl_mem greatest_eq_or rest n

end Number

end RowQuery
