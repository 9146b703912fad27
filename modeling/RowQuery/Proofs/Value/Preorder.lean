/-
# Where the order of values is a preorder

Swapping two values swaps how they compare, whatever they are. But the order is not
transitive on all of them, even without not-a-number. A value that has a number
compares by it with those that have one and by its text with those that have none,
and the two ways need not agree: `"1a"` is between the texts of `10` and `9`. And two
integers compare exactly, but with a floating-point number as what they are rounded
to: one such number may be equal to integers that differ.

There is no third way to leave the preorder. It holds on every set of values in which
no floating-point number *straddles* two integers and no text is *between* two values
whose numbers are ordered otherwise than their texts, and on no other set.

Key definitions: `Value.PreorderOn`, `Value.Straddles`, `Value.Between`.
Key theorems: `Number.isLE_trans_or`, `Value.not_straddles_of_natAbs_le`,
`Value.preorderOn_iff`, `Value.compare_cycle`.
-/
import RowQuery.Proofs.Index.Key
import RowQuery.Proofs.Number.Whole
import RowQuery.Proofs.Value.Order
import Mathlib.Data.Set.Basic

namespace RowQuery

attribute [local irreducible] Binary64.one Binary64.limit

/-! ### Numbers -/

namespace Number

/-- Where a number is on the line, rounded to a floating-point number. -/
def place (n : Number) : Int := n.toBinary64.rank.getD 0

variable {m n k : Number}

theorem rank_toBinary64 (h : n.isNaN = false) : n.toBinary64.rank = some n.place := by
  unfold place
  cases hrank : n.toBinary64.rank with
  | none => exact absurd (Binary64.rank_eq_none_iff.1 hrank) (toBinary64_ne_notANumber h)
  | some a => rfl

theorem compare_toBinary64 (hm : m.isNaN = false) (hn : n.isNaN = false) :
    (m.toBinary64.compare n.toBinary64).getD .eq = Ord.compare m.place n.place := by
  unfold Binary64.compare
  rw [rank_toBinary64 hm, rank_toBinary64 hn]
  rfl

/-- Two numbers that are not both integers compare as their places. -/
theorem compare_float_left {x : Binary64} (hx : (float x).isNaN = false) (hn : n.isNaN = false) :
    (float x).compare n = Ord.compare (float x).place n.place := by
  rw [← compare_toBinary64 hx hn]
  cases n <;> rfl

theorem compare_float_right {x : Binary64} (hm : m.isNaN = false) (hx : (float x).isNaN = false) :
    m.compare (float x) = Ord.compare m.place (float x).place := by
  rw [← compare_toBinary64 hm hx]
  cases m <;> rfl

theorem place_integer (a : Int64) : (integer a).place = nearestInt a.toInt * Binary64.one := by
  unfold place
  rw [show (integer a).toBinary64 = .ofInt a.toInt from rfl,
    Binary64.rank_ofInt (natAbs_toInt_le a)]
  rfl

/-- **Rounding keeps the order of numbers**, though not a strict one. -/
theorem place_le_of_isLE (hm : m.isNaN = false) (hn : n.isNaN = false)
    (h : (m.compare n).isLE) : m.place ≤ n.place := by
  cases m with
  | integer a =>
    cases n with
    | integer b =>
      rw [place_integer, place_integer]
      exact Int.mul_le_mul_of_nonneg_right (nearestInt_mono (Std.isLE_compare.1 h))
        (Int.natCast_nonneg _)
    | float y =>
      rw [compare_float_right hm hn] at h
      exact Std.isLE_compare.1 h
  | float x =>
    rw [compare_float_left hm hn] at h
    exact Std.isLE_compare.1 h

/-- The order of numbers is transitive, but where a floating-point number between two integers is
equal to both. -/
theorem isLE_trans_or (hm : m.isNaN = false) (hn : n.isNaN = false) (hk : k.isNaN = false)
    (hmn : (m.compare n).isLE) (hnk : (n.compare k).isLE) :
    (m.compare k).isLE ∨ ∃ (a b : Int64) (x : Binary64), m = integer a ∧ n = float x ∧
      k = integer b ∧ a ≠ b ∧ m.compare n = .eq ∧ n.compare k = .eq := by
  have hplace : m.place ≤ k.place := (place_le_of_isLE hm hn hmn).trans (place_le_of_isLE hn hk hnk)
  cases m with
  | float x =>
    rw [compare_float_left hm hk]
    exact .inl (Std.isLE_compare.2 hplace)
  | integer a =>
    cases k with
    | float y =>
      rw [compare_float_right hm hk]
      exact .inl (Std.isLE_compare.2 hplace)
    | integer b =>
      rcases le_or_gt a.toInt b.toInt with hle | hlt
      · exact .inl (Std.isLE_compare.2 hle)
      · cases n with
        | integer c => exact .inl (Std.TransOrd.isLE_trans hmn hnk)
        | float x =>
          -- the places turn back, so they are all one
          have hback : (integer b).place ≤ (integer a).place :=
            place_le_of_isLE hk hm (Std.isLE_compare.2 hlt.le)
          have hax := place_le_of_isLE hm hn hmn
          have hxb := place_le_of_isLE hn hk hnk
          refine .inr ⟨a, b, x, rfl, rfl, rfl, ?_, ?_, ?_⟩
          · rintro rfl
            exact lt_irrefl _ hlt
          · rw [compare_float_right hm hn]
            exact Std.compare_eq_iff_eq.2 (by omega)
          · rw [compare_float_left hn hk]
            exact Std.compare_eq_iff_eq.2 (by omega)

end Number

/-! ### Values -/

namespace Value

instance : Std.OrientedCmp Value.compare := ⟨fun {a b} => (compare_swap b a).symm⟩

section

variable {a b : Value}

theorem compare_of_numbers {m n : Number} (ha : a.toNumber? = some m) (hb : b.toNumber? = some n) :
    a.compare b = m.compare n := by
  unfold Value.compare
  rw [ha, hb]

theorem compare_of_none_left (ha : a.toNumber? = none) :
    a.compare b = Ord.compare a.text b.text := by
  unfold Value.compare
  rw [ha]

theorem compare_of_none_right (hb : b.toNumber? = none) :
    a.compare b = Ord.compare a.text b.text := by
  unfold Value.compare
  rw [hb]
  cases a.toNumber? <;> rfl

end

/-- The order is a total preorder of the values of a set. -/
structure PreorderOn (S : Set Value) : Prop where
  swap : ∀ a ∈ S, ∀ b ∈ S, b.compare a = (a.compare b).swap
  trans : ∀ a ∈ S, ∀ b ∈ S, ∀ c ∈ S,
    (a.compare b).isLE → (b.compare c).isLE → (a.compare c).isLE

/-- The value in the middle is a floating-point number that is equal to the two others, which are
different integers. -/
def Straddles (a b c : Value) : Prop :=
  ∃ (m n : Int64) (x : Binary64), a.toNumber? = some (.integer m) ∧
    b.toNumber? = some (.float x) ∧ c.toNumber? = some (.integer n) ∧
      m ≠ n ∧ a.compare b = .eq ∧ b.compare c = .eq

/-- The numbers of two values are ordered otherwise than their texts, and the text of a value that
has no number is between the two. -/
structure Between (p q t : Value) : Prop where
  left : p.toNumber?.isSome
  right : q.toNumber?.isSome
  wordless : t.toNumber? = none
  le : (p.compare q).isLE
  otherwise : p.compare q ≠ Ord.compare p.text q.text
  lower : (Ord.compare q.text t.text).isLE
  upper : (Ord.compare t.text p.text).isLE

/-- Integers of at most 53 bits are not straddled. -/
theorem not_straddles_of_natAbs_le {a b c : Value}
    (ha : ∀ m, a.toNumber? = some (.integer m) → m.toInt.natAbs ≤ 2 ^ 53)
    (hc : ∀ n, c.toNumber? = some (.integer n) → n.toInt.natAbs ≤ 2 ^ 53)
    (hb : b.isNaN = false) : ¬ Straddles a b c := by
  rintro ⟨m, n, x, hm, hx, hn, hne, hab, hbc⟩
  have hx' : (Number.float x).isNaN = false := toNumber?_isNaN hb hx
  rw [compare_of_numbers hm hx, Number.compare_float_right rfl hx'] at hab
  rw [compare_of_numbers hx hn, Number.compare_float_left hx' rfl] at hbc
  have hplace : (Number.integer m).place = (Number.integer n).place :=
    (Std.compare_eq_iff_eq.1 hab).trans (Std.compare_eq_iff_eq.1 hbc)
  rw [Number.place_integer, Number.place_integer, nearestInt_of_natAbs_le (ha m hm),
    nearestInt_of_natAbs_le (hc n hn)] at hplace
  have hone : (Binary64.one : Int) ≠ 0 := by exact_mod_cast Binary64.one_pos.ne'
  exact hne (Int64.toInt_inj.1 (Int.eq_of_mul_eq_mul_right hone hplace))

section

variable {S : Set Value} {a b c p q t : Value}

/-! ### Preorders have no cycles -/

theorem PreorderOn.not_straddles (h : PreorderOn S) (ha : a ∈ S) (hb : b ∈ S) (hc : c ∈ S) :
    ¬ Straddles a b c := by
  rintro ⟨m, n, x, hm, hx, hn, hne, hab, hbc⟩
  have hba : b.compare a = .eq := Std.OrientedCmp.eq_symm hab
  have hcb : c.compare b = .eq := Std.OrientedCmp.eq_symm hbc
  have hac : (a.compare c).isLE :=
    h.trans a ha b hb c hc (Ordering.isLE_of_eq_eq hab) (Ordering.isLE_of_eq_eq hbc)
  have hca : (c.compare a).isLE :=
    h.trans c hc b hb a ha (Ordering.isLE_of_eq_eq hcb) (Ordering.isLE_of_eq_eq hba)
  rw [compare_of_numbers hm hn] at hac
  rw [compare_of_numbers hn hm] at hca
  have hle : m.toInt ≤ n.toInt := Std.isLE_compare.1 hac
  have hge : n.toInt ≤ m.toInt := Std.isLE_compare.1 hca
  exact hne (Int64.toInt_inj.1 (le_antisymm hle hge))

theorem PreorderOn.not_between (h : PreorderOn S) (hp : p ∈ S) (hq : q ∈ S) (ht : t ∈ S) :
    ¬ Between p q t := by
  intro hb
  have hpq := hb.le
  have hqt : (q.compare t).isLE := by rw [compare_of_none_right hb.wordless]; exact hb.lower
  have htp : (t.compare p).isLE := by rw [compare_of_none_left hb.wordless]; exact hb.upper
  -- around the cycle every step can be taken back
  have hqp : (q.compare p).isLE := h.trans q hq t ht p hp hqt htp
  have hpt : (p.compare t).isLE := h.trans p hp q hq t ht hpq hqt
  have htq : (t.compare q).isLE := h.trans t ht p hp q hq htp hpq
  rw [compare_of_none_right hb.wordless] at hpt
  rw [compare_of_none_left hb.wordless] at htq
  have hnumbers : p.compare q = .eq := Std.OrientedCmp.isLE_antisymm hpq hqp
  have htexts : Ord.compare p.text q.text = .eq :=
    Std.OrientedCmp.isLE_antisymm (Std.TransCmp.isLE_trans hpt htq)
      (Std.TransCmp.isLE_trans hb.lower hb.upper)
  exact hb.otherwise (hnumbers.trans htexts.symm)

/-! ### Where there are no cycles there is a preorder -/

/-- Values that do not turn back at a text are ordered as their texts are. -/
theorem compare_eq_text (h : ¬ Between p q t) (hp : p.toNumber?.isSome) (hq : q.toNumber?.isSome)
    (ht : t.toNumber? = none) (hpq : (p.compare q).isLE) (hqt : (Ord.compare q.text t.text).isLE)
    (htp : (Ord.compare t.text p.text).isLE) : p.compare q = Ord.compare p.text q.text := by
  by_contra hne
  exact h ⟨hp, hq, ht, hpq, hne, hqt, htp⟩

/-- **Three values of which none straddles or is between the others** are in order. -/
theorem isLE_trans (hna : a.isNaN = false) (hnb : b.isNaN = false) (hnc : c.isNaN = false)
    (hstraddles : ¬ Straddles a b c) (hnab : ¬ Between a b c) (hnbc : ¬ Between b c a)
    (hnca : ¬ Between c a b) (hab : (a.compare b).isLE) (hbc : (b.compare c).isLE) :
    (a.compare c).isLE := by
  cases ha : a.toNumber? with
  | some m =>
    cases hb : b.toNumber? with
    | some n =>
      cases hc : c.toNumber? with
      | some k =>
        rw [compare_of_numbers ha hb] at hab
        rw [compare_of_numbers hb hc] at hbc
        rw [compare_of_numbers ha hc]
        rcases Number.isLE_trans_or (toNumber?_isNaN hna ha) (toNumber?_isNaN hnb hb)
          (toNumber?_isNaN hnc hc) hab hbc with hac | ⟨i, j, x, rfl, rfl, rfl, hne, hi, hj⟩
        · exact hac
        · rw [← compare_of_numbers ha hb] at hi
          rw [← compare_of_numbers hb hc] at hj
          exact absurd ⟨i, j, x, ha, hb, hc, hne, hi, hj⟩ hstraddles
      | none =>
        rw [compare_of_none_right hc] at hbc ⊢
        by_contra hac
        have hca := Ordering.isLE_of_eq_lt (Std.OrientedCmp.lt_of_not_isLE hac)
        have htext : a.compare b = Ord.compare a.text b.text :=
          compare_eq_text hnab (by rw [ha]; rfl) (by rw [hb]; rfl) hc hab hbc hca
        rw [htext] at hab
        exact hac (Std.TransCmp.isLE_trans hab hbc)
    | none =>
      rw [compare_of_none_right hb] at hab
      rw [compare_of_none_left hb] at hbc
      have hac : (Ord.compare a.text c.text).isLE := Std.TransCmp.isLE_trans hab hbc
      cases hc : c.toNumber? with
      | some k =>
        by_contra hne
        have hca := Ordering.isLE_of_eq_lt (Std.OrientedCmp.lt_of_not_isLE hne)
        have htext : c.compare a = Ord.compare c.text a.text :=
          compare_eq_text hnca (by rw [hc]; rfl) (by rw [ha]; rfl) hb hca hab hbc
        rw [← compare_swap c a, htext, ← Std.OrientedOrd.eq_swap] at hne
        exact hne hac
      | none => rwa [compare_of_none_right hc]
  | none =>
    rw [compare_of_none_left ha] at hab ⊢
    cases hb : b.toNumber? with
    | some n =>
      cases hc : c.toNumber? with
      | some k =>
        by_contra hac
        have hca := Ordering.isLE_of_eq_lt (Std.OrientedCmp.lt_of_not_isLE hac)
        have htext : b.compare c = Ord.compare b.text c.text :=
          compare_eq_text hnbc (by rw [hb]; rfl) (by rw [hc]; rfl) ha hbc hca hab
        rw [htext] at hbc
        exact hac (Std.TransCmp.isLE_trans hab hbc)
      | none =>
        rw [compare_of_none_right hc] at hbc
        exact Std.TransCmp.isLE_trans hab hbc
    | none =>
      rw [compare_of_none_left hb] at hbc
      exact Std.TransCmp.isLE_trans hab hbc

theorem PreorderOn.of_no_cycle (hS : ∀ v ∈ S, v.isNaN = false)
    (h : ∀ a ∈ S, ∀ b ∈ S, ∀ c ∈ S, ¬ Straddles a b c ∧ ¬ Between a b c) : PreorderOn S where
  swap a _ b _ := (compare_swap a b).symm
  trans a ha b hb c hc := isLE_trans (hS a ha) (hS b hb) (hS c hc) (h a ha b hb c hc).1
    (h a ha b hb c hc).2 (h b hb c hc a ha).2 (h c hc a ha b hb).2

/-- Numbers are in order, if there are no integers of more than 53 bits among them. -/
theorem PreorderOn.of_numbers (hnan : ∀ v ∈ S, v.isNaN = false) (hS : ∀ v ∈ S, v.toNumber?.isSome)
    (hexact : ∀ v ∈ S, ∀ m, v.toNumber? = some (.integer m) → m.toInt.natAbs ≤ 2 ^ 53) :
    PreorderOn S := by
  refine .of_no_cycle hnan fun a ha b hb c hc => ⟨?_, fun h => ?_⟩
  · exact not_straddles_of_natAbs_le (hexact a ha) (hexact c hc) (hnan b hb)
  · have hc := hS c hc
    rw [h.wordless] at hc
    cases hc

theorem PreorderOn.of_integers
    (h : ∀ v ∈ S, ∃ n : Int64, v = .integer n ∧ n.toInt.natAbs ≤ 2 ^ 53) : PreorderOn S := by
  refine .of_numbers (fun v hv => ?_) (fun v hv => ?_) fun v hv m hm => ?_
  · obtain ⟨n, rfl, -⟩ := h v hv
    rfl
  · obtain ⟨n, rfl, -⟩ := h v hv
    rfl
  · obtain ⟨n, rfl, hn⟩ := h v hv
    cases hm
    exact hn

theorem same_iff : a.same b ↔ (a.compare b).isLE ∧ (b.compare a).isLE := by
  unfold same
  rw [← compare_swap a b]
  cases a.compare b <;> decide

theorem PreorderOn.same_trans (h : PreorderOn S) (ha : a ∈ S) (hb : b ∈ S) (hc : c ∈ S)
    (hab : a.same b) (hbc : b.same c) : a.same c := by
  have hab := same_iff.1 hab
  have hbc := same_iff.1 hbc
  exact same_iff.2 ⟨h.trans a ha b hb c hc hab.1 hbc.1, h.trans c hc b hb a ha hbc.2 hab.2⟩

end

/-- **Where the order of values is a total preorder.** Swapping two values swaps how they compare,
so that any two are in order one way or the other. On a set of values without not-a-number the order
is transitive just if no number of it straddles two integers of it, and no text of it is between two
of its values whose numbers and texts disagree. Of two integers that a number straddles one is beyond
`2 ^ 53` in magnitude. Where the order is transitive, equality is an equivalence, and is the order
both ways. -/
theorem preorderOn_iff {S : Set Value} (hS : ∀ v ∈ S, v.isNaN = false) :
    (∀ a b : Value, b.compare a = (a.compare b).swap) ∧
    (PreorderOn S ↔ ∀ a ∈ S, ∀ b ∈ S, ∀ c ∈ S, ¬ Straddles a b c ∧ ¬ Between a b c) ∧
    (∀ a b c : Value, b.isNaN = false → Straddles a b c →
      ∃ v ∈ [a, c], ∃ n, v.toNumber? = some (.integer n) ∧ 2 ^ 53 < n.toInt.natAbs) ∧
    (∀ a : Value, a.same a) ∧
    (∀ a b : Value, a.same b ↔ (a.compare b).isLE ∧ (b.compare a).isLE) ∧
    (PreorderOn S → ∀ a ∈ S, ∀ b ∈ S, ∀ c ∈ S, a.same b → b.same c → a.same c) := by
  refine ⟨fun a b => (compare_swap a b).symm, ⟨?_, PreorderOn.of_no_cycle hS⟩, ?_, ?_,
    fun a b => same_iff, ?_⟩
  · exact fun h a ha b hb c hc => ⟨h.not_straddles ha hb hc, h.not_between ha hb hc⟩
  · intro a b c hb hstraddles
    by_contra hnone
    have hsmall : ∀ v ∈ [a, c], ∀ n, v.toNumber? = some (.integer n) → n.toInt.natAbs ≤ 2 ^ 53 :=
      fun v hv n hn => not_lt.1 fun hlt => hnone ⟨v, hv, n, hn, hlt⟩
    exact not_straddles_of_natAbs_le (hsmall a (by simp)) (hsmall c (by simp)) hb hstraddles
  · intro a
    have hself : a.compare a = .eq := Std.ReflCmp.compare_self
    exact same_iff.2 ⟨Ordering.isLE_of_eq_eq hself, Ordering.isLE_of_eq_eq hself⟩
  · exact fun h a ha b hb c hc => h.same_trans ha hb hc

/-- The values that have no number are ordered, by their texts. -/
theorem preorderOn_texts :
    (∀ v ∈ {v : Value | v.toNumber? = none}, v.isNaN = false) ∧
      PreorderOn {v : Value | v.toNumber? = none} := by
  have hnan : ∀ v ∈ {v : Value | v.toNumber? = none}, v.isNaN = false := by
    intro v hv
    cases v with
    | number n => cases hv
    | _ => rfl
  refine ⟨hnan, (preorderOn_iff hnan).2.1.2 fun a ha b _ c _ => ⟨?_, fun h => ?_⟩⟩
  · rintro ⟨m, _, _, hm, -⟩
    exact nomatch (show a.toNumber? = none from ha).symm.trans hm
  · have hleft := h.left
    rw [show a.toNumber? = none from ha] at hleft
    cases hleft

/-- `10`, `"1a"` and `9` go up by their texts, and `10` is greater than `9`. The floating-point
number `2 ^ 53` is equal to two integers. -/
theorem compare_cycle :
    ((Value.integer 10).compare (.string "1a") = .lt ∧
      (Value.string "1a").compare (.integer 9) = .lt ∧
      (Value.integer 10).compare (.integer 9) = .gt) ∧
    ((Value.integer (2 ^ 53 + 1)).compare (.float (.ofInt (2 ^ 53))) = .eq ∧
      (Value.float (.ofInt (2 ^ 53))).compare (.integer (2 ^ 53)) = .eq ∧
      (Value.integer (2 ^ 53 + 1)).compare (.integer (2 ^ 53)) = .gt) ∧
    ¬ PreorderOn {v | v.isNaN = false} := by
  have hup : (Value.integer 10).compare (.string "1a") = .lt := by decide +kernel
  have hon : (Value.string "1a").compare (.integer 9) = .lt := by decide +kernel
  have hback : (Value.integer 10).compare (.integer 9) = .gt := by decide +kernel
  refine ⟨⟨hup, hon, hback⟩, by decide +kernel, fun h => ?_⟩
  have hle := h.trans (.integer 10) rfl (.string "1a") rfl (.integer 9) rfl
    (Ordering.isLE_of_eq_lt hup) (Ordering.isLE_of_eq_lt hon)
  rw [hback] at hle
  cases hle

end Value

end RowQuery
