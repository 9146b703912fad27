/-
# Equal values have equal keys

How values compare and what their keys are is found out in two ways: one
compares numbers and falls back on texts, the other makes a text of any value.
They agree wherever there is no not-a-number. The key of a number is the text
of the floating-point number nearest to it, whether it is an integer, large or
small, or none; numbers that compare equal have the same nearest one, but for
the sign of zero, which has no text. A value without a number is equal to no
number that a numeral writes: its text is none.

Key theorems: `Number.floatText_eq_of_compare`, `Value.key_of_toNumber?`,
`Value.key_eq_of_same`.
-/
import RowQuery.Proofs.Number.Numeral
import RowQuery.Proofs.Number.Shortest
import RowQuery.Proofs.Value.Alike

namespace RowQuery

attribute [local irreducible] Binary64.one Binary64.limit

/-! ### Numbers of one place on the line -/

namespace Binary64

/-- Numbers of one place are one number, or both zero. -/
theorem eq_or_zero_of_rank {x y : Binary64} {a : Int} (hx : x.rank = some a)
    (hy : y.rank = some a) : x = y ∨ x.toInt? = some 0 ∧ y.toInt? = some 0 := by
  have hzero : ∀ (s : Bool) (u : Nat) (h : Representable u), u = 0 →
      toInt? (.finite s u h) = some 0 := by
    intro s u h hu
    rw [toInt?_finite (n := 0) (by rw [hu, Nat.zero_mul])]
    cases s <;> rfl
  cases x with
  | notANumber => cases hx
  | finite s u hu =>
    obtain rfl := Option.some.inj hx
    cases y with
    | notANumber => cases hy
    | finite t v hv =>
      obtain ⟨rfl, hst | h0⟩ := signed_inj (Option.some.inj hy)
      · exact .inl (by rw [hst])
      · exact .inr ⟨hzero s v hu h0, hzero t v hv h0⟩
    | infinite t =>
      have hlim := (signed_inj (Option.some.inj hy)).1
      exact absurd hu.1 (by rw [hlim]; exact lt_irrefl _)
  | infinite s =>
    obtain rfl := Option.some.inj hx
    cases y with
    | notANumber => cases hy
    | finite t v hv =>
      have hlim := (signed_inj (Option.some.inj hy)).1
      exact absurd hv.1 (by rw [hlim]; exact lt_irrefl _)
    | infinite t =>
      obtain ⟨-, hst | h0⟩ := signed_inj (Option.some.inj hy)
      · exact .inl (by rw [hst])
      · exact absurd h0 limit_pos.ne'

theorem rank_eq_none_iff {x : Binary64} : x.rank = none ↔ x = .notANumber := by
  cases x <;> simp [rank]

end Binary64

namespace Number

theorem floatText_of_toInt? {x : Binary64} {n : Int} (h : x.toInt? = some n)
    (hn : n.natAbs < 10 ^ 15) : floatText x = Numeral.ofInt n := by
  unfold floatText
  rw [h]
  exact if_pos hn

/-- Numbers of one place have one text. -/
theorem floatText_eq_of_rank {x y : Binary64} {a : Int} (hx : x.rank = some a)
    (hy : y.rank = some a) : floatText x = floatText y := by
  rcases Binary64.eq_or_zero_of_rank hx hy with rfl | ⟨hx, hy⟩
  · rfl
  · rw [floatText_of_toInt? hx (by decide), floatText_of_toInt? hy (by decide)]

theorem toBinary64_ne_notANumber {n : Number} (h : n.isNaN = false) :
    n.toBinary64 ≠ .notANumber := by
  cases n with
  | integer n =>
    intro hn
    have hfinite := toBinary64_isFinite (n := .integer n) rfl
    rw [hn] at hfinite
    cases hfinite
  | float x =>
    rintro rfl
    cases h

/-- **Numbers that compare equal have one text**, that of the nearest floating-point number. -/
theorem floatText_eq_of_compare {m n : Number} (hm : m.isNaN = false) (hn : n.isNaN = false)
    (h : m.compare n = .eq) : floatText m.toBinary64 = floatText n.toBinary64 := by
  have hbinary : (m.toBinary64.compare n.toBinary64).getD .eq = .eq →
      floatText m.toBinary64 = floatText n.toBinary64 := by
    intro h
    unfold Binary64.compare at h
    cases hx : m.toBinary64.rank with
    | none => exact absurd (Binary64.rank_eq_none_iff.1 hx) (toBinary64_ne_notANumber hm)
    | some a =>
      cases hy : n.toBinary64.rank with
      | none => exact absurd (Binary64.rank_eq_none_iff.1 hy) (toBinary64_ne_notANumber hn)
      | some b =>
        rw [hx, hy] at h
        obtain rfl : a = b := Std.compare_eq_iff_eq.1 h
        exact floatText_eq_of_rank hx hy
  cases m with
  | integer a =>
    cases n with
    | integer b =>
      obtain rfl := Int64.toInt_inj.1 (Std.compare_eq_iff_eq.1 h)
      rfl
    | float y => exact hbinary h
  | float x => cases n <;> exact hbinary h

end Number

/-- Text between brackets starts with the opening one. -/
theorem Json.wrap_eq_cons (style : Json.Style) (opening closing : Char) (items : List (List Char))
    (level : Nat) : ∃ rest, Json.wrap style opening closing items level = opening :: rest := by
  unfold Json.wrap
  split
  · exact ⟨_, rfl⟩
  · split
    · exact ⟨_, rfl⟩
    · exact ⟨_, rfl⟩

namespace Value

/-! ### Keys of numbers -/

/-- **The key of a value that has a number** is the text of the nearest floating-point number. -/
theorem key_of_toNumber? {v : Value} {n : Number} (h : v.toNumber? = some n) :
    v.key = String.ofList (Number.floatText n.toBinary64) := by
  unfold key
  rw [h]
  cases n with
  | float x => rfl
  | integer n =>
    dsimp only
    split
    · rfl
    · rename_i hsmall
      exact congrArg String.ofList (Number.floatText_ofInt (Nat.le_of_not_lt hsmall)).symm

theorem key_of_toNumber?_none {v : Value} (h : v.toNumber? = none) : v.key = v.text := by
  unfold key
  rw [h]

theorem toNumber?_isNaN {v : Value} {n : Number} (hv : v.isNaN = false)
    (h : v.toNumber? = some n) : n.isNaN = false := by
  cases hn : n.isNaN with
  | false => rfl
  | true =>
    obtain rfl := eq_number_of_isNaN h hn
    exact hn.symm.trans hv

/-! ### Texts of values that have no number -/

/-- The text of a value that has no number writes none: it is a string that does not, or its text
is empty or starts with a letter or a bracket. -/
theorem numberOfString?_text {v : Value} (h : v.toNumber? = none) :
    numberOfString? v.text = none := by
  cases v with
  | null => exact numberOfString?_empty
  | boolean b =>
    cases b with
    | true => exact numberOfString?_of_not_isStart (c := 't') (by decide) (by decide) ['r', 'u', 'e']
    | false =>
      exact numberOfString?_of_not_isStart (c := 'f') (by decide) (by decide) ['a', 'l', 's', 'e']
  | number n => cases h
  | string s => exact h
  | array items =>
    obtain ⟨rest, hrest⟩ :=
      Json.wrap_eq_cons Json.compact '[' ']' (Json.itemsAt Json.compact items 1) 0
    show numberOfString? (String.ofList (Json.wrap Json.compact '[' ']' _ 0)) = none
    rw [hrest]
    exact numberOfString?_of_not_isStart (by decide) (by decide) rest
  | object fields =>
    obtain ⟨rest, hrest⟩ :=
      Json.wrap_eq_cons Json.compact '{' '}' (Json.fieldsAt Json.compact fields 1) 0
    show numberOfString? (String.ofList (Json.wrap Json.compact '{' '}' _ 0)) = none
    rw [hrest]
    exact numberOfString?_of_not_isStart (by decide) (by decide) rest

/-- A number has the text of a value that has none only if it is not finite, so that its key is its
text. -/
theorem key_eq_of_text {a b : Value} {m : Number} (ha : a.toNumber? = some m)
    (hb : b.toNumber? = none) (htext : a.text = b.text) : a.key = b.key := by
  have hnone : numberOfString? a.text = none := htext ▸ numberOfString?_text hb
  rw [key_of_toNumber?_none hb, ← htext]
  cases a with
  | null | boolean | array | object => cases ha
  | string s => exact nomatch hnone.symm.trans ha
  | number n =>
    cases n with
    | integer n => exact nomatch hnone.symm.trans (numberOfString?_ofInt n)
    | float x => exact key_of_toNumber? (v := .float x) rfl

/-- **Equal values have equal keys**, if neither is not-a-number. -/
theorem key_eq_of_same {a b : Value} (ha : a.isNaN = false) (hb : b.isNaN = false)
    (h : a.same b = true) : a.key = b.key := by
  have h : a.compare b = .eq := by simpa [same] using h
  unfold Value.compare at h
  cases hm : a.toNumber? with
  | some m =>
    cases hn : b.toNumber? with
    | some n =>
      rw [hm, hn] at h
      rw [key_of_toNumber? hm, key_of_toNumber? hn, Number.floatText_eq_of_compare
        (toNumber?_isNaN ha hm) (toNumber?_isNaN hb hn) h]
    | none =>
      rw [hm, hn] at h
      exact key_eq_of_text hm hn (Std.compare_eq_iff_eq.1 h)
  | none =>
    cases hn : b.toNumber? with
    | some n =>
      rw [hm, hn] at h
      exact (key_eq_of_text hn hm (Std.compare_eq_iff_eq.1 h).symm).symm
    | none =>
      rw [hm, hn] at h
      rw [key_of_toNumber?_none hm, key_of_toNumber?_none hn, Std.compare_eq_iff_eq.1 h]

end Value

end RowQuery
