/-
# The order of values

Swapping two values swaps how they compare; equality in the order is symmetric.
It is no equivalence: values that have a number compare by it with each other
and by their text with the rest.

Key theorems: `Number.compare_swap`, `Value.compare_swap`, `Value.same_comm`.
-/
import RowQuery.Value.Order

namespace RowQuery

theorem Binary64.compare_swap (x y : Binary64) :
    (x.compare y).map Ordering.swap = y.compare x := by
  unfold Binary64.compare
  cases x.rank with
  | none => cases y.rank <;> rfl
  | some a =>
    cases y.rank with
    | none => rfl
    | some b => exact congrArg some (Std.OrientedOrd.eq_swap (a := b) (b := a)).symm

theorem Number.compare_swap (m n : Number) : (m.compare n).swap = n.compare m := by
  have hbinary : ((m.toBinary64.compare n.toBinary64).getD .eq).swap =
      (n.toBinary64.compare m.toBinary64).getD .eq := by
    rw [← Binary64.compare_swap m.toBinary64 n.toBinary64]
    cases m.toBinary64.compare n.toBinary64 <;> rfl
  cases m with
  | integer a =>
    cases n with
    | integer b => exact (Std.OrientedOrd.eq_swap (a := b.toInt) (b := a.toInt)).symm
    | float y => exact hbinary
  | float x => cases n <;> exact hbinary

namespace Value

theorem compare_swap (a b : Value) : (a.compare b).swap = b.compare a := by
  unfold Value.compare
  cases a.toNumber? with
  | none => cases b.toNumber? <;> exact (Std.OrientedOrd.eq_swap (a := b.text) (b := a.text)).symm
  | some m =>
    cases b.toNumber? with
    | none => exact (Std.OrientedOrd.eq_swap (a := b.text) (b := a.text)).symm
    | some n => exact m.compare_swap n

theorem same_comm (a b : Value) : a.same b = b.same a := by
  unfold Value.same
  rw [← compare_swap a b]
  cases a.compare b <;> rfl

end Value

end RowQuery
