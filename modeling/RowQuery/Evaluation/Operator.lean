/-
# Operators on values

Arithmetic is on the numbers of values and gives null where there is none.
Comparisons follow the order of values, so that every two values compare.

Key definitions: `BinaryOp.apply`, `Value.like`.
-/
import RowQuery.Statement
import RowQuery.Text.Search
import RowQuery.Value.Order

namespace RowQuery

namespace Value

/-- A number as a value; null if there is none. -/
def ofNumber? : Option Number → Value
  | some n => .number n
  | none => .null

/-- An operation on the numbers of two values. -/
def arithmetic (op : Number → Number → Option Number) (a b : Value) : Value :=
  match a.toNumber?, b.toNumber? with
  | some m, some n => ofNumber? (op m n)
  | _, _ => .null

/-- A text without percent signs at its ends. -/
def trimPercent (text : List Char) : List Char :=
  let isPercent (c : Char) : Bool := c == '%'
  ((text.dropWhile isPercent).reverse.dropWhile isPercent).reverse

/-- Whether the text of a value contains a pattern, percent signs at the pattern's ends apart. -/
def like (v pattern : Value) : Bool :=
  Text.contains (trimPercent pattern.text.toList) v.text.toList

end Value

/-- The value of an operator on two values. -/
def BinaryOp.apply : BinaryOp → Value → Value → Value
  | .add, a, b => Value.arithmetic Number.add? a b
  | .subtract, a, b => Value.arithmetic Number.sub? a b
  | .multiply, a, b => Value.arithmetic Number.mul? a b
  | .divide, a, b => Value.arithmetic Number.div? a b
  | .equal, a, b => .boolean (a.compare b == .eq)
  | .notEqual, a, b => .boolean (a.compare b != .eq)
  | .less, a, b => .boolean (a.compare b == .lt)
  | .greater, a, b => .boolean (a.compare b == .gt)
  | .lessEqual, a, b => .boolean (a.compare b != .gt)
  | .greaterEqual, a, b => .boolean (a.compare b != .lt)
  | .and, a, b => .boolean (a.isTrue && b.isTrue)

end RowQuery
