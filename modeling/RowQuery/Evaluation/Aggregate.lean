/-
# Aggregates

The value of an aggregate over the numbers that an argument has on a group of
rows. Over no numbers the sum is zero and everything else is null; a sum that is
out of range is null.

Key definitions: `Number.sum?`, `Number.least?`, `Number.greatest?`,
`Aggregate.ofNumbers`.
-/
import RowQuery.Evaluation.Operator

namespace RowQuery

namespace Number

/-- The sum, added up from the front; none if it ever is out of range. -/
def sum? (numbers : List Number) : Option Number :=
  numbers.foldlM (fun total n => total.add? n) (.integer 0)

/-- The smaller of two numbers, the first of equal ones. -/
def least (m n : Number) : Number := if m.compare n == .gt then n else m

/-- The greater of two numbers, the second of equal ones. -/
def greatest (m n : Number) : Number := if m.compare n == .gt then m else n

def least? : List Number → Option Number
  | [] => none
  | n :: rest => some (rest.foldl least n)

def greatest? : List Number → Option Number
  | [] => none
  | n :: rest => some (rest.foldl greatest n)

/-- The mean as a floating-point number; a sum that is out of range counts as zero. -/
def mean? (numbers : List Number) : Option Number :=
  if numbers.isEmpty then none
  else
    let total := match sum? numbers with
      | some n => n.toBinary64
      | none => .zero false
    some (.float (total / .ofInt numbers.length))

/-- The difference of the greatest and the least. -/
def spread? (numbers : List Number) : Option Number := do
  (← greatest? numbers).sub? (← least? numbers)

end Number

/-- An aggregate of the numbers of a group. The count is not one of numbers, but of rows. -/
def Aggregate.ofNumbers (numbers : List Number) : Aggregate → Value
  | .count => .null
  | .sum => Value.ofNumber? (Number.sum? numbers)
  | .avg => Value.ofNumber? (Number.mean? numbers)
  | .min => Value.ofNumber? (Number.least? numbers)
  | .max => Value.ofNumber? (Number.greatest? numbers)
  | .diff => Value.ofNumber? (Number.spread? numbers)

end RowQuery
