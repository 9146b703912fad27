/-
# Set operations

Rows are the same if their canonical texts are.

Key definitions: `SetOperator.apply`.
-/
import RowQuery.Grouping
import RowQuery.Json.Writer
import RowQuery.Statement

namespace RowQuery

/-- The rows of a set operation. The intersection and the difference keep repeated rows. -/
def SetOperator.apply (op : SetOperator) (left right : List Record) : List Record :=
  let keys := right.map Record.canonical
  match op with
  | .unionAll => left ++ right
  | .union => distinctBy Record.canonical (left ++ right)
  | .intersect => left.filter fun row => keys.contains row.canonical
  | .except => left.filter fun row => !keys.contains row.canonical

end RowQuery
