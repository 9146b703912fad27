/-
# The clauses of a query

A query over rows that are loaded and joined: its condition picks rows; these
are grouped or projected one by one; then come DISTINCT, ORDER BY and LIMIT.
Sort keys are found along with the row they belong to, while its group and the
rows that windows range over are known.

Key definitions: `Query.filter`, `Query.projectRow`, `Query.projectGroup`,
`Query.project`, `Query.select`.
-/
import RowQuery.Evaluation.Reduction
import RowQuery.Grouping
import RowQuery.Statement.Printer

namespace RowQuery

/-- A row of a result, with the keys to sort it by. -/
structure Projected where
  record : Record
  keys : List Value

/-- The bytes of a row of a result: those of two lists. -/
def Projected.size : Nat := 48

/-- What is left of a list after the first `offset` items, and at most `count` of it. -/
def Limit.apply {α : Type} (limit : Limit) (items : List α) : List α :=
  match limit.count with
  | some count => (items.drop limit.offset).take count
  | none => items.drop limit.offset

/-- A column and a literal that a condition says are equal, if this is all it says. -/
def Expr.equality? : Expr → Option (String × Value)
  | .binary (.identifier column) .equal (.literal value) => some (column, value)
  | .binary (.literal value) .equal (.identifier column) => some (column, value)
  | _ => none

namespace Query

variable (run : Runner)

/-! ### Picking rows -/

/-- The rows whose value in a column equals a literal, found through the groups of rows by the key
of that value. A group may hold values that are not equal, so all are compared. -/
def filterIndexed (column : String) (literal : Value) (rows : List Record) :
    Exec (List Record) := do
  let values ← rows.mapM fun row => (Expr.identifier column).evaluate run row
  let groups := Groups.ofList ((values.map Value.key).zip (values.zip rows))
  return ((groups.find literal.key).filter fun p => p.1.same literal).map Prod.snd

/-- The rows on which a condition is true. -/
def filterScanned (condition : Expr) (rows : List Record) : Exec (List Record) :=
  Exec.filter (fun row => do return (← condition.evaluate run row).isTrue) rows

/-- The rows that a query's condition picks, with an index if one is wanted and helps. -/
def filter (indexed : Bool) (q : Query) (rows : List Record) : Exec (List Record) :=
  match q.condition with
  | none => pure rows
  | some condition =>
    match if indexed then condition.equality? else none with
    | some (column, literal) => filterIndexed run column literal rows
    | none => filterScanned run condition rows

/-! ### Projection -/

/-- The columns that a select item makes, with its value on a row given. -/
def itemFields (value : Expr → Exec Value) (source : Record) (item : SelectItem) :
    Exec (List (String × Value)) := do
  if item.isStar then return source.fields
  else return [(item.columnName, ← value item.expr)]

/-- The record that a query's select items make; of several columns with one name the first place
and the last value. -/
def projection (value : Expr → Exec Value) (q : Query) (source : Record) : Exec Record := do
  return .ofFields (← q.items.mapM (itemFields value source)).flatten

/-- A sort key of a row. Windows see the row that was picked, all else sees the columns of the
result too. -/
def sortKey (value : Expr → Record → Exec Value) (source projected : Record) (key : SortKey) :
    Exec Value :=
  match key.expr with
  | .window .. => key.expr.evaluate run source
  | e => value e (source.merge projected)

/-- The sort keys of a row. -/
def sortKeys (value : Expr → Record → Exec Value) (q : Query) (source projected : Record) :
    Exec (List Value) :=
  q.orderBy.mapM (sortKey run value source projected)

/-- The result for one row. -/
def projectRow (q : Query) (row : Record) : Exec Projected := do
  let record ← q.projection (fun e => e.evaluate run row) row
  return ⟨record, ← q.sortKeys run (fun e r => e.evaluate run r) row record⟩

/-- Whether a group is wanted: its condition sees the first row of the group and the columns of
the result. -/
def isWanted (q : Query) (group : List Record) (source projected : Record) : Exec Bool :=
  match q.having with
  | none => pure true
  | some condition => do
    return (← condition.evaluateGrouped run group (source.merge projected)).isTrue

/-- The result for a group of rows, whose first row stands for it; none if it is not wanted. -/
def projectGroup (q : Query) (group : List Record) : Exec (Option Projected) := do
  let source := group.head?.getD .empty
  let record ← q.projection (fun e => e.evaluateGrouped run group source) source
  if ← q.isWanted run group source record then
    return some ⟨record, ← q.sortKeys run (fun e r => e.evaluateGrouped run group r) source record⟩
  else return none

/-- The groups of rows by the text of an expression. -/
def groups (e : Expr) (rows : List Record) : Exec (Groups Record) := do
  let values ← rows.mapM fun row => e.evaluate run row
  return Groups.ofList ((values.map Value.text).zip rows)

/-- Whether a query without grouping is about all its rows as one group. -/
def aggregates (q : Query) : Bool := q.items.any fun item => item.expr.containsAggregate

/-- The results of a query for the rows that it picked. Only the first grouping expression counts.
Without grouping, aggregates are over all rows, also if there is none. -/
def project (q : Query) (rows : List Record) : Exec (List Projected) :=
  match q.groupBy with
  | e :: _ => do
    let groups ← groups run e rows
    return (← groups.mapM fun g => q.projectGroup run g.2).filterMap id
  | [] =>
    if q.aggregates then do return (← q.projectGroup run rows).toList
    else rows.mapM (q.projectRow run)

/-! ### The result as a list -/

/-- The results of which none is repeated, if this is asked. -/
def distinctRows (q : Query) (results : List Projected) : List Projected :=
  if q.distinct then distinctBy (fun p => p.record.canonical) results else results

/-- The results in the order that is asked, if any is. -/
def order (q : Query) (results : List Projected) : Exec (List Record) :=
  Exec.sorted Projected.size (q.orderBy.map SortKey.direction)
    (results.map fun p => (p.record, p.keys))

/-- The records that are asked for. -/
def page (q : Query) (records : List Record) : List Record :=
  match q.limit with
  | some limit => limit.apply records
  | none => records

/-- The result of a query over rows. Windows range over the rows that were picked. -/
def select (indexed : Bool) (q : Query) (rows : List Record) : Exec (List Record) := do
  let picked ← q.filter run indexed rows
  let results ← Exec.withPopulation picked (q.project run picked)
  return q.page (← q.order (q.distinctRows results))

end Query

end RowQuery
