/-
# Values of expressions

The value of an expression on a row. Only a subquery can fail to load a table,
and only a window sorts: an operator or function that has no value gives null.

How a subquery is executed is a parameter, so that expressions can be understood
without statements.

Key definitions: `Expr.evaluate`, `Expr.aggregate`, `compareKeys`, `sortByKeys`,
`Exec.sorted`.
-/
import RowQuery.Evaluation.Aggregate
import RowQuery.Evaluation.Function
import RowQuery.Evaluation.Session
import RowQuery.Sort

namespace RowQuery

/-- How a statement is executed. -/
abbrev Runner := Statement → Exec (List Record)

/-! ### Sort keys -/

/-- Two values compared in a direction. -/
def Direction.compare : Direction → Value → Value → Ordering
  | .ascending, a, b => a.compare b
  | .descending, a, b => b.compare a

/-- Two lists of keys compared by the first key that differs. -/
def compareKeys : List Direction → List Value → List Value → Ordering
  | d :: directions, a :: as, b :: bs => (d.compare a b).then (compareKeys directions as bs)
  | _, _, _ => .eq

/-- Items, each of so many bytes with its keys, sorted by the keys. There is no result if the keys
are found to be in no order. -/
def sortByKeys {α : Type} (size : Nat) (directions : List Direction)
    (items : List (α × List Value)) : Option (List (α × List Value)) :=
  Sort.sort (fun a b => compareKeys directions a.2 b.2 == .lt) size items

/-- Items in the order of their keys. -/
def Exec.sorted {α : Type} (size : Nat) (directions : List Direction)
    (items : List (α × List Value)) : Exec (List α) :=
  match sortByKeys size directions items with
  | some sorted => pure (sorted.map Prod.fst)
  | none => throw (.disorder (items.map Prod.snd))

/-! ### Windows -/

/-- The text that rows of one partition share: those of the values, with bars between them. -/
def partitionKey : List Value → String
  | [] => "all"
  | values => "|".intercalate (values.map Value.text)

/-- The place of a record among others, counted from one. -/
def rowNumber (row : Record) (rows : List Record) : Value :=
  match rows.findIdx? fun r => r.canonical == row.canonical with
  | some i => .integer (Int64.ofNat (i + 1))
  | none => .null

/-- The bytes of a row with its keys: those of a list, and where the row is. -/
def keyedRowSize : Nat := 32

/-- The first value of a record, or null. -/
def firstValue (r : Record) : Value := r.first?.getD .null

namespace Expr

variable (run : Runner)

/-- The rows of a subquery, for which the present row is around. -/
def subqueryRows (s : Statement) (row : Record) : Exec (List Record) := Exec.withOuter row (run s)

mutual

/-- The value of an expression on a row. -/
def evaluate : Expr → Record → Exec Value
  | .identifier name, row => do return (← get).resolve row name
  | .literal value, _ => pure value
  | .binary left .and right, row => do
    if (← left.evaluate row).isTrue then return .boolean (← right.evaluate row).isTrue
    else return .boolean false
  | .binary left op right, row => do return op.apply (← left.evaluate row) (← right.evaluate row)
  | .isNull operand negated, row => do
    return .boolean ((← operand.evaluate row).isNull != negated)
  | .inList left candidates negated, row => do
    let value ← left.evaluate row
    return .boolean ((← isAmong value candidates row) != negated)
  | .like left pattern negated, row => do
    let value ← left.evaluate row
    return .boolean (value.like (← pattern.evaluate row) != negated)
  | .call name args, row => do return Function.call name (← evaluateAll args row)
  | .window name args partitionBy orderBy, row => do
    match (← get).population with
    | none => return .null
    | some rows =>
      let key := partitionKey (← evaluateAll partitionBy row)
      let keys ← rows.mapM fun r => evaluateAll partitionBy r
      let partition := ((rows.zip keys).filter fun p => partitionKey p.2 == key).map (·.1)
      if name = "ROW_NUMBER" then
        let keys ← partition.mapM fun r => evaluateKeys orderBy r
        let directions := orderBy.map SortKey.direction
        return rowNumber row (← Exec.sorted keyedRowSize directions (partition.zip keys))
      else
        match Aggregate.ofName? name with
        | some f => aggregate args f partition
        | none => return .null
  | .case branches otherwise, row => do
    match ← firstResult branches row with
    | some value => return value
    | none => evaluateOption otherwise row
  | .star, _ => pure .null
  | .subquery s, row => do
    match ← subqueryRows run s row with
    | first :: _ => return firstValue first
    | [] => return .null

/-- Whether a value equals one of the candidates; those after it are not evaluated. -/
def isAmong (value : Value) : List Expr → Record → Exec Bool
  | [], _ => pure false
  | .subquery s :: rest, row => do
    if (← subqueryRows run s row).any fun r => value.same (firstValue r) then return true
    else isAmong value rest row
  | e :: rest, row => do
    if value.same (← e.evaluate row) then return true else isAmong value rest row

/-- The values of expressions, evaluated in order. -/
def evaluateAll : List Expr → Record → Exec (List Value)
  | [], _ => pure []
  | e :: rest, row => do return (← e.evaluate row) :: (← evaluateAll rest row)

/-- The values of sort keys, evaluated in order. -/
def evaluateKeys : List SortKey → Record → Exec (List Value)
  | [], _ => pure []
  | ⟨e, _⟩ :: rest, row => do return (← e.evaluate row) :: (← evaluateKeys rest row)

/-- The result of the first branch whose condition is true. -/
def firstResult : List Branch → Record → Exec (Option Value)
  | [], _ => pure none
  | ⟨condition, result⟩ :: rest, row => do
    if (← condition.evaluate row).isTrue then return some (← result.evaluate row)
    else firstResult rest row

/-- The value of an expression that may be left out. -/
def evaluateOption : Option Expr → Record → Exec Value
  | none, _ => pure .null
  | some e, row => e.evaluate row

/-- The value of an aggregate of the first argument over rows. Rows are counted without an
argument; values that have no number are left out. -/
def aggregate : List Expr → Aggregate → List Record → Exec Value
  | _, .count, rows => pure (.integer (Int64.ofNat rows.length))
  | [], f, _ => pure (f.ofNumbers [])
  | e :: _, f, rows => do
    let values ← rows.mapM fun r => e.evaluate r
    return f.ofNumbers (values.filterMap Value.toNumber?)

end

end Expr

end RowQuery
