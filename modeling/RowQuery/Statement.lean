/-
# Statements

The tree of a statement: expressions, the clauses of a query, common table
expressions in front of it and a set operation after it. An empty list stands
for a clause that is not there; a clause that is there has an item at least.

Key definitions: `Expr`, `Query`, `Statement`.
-/
import RowQuery.Source.Kind
import RowQuery.Value

namespace RowQuery

/-- Operators between two operands. -/
inductive BinaryOp where
  | add
  | subtract
  | multiply
  | divide
  | equal
  | notEqual
  | less
  | greater
  | lessEqual
  | greaterEqual
  | and
  deriving DecidableEq, Repr

/-- The direction of a sort key. -/
inductive Direction where
  | ascending
  | descending
  deriving DecidableEq, Repr

/-- What a join does with rows that match no other. -/
inductive JoinKind where
  | inner
  | left
  | right
  | full
  | cross
  deriving DecidableEq, Repr

/-- How the rows of two queries become one list. -/
inductive SetOperator where
  | union
  | unionAll
  | intersect
  | except
  deriving DecidableEq, Repr

/-- A table named in a query, with the kind of its source if the query says it. -/
structure TableRef where
  kind : Option SourceKind
  name : String
  aliasName : Option String
  deriving DecidableEq, Repr

/-- The name that qualifies a table's columns. -/
def TableRef.qualifier (t : TableRef) : String := t.aliasName.getD t.name

/-- How many rows to keep, after so many that are dropped. -/
structure Limit where
  count : Option Nat
  offset : Nat
  deriving DecidableEq, Repr

mutual

/-- An expression. -/
inductive Expr where
  /-- A column, possibly qualified. -/
  | identifier (name : String)
  | literal (value : Value)
  | binary (left : Expr) (op : BinaryOp) (right : Expr)
  | isNull (operand : Expr) (negated : Bool)
  /-- Membership in a list; a subquery in the list stands for the first values of its rows. -/
  | inList (left : Expr) (candidates : List Expr) (negated : Bool)
  | like (left : Expr) (pattern : Expr) (negated : Bool)
  /-- A call of a function, its name in capitals. -/
  | call (name : String) (args : List Expr)
  /-- A call over a partition of the rows, in an order. -/
  | window (name : String) (args : List Expr) (partitionBy : List Expr) (orderBy : List SortKey)
  | case (branches : List Branch) (otherwise : Option Expr)
  /-- All columns. -/
  | star
  | subquery (statement : Statement)

/-- An expression to sort by. -/
structure SortKey where
  expr : Expr
  direction : Direction

/-- A condition and what to take if it is the first that holds. -/
structure Branch where
  condition : Expr
  result : Expr

/-- An expression to select, with the name that the query gives its column. -/
structure SelectItem where
  expr : Expr
  aliasName : Option String

/-- A table joined to those before it. -/
structure Join where
  kind : JoinKind
  table : TableRef
  condition : Option Expr

/-- A select query. -/
structure Query where
  distinct : Bool
  items : List SelectItem
  source : TableRef
  joins : List Join
  condition : Option Expr
  groupBy : List Expr
  having : Option Expr
  orderBy : List SortKey
  limit : Option Limit

/-- A query that later parts of a statement may name as a table. -/
structure TableExpr where
  name : String
  body : Statement

/-- The second query of a statement. -/
structure Compound where
  op : SetOperator
  right : Query

/-- A query, the table expressions that it may name, and a set operation with a second query. -/
structure Statement where
  tables : List TableExpr
  primary : Query
  compound : Option Compound

end

instance : Inhabited Expr := ⟨.star⟩

/-! ### Aggregates -/

/-- The functions that take a value from a group of rows. -/
inductive Aggregate where
  | count
  | avg
  | sum
  | min
  | max
  | diff
  deriving DecidableEq, Repr

/-- The aggregate that a function name in capitals means. -/
def Aggregate.ofName? : String → Option Aggregate
  | "COUNT" => some .count
  | "AVG" => some .avg
  | "SUM" => some .sum
  | "MIN" => some .min
  | "MAX" => some .max
  | "DIFF" => some .diff
  | _ => none

namespace Expr

/-- A call of an aggregate. -/
def isAggregateCall : Expr → Bool
  | .call name _ => (Aggregate.ofName? name).isSome
  | _ => false

mutual

/-- Whether an aggregate is called anywhere outside of windows and subqueries. -/
def containsAggregate : Expr → Bool
  | .call name args => (Aggregate.ofName? name).isSome || anyContains args
  | .binary left _ right => left.containsAggregate || right.containsAggregate
  | .isNull operand _ => operand.containsAggregate
  | .inList left candidates _ => left.containsAggregate || anyContains candidates
  | .like left pattern _ => left.containsAggregate || pattern.containsAggregate
  | .case branches otherwise => branchesContain branches || optionContains otherwise
  | .identifier _ => false
  | .literal _ => false
  | .window .. => false
  | .star => false
  | .subquery _ => false

def anyContains : List Expr → Bool
  | [] => false
  | e :: rest => e.containsAggregate || anyContains rest

def branchesContain : List Branch → Bool
  | [] => false
  | ⟨condition, result⟩ :: rest =>
    condition.containsAggregate || result.containsAggregate || branchesContain rest

def optionContains : Option Expr → Bool
  | none => false
  | some e => e.containsAggregate

end

end Expr

end RowQuery
