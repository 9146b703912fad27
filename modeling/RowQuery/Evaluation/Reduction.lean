/-
# Aggregates within expressions

Over a group of rows every call of an aggregate has a value; an expression with
the values put in place of the calls can be evaluated on a single row. Windows
and subqueries are left as they are: what they call is not about the group.

Key definitions: `Expr.reduce`, `Expr.evaluateGrouped`.
-/
import RowQuery.Evaluation.Expr

namespace RowQuery.Expr

variable (run : Runner) (group : List Record)

mutual

/-- The expression with a literal for each call of an aggregate. -/
def reduce : Expr → Exec Expr
  | .call name args =>
    match Aggregate.ofName? name with
    | some f => do return .literal (← aggregate run args f group)
    | none => do return .call name (← reduceAll args)
  | .binary left op right => do return .binary (← left.reduce) op (← right.reduce)
  | .isNull operand negated => do return .isNull (← operand.reduce) negated
  | .inList left candidates negated => do
    return .inList (← left.reduce) (← reduceAll candidates) negated
  | .like left pattern negated => do return .like (← left.reduce) (← pattern.reduce) negated
  | .case branches otherwise => do
    return .case (← reduceBranches branches) (← reduceOption otherwise)
  | .identifier name => pure (.identifier name)
  | .literal value => pure (.literal value)
  | .window name args partitionBy orderBy => pure (.window name args partitionBy orderBy)
  | .star => pure .star
  | .subquery s => pure (.subquery s)

def reduceAll : List Expr → Exec (List Expr)
  | [] => pure []
  | e :: rest => do return (← e.reduce) :: (← reduceAll rest)

def reduceBranches : List Branch → Exec (List Branch)
  | [] => pure []
  | ⟨condition, result⟩ :: rest => do
    return ⟨← condition.reduce, ← result.reduce⟩ :: (← reduceBranches rest)

def reduceOption : Option Expr → Exec (Option Expr)
  | none => pure none
  | some e => do return some (← e.reduce)

end

/-- The value of an expression on a row that stands for a group. -/
def evaluateGrouped (e : Expr) (row : Record) : Exec Value := do
  (← e.reduce run group).evaluate run row

end RowQuery.Expr
