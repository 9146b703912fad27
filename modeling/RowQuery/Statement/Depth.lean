/-
# How deep statements nest

A statement is one level deeper than the deepest statement within it: the body
of a table expression, or a subquery in any of its expressions.

Key definitions: `Statement.depth`, `Expr.depth`.
-/
import RowQuery.Statement

namespace RowQuery

mutual

/-- The depth of the deepest statement in an expression. -/
def Expr.depth : Expr → Nat
  | .identifier _ => 0
  | .literal _ => 0
  | .binary left _ right => max left.depth right.depth
  | .isNull operand _ => operand.depth
  | .inList left candidates _ => max left.depth (exprsDepth candidates)
  | .like left pattern _ => max left.depth pattern.depth
  | .call _ args => exprsDepth args
  | .window _ args partitionBy orderBy =>
    max (exprsDepth args) (max (exprsDepth partitionBy) (keysDepth orderBy))
  | .case branches otherwise => max (branchesDepth branches) (optionDepth otherwise)
  | .star => 0
  | .subquery s => s.depth

def exprsDepth : List Expr → Nat
  | [] => 0
  | e :: rest => max e.depth (exprsDepth rest)

def keysDepth : List SortKey → Nat
  | [] => 0
  | ⟨e, _⟩ :: rest => max e.depth (keysDepth rest)

def branchesDepth : List Branch → Nat
  | [] => 0
  | ⟨condition, result⟩ :: rest => max (max condition.depth result.depth) (branchesDepth rest)

def optionDepth : Option Expr → Nat
  | none => 0
  | some e => e.depth

def itemsDepth : List SelectItem → Nat
  | [] => 0
  | ⟨e, _⟩ :: rest => max e.depth (itemsDepth rest)

def joinsDepth : List Join → Nat
  | [] => 0
  | ⟨_, _, condition⟩ :: rest => max (optionDepth condition) (joinsDepth rest)

def tablesDepth : List TableExpr → Nat
  | [] => 0
  | ⟨_, body⟩ :: rest => max body.depth (tablesDepth rest)

def compoundDepth : Option Compound → Nat
  | none => 0
  | some ⟨_, right⟩ => right.depth

def Query.depth : Query → Nat
  | ⟨_, items, _, joins, condition, groupBy, having, orderBy, _⟩ =>
    max (itemsDepth items) (max (joinsDepth joins) (max (optionDepth condition)
      (max (exprsDepth groupBy) (max (optionDepth having) (keysDepth orderBy)))))

/-- The depth of a statement. -/
def Statement.depth : Statement → Nat
  | ⟨tables, primary, compound⟩ =>
    max (tablesDepth tables) (max primary.depth (compoundDepth compound)) + 1

end

end RowQuery
