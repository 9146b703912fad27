/-
# A depth that is enough

Statements are executed down to a depth. Nothing is lost by that: the statements
within a statement are less deep, and they are all that its execution asks for.
So any depth that is not less than that of a statement gives what its own depth
gives.

Key theorems: `depth_lt_of_within`, `executeTo_of_depth_le`.
-/
import RowQuery.Proofs.Within
import Mathlib.Order.MinMax

namespace RowQuery

open List

/-! ### The depth of what is within -/

/-- The statements of a list are not deeper than a bound. -/
abbrev DepthsLe (ss : List Statement) (n : Nat) : Prop := ∀ s ∈ ss, s.depth ≤ n

theorem depthsLe_append {ss ts : List Statement} {n m : Nat} (hs : DepthsLe ss n)
    (ht : DepthsLe ts m) : DepthsLe (ss ++ ts) (max n m) := by
  intro s hmem
  rcases mem_append.1 hmem with hmem | hmem
  · exact (hs s hmem).trans (le_max_left n m)
  · exact (ht s hmem).trans (le_max_right n m)

theorem depthsLe_nil (n : Nat) : DepthsLe [] n := fun _ h => absurd h not_mem_nil

mutual

/-- What is within an expression is no deeper than the expression. -/
theorem statements_depth : ∀ e : Expr, DepthsLe e.statements e.depth
  | .identifier _ => by
    rw [Expr.statements]
    exact depthsLe_nil _
  | .literal _ => by
    rw [Expr.statements]
    exact depthsLe_nil _
  | .binary left _ right => by
    rw [Expr.statements, Expr.depth]
    exact depthsLe_append (statements_depth left) (statements_depth right)
  | .isNull operand _ => by
    rw [Expr.statements, Expr.depth]
    exact statements_depth operand
  | .inList left candidates _ => by
    rw [Expr.statements, Expr.depth]
    exact depthsLe_append (statements_depth left) (exprsStatements_depth candidates)
  | .like left pattern _ => by
    rw [Expr.statements, Expr.depth]
    exact depthsLe_append (statements_depth left) (statements_depth pattern)
  | .call _ args => by
    rw [Expr.statements, Expr.depth]
    exact exprsStatements_depth args
  | .window _ args partitionBy orderBy => by
    rw [Expr.statements, Expr.depth]
    exact depthsLe_append (exprsStatements_depth args)
      (depthsLe_append (exprsStatements_depth partitionBy) (keysStatements_depth orderBy))
  | .case branches otherwise => by
    rw [Expr.statements, Expr.depth]
    exact depthsLe_append (branchesStatements_depth branches) (optionStatements_depth otherwise)
  | .star => by
    rw [Expr.statements]
    exact depthsLe_nil _
  | .subquery s => by
    rw [Expr.statements, Expr.depth]
    exact fun t ht => (mem_singleton.1 ht ▸ le_rfl)

theorem exprsStatements_depth : ∀ es : List Expr, DepthsLe (exprsStatements es) (exprsDepth es)
  | [] => by
    rw [exprsStatements]
    exact depthsLe_nil _
  | e :: rest => by
    rw [exprsStatements, exprsDepth]
    exact depthsLe_append (statements_depth e) (exprsStatements_depth rest)

theorem keysStatements_depth : ∀ keys : List SortKey, DepthsLe (keysStatements keys) (keysDepth keys)
  | [] => by
    rw [keysStatements]
    exact depthsLe_nil _
  | ⟨e, _⟩ :: rest => by
    rw [keysStatements, keysDepth]
    exact depthsLe_append (statements_depth e) (keysStatements_depth rest)

theorem branchesStatements_depth : ∀ branches : List Branch,
    DepthsLe (branchesStatements branches) (branchesDepth branches)
  | [] => by
    rw [branchesStatements]
    exact depthsLe_nil _
  | ⟨condition, result⟩ :: rest => by
    rw [branchesStatements, branchesDepth, max_assoc]
    exact depthsLe_append (statements_depth condition)
      (depthsLe_append (statements_depth result) (branchesStatements_depth rest))

theorem optionStatements_depth : ∀ o : Option Expr, DepthsLe (optionStatements o) (optionDepth o)
  | none => by
    rw [optionStatements]
    exact depthsLe_nil _
  | some e => by
    rw [optionStatements, optionDepth]
    exact statements_depth e

end

theorem itemsStatements_depth : ∀ items : List SelectItem,
    DepthsLe (itemsStatements items) (itemsDepth items)
  | [] => depthsLe_nil _
  | ⟨e, _⟩ :: rest => by
    rw [itemsDepth]
    exact depthsLe_append (statements_depth e) (itemsStatements_depth rest)

theorem joinsStatements_depth : ∀ joins : List Join,
    DepthsLe (joinsStatements joins) (joinsDepth joins)
  | [] => depthsLe_nil _
  | ⟨_, _, condition⟩ :: rest => by
    rw [joinsDepth]
    exact depthsLe_append (optionStatements_depth condition) (joinsStatements_depth rest)

theorem query_statements_depth (q : Query) : DepthsLe q.statements q.depth := by
  obtain ⟨distinct, items, source, joins, condition, groupBy, having, orderBy, limit⟩ := q
  rw [Query.depth]
  exact depthsLe_append (itemsStatements_depth items) (depthsLe_append (joinsStatements_depth joins)
    (depthsLe_append (optionStatements_depth condition) (depthsLe_append (exprsStatements_depth groupBy)
      (depthsLe_append (optionStatements_depth having) (keysStatements_depth orderBy)))))

theorem bodies_depth : ∀ tables : List TableExpr,
    DepthsLe (tables.map TableExpr.body) (tablesDepth tables)
  | [] => depthsLe_nil _
  | ⟨name, body⟩ :: rest => by
    have hbody : DepthsLe [body] body.depth := fun t ht => (mem_singleton.1 ht ▸ le_rfl)
    rw [tablesDepth]
    exact depthsLe_append hbody (bodies_depth rest)

theorem compoundStatements_depth : ∀ compound : Option Compound,
    DepthsLe (compoundStatements compound) (compoundDepth compound)
  | none => depthsLe_nil _
  | some ⟨_, right⟩ => by
    rw [compoundDepth]
    exact query_statements_depth right

/-- **What is within a statement is less deep.** -/
theorem depth_lt_of_within {s t : Statement} (h : t ∈ s.within) : t.depth < s.depth := by
  obtain ⟨tables, primary, compound⟩ := s
  rw [Statement.depth]
  exact Nat.lt_succ_of_le (depthsLe_append (bodies_depth tables)
    (depthsLe_append (query_statements_depth primary) (compoundStatements_depth compound)) t h)

/-! ### Any depth that is enough -/

namespace Executor

variable (executor : Executor)

theorem depth_pos : ∀ s : Statement, 0 < s.depth
  | ⟨_, _, _⟩ => by
    rw [Statement.depth]
    exact Nat.succ_pos _

/-- Any two depths that are enough for a statement are alike to it. -/
theorem executeTo_eq : ∀ (n m : Nat) (s : Statement), s.depth ≤ n → s.depth ≤ m →
    executor.executeTo n s = executor.executeTo m s
  | 0, _, s, hn, _ => absurd hn (Nat.not_le.2 (depth_pos s))
  | _, 0, s, _, hm => absurd hm (Nat.not_le.2 (depth_pos s))
  | n + 1, m + 1, s, hn, hm => by
    refine executeWith_agrees executor fun t ht => ?_
    have hlt := depth_lt_of_within ht
    exact executeTo_eq n m t (by omega) (by omega)

/-- **The depth that a statement is executed to does not matter**, if it is that of the statement or
more. -/
theorem executeTo_of_depth_le {n : Nat} {s : Statement} (h : s.depth ≤ n) :
    executor.executeTo n s = executor.execute s :=
  executor.executeTo_eq n s.depth s h le_rfl

/-- A statement is executed by executing those within it. -/
theorem execute_eq (s : Statement) : executor.execute s = executor.executeWith executor.execute s := by
  rw [← executor.executeTo_of_depth_le (Nat.le_succ s.depth)]
  refine executeWith_agrees executor fun t ht => ?_
  exact executor.executeTo_of_depth_le (depth_lt_of_within ht).le

end Executor

end RowQuery
