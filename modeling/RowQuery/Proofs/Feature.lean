/-
# What occurs in a statement

The features of a statement are its literals, windows, table names, sort keys,
DISTINCT and set operations, those of statements within it included. A law that
holds only of some statements says so by the features that they may have.

A window is *sheltered* if it stands in a clause that runs after its own query
has picked rows, or in a statement within such a clause: the rows that it
ranges over are those of a query of the statement. Conditions on rows and on
joins run before that. What they shelter is what their place in the statement
around them does.

Key definitions: `Feature`, `Expr.features`, `Query.features`,
`Statement.features`.
-/
import RowQuery.Statement

namespace RowQuery

/-- Something that occurs in a statement. -/
inductive Feature where
  | literal (value : Value)
  /-- A window by the name of its function. -/
  | window (name : String) (sheltered : Bool)
  | table (ref : TableRef)
  | sortKey
  | distinct
  | setOperation (op : SetOperator)

mutual

/-- What occurs in an expression at a place that is sheltered or not. -/
def Expr.features (sheltered : Bool) : Expr → List Feature
  | .identifier _ => []
  | .literal value => [.literal value]
  | .binary left _ right => left.features sheltered ++ right.features sheltered
  | .isNull operand _ => operand.features sheltered
  | .inList left candidates _ => left.features sheltered ++ exprsFeatures sheltered candidates
  | .like left pattern _ => left.features sheltered ++ pattern.features sheltered
  | .call _ args => exprsFeatures sheltered args
  | .window name args partitionBy orderBy =>
    .window name sheltered :: (exprsFeatures sheltered args ++
      (exprsFeatures sheltered partitionBy ++ keysFeatures sheltered orderBy))
  | .case branches otherwise =>
    branchesFeatures sheltered branches ++ optionFeatures sheltered otherwise
  | .star => []
  | .subquery s => s.features sheltered

def exprsFeatures (sheltered : Bool) : List Expr → List Feature
  | [] => []
  | e :: rest => e.features sheltered ++ exprsFeatures sheltered rest

def keysFeatures (sheltered : Bool) : List SortKey → List Feature
  | [] => []
  | ⟨e, _⟩ :: rest => .sortKey :: (e.features sheltered ++ keysFeatures sheltered rest)

def branchesFeatures (sheltered : Bool) : List Branch → List Feature
  | [] => []
  | ⟨condition, result⟩ :: rest =>
    condition.features sheltered ++ (result.features sheltered ++ branchesFeatures sheltered rest)

def optionFeatures (sheltered : Bool) : Option Expr → List Feature
  | none => []
  | some e => e.features sheltered

def itemsFeatures (sheltered : Bool) : List SelectItem → List Feature
  | [] => []
  | ⟨e, _⟩ :: rest => e.features sheltered ++ itemsFeatures sheltered rest

def joinsFeatures (sheltered : Bool) : List Join → List Feature
  | [] => []
  | ⟨_, table, condition⟩ :: rest =>
    .table table :: (optionFeatures sheltered condition ++ joinsFeatures sheltered rest)

def tablesFeatures (sheltered : Bool) : List TableExpr → List Feature
  | [] => []
  | ⟨_, body⟩ :: rest => body.features sheltered ++ tablesFeatures sheltered rest

def compoundFeatures (sheltered : Bool) : Option Compound → List Feature
  | none => []
  | some ⟨op, right⟩ => .setOperation op :: right.features sheltered

/-- What occurs in a query at a place that is sheltered or not. Its clauses shelter windows, its
conditions on rows and joins do not. -/
def Query.features (sheltered : Bool) : Query → List Feature
  | ⟨distinct, items, source, joins, condition, groupBy, having, orderBy, _⟩ =>
    (if distinct then [.distinct] else []) ++ (.table source :: (joinsFeatures sheltered joins ++
      (optionFeatures sheltered condition ++ (itemsFeatures true items ++
        (exprsFeatures true groupBy ++ (optionFeatures true having ++ keysFeatures true orderBy))))))

/-- What occurs in a statement at a place that is sheltered or not. -/
def Statement.features (sheltered : Bool) : Statement → List Feature
  | ⟨tables, primary, compound⟩ =>
    tablesFeatures sheltered tables ++
      (primary.features sheltered ++ compoundFeatures sheltered compound)

end

attribute [simp] Expr.features exprsFeatures keysFeatures branchesFeatures optionFeatures itemsFeatures
  joinsFeatures tablesFeatures compoundFeatures Query.features Statement.features

/-! ### The plainest statements -/

/-- All columns of a table. -/
def Query.all (table : String) : Query where
  distinct := false
  items := [⟨.star, none⟩]
  source := ⟨none, table, none⟩
  joins := []
  condition := none
  groupBy := []
  having := none
  orderBy := []
  limit := none

/-- A query on its own. -/
def Statement.ofQuery (q : Query) : Statement := ⟨[], q, none⟩

end RowQuery
