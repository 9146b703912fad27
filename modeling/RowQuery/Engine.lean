/-
# Queries as texts

A query text is read, and the statement executed in a fresh session.

Key definitions: `QueryError`, `Executor.run`, `Engine.run`, `Engine.query`.
-/
import RowQuery.Evaluation.Statement
import RowQuery.Statement.Parser

namespace RowQuery

/-- Why a query has no result. -/
inductive QueryError where
  | malformed (diagnostics : List Diagnostic)
  | load (error : LoadError)
  /-- Sorting breaks off, and the program with it. -/
  | disorder (keys : List (List Value))

namespace QueryError

def message : QueryError → String
  | .malformed diagnostics => "syntax error: " ++ "; ".intercalate (diagnostics.map (·.message))
  | .load error => error.message
  | .disorder _ => "user-provided comparison function does not correctly implement a total order"

def ofFailure : Failure → QueryError
  | .load error => .load error
  | .disorder keys => .disorder keys

end QueryError

/-- The result of a statement in a fresh session, and the tables asked of the loader. -/
def Executor.run (executor : Executor) (s : Statement) :
    Except Failure (List Record) × List (SourceKind × String) :=
  let (result, session) := ((executor.execute s).run).run .start
  (result, session.loads)

namespace Engine

/-- The result of a statement in a fresh session, and the tables asked of the source. -/
def run (engine : Engine) (s : Statement) :
    Except Failure (List Record) × List (SourceKind × String) :=
  engine.executor.run s

/-- The result of a query, and the tables asked of the source. -/
def query (engine : Engine) (text : String) :
    Except QueryError (List Record) × List (SourceKind × String) :=
  match Statement.ofText text with
  | .error diagnostics => (.error (.malformed diagnostics), [])
  | .ok s =>
    let (result, loads) := engine.run s
    (result.mapError .ofFailure, loads)

end Engine

end RowQuery
