/-
# Execution of statements

A statement first names its tables, each after those before it, and then runs
its query or both queries of its set operation. A table's name means the
innermost table of that name among those named by the statements around, if the
query does not say a kind; else the table is loaded.

What loads tables may answer otherwise when it is asked again: a file is
replaced, a service is not reached. An engine has a source, which gives the same
answer whenever it is asked.

Statements are executed down to a depth. That of the statement itself is enough:
nothing deeper is ever asked for.

Key definitions: `Loader`, `Executor`, `Executor.loadTable`, `Executor.select`,
`Executor.execute`, `Engine`, `Engine.execute`.
-/
import RowQuery.Config
import RowQuery.Evaluation.Compound
import RowQuery.Evaluation.Join
import RowQuery.Evaluation.Select
import RowQuery.Source
import RowQuery.Statement.Depth

namespace RowQuery

/-- What loads a table of a kind and a name, after the loads before it. -/
abbrev Loader := List (SourceKind × String) → SourceKind → String → Except LoadError (List Record)

/-- A loader with the options of execution. -/
structure Executor where
  load : Loader
  options : Options

namespace Executor

/-! ### Tables -/

/-- A table from the loader, which is asked for it, or from the cache. -/
def fetch (executor : Executor) (kind : SourceKind) (name : String) : Exec (List Record) := do
  let session ← get
  match if executor.options.cacheTables then session.cached? kind name else none with
  | some rows => return rows
  | none =>
    modify fun s => { s with loads := s.loads ++ [(kind, name)] }
    let rows ← (executor.load session.loads kind name).mapError Failure.load
    if executor.options.cacheTables then
      modify fun s => { s with cache := ((kind, name), rows) :: s.cache }
    return rows

/-- The rows of a table that a query names. -/
def loadTable (executor : Executor) (table : TableRef) : Exec (List Record) := do
  match table.kind with
  | some kind => executor.fetch kind table.name
  | none =>
    match (← get).scoped? table.name with
    | some rows => return rows
    | none => executor.fetch executor.options.defaultKind table.name

/-! ### Queries -/

variable (executor : Executor) (run : Runner)

/-- Rows joined with the tables of joins, one after the other. -/
def joinAll : List Join → List Record → Exec (List Record)
  | [], rows => pure rows
  | join :: rest, rows => do
    let table ← executor.loadTable join.table
    let right := table.map (·.qualified join.table.qualifier)
    joinAll rest (← joinRows run join.kind join.condition rows right)

/-- What qualifies the columns of a query's first table: its alias, or its name if there are
joins. -/
def baseQualifier? (q : Query) : Option String :=
  match q.source.aliasName with
  | some name => some name
  | none => if q.joins.isEmpty then none else some q.source.name

/-- The rows of a query before its clauses: those of a table, qualified and joined. -/
def prepare (q : Query) (base : List Record) : Exec (List Record) :=
  let rows := match baseQualifier? q with
    | some qualifier => base.map (·.qualified qualifier)
    | none => base
  executor.joinAll run q.joins rows

/-- The result of a query on the rows of a table. -/
def selectFrom (q : Query) (base : List Record) : Exec (List Record) := do
  q.select run executor.options.indexEqualities (← executor.prepare run q base)

/-- The result of a query. -/
def select (q : Query) : Exec (List Record) := do
  executor.selectFrom run q (← executor.loadTable q.source)

/-- The results of two queries. -/
def selectBoth (left right : Query) : Exec (List Record × List Record) :=
  match executor.options.compoundMode with
  | .shared => do
    let base ← executor.loadTable left.source
    return (← executor.selectFrom run left base, ← executor.selectFrom run right base)
  | .independent => do return (← executor.select run left, ← executor.select run right)

/-! ### Statements -/

/-- Tables named in order: each may use those before it. -/
def defineTables : List TableExpr → Exec Unit
  | [] => pure ()
  | ⟨name, body⟩ :: rest => do
    let rows ← run body
    modify (Session.define name rows)
    defineTables rest

/-- The result of a statement, given how those within it are executed. -/
def executeWith (s : Statement) : Exec (List Record) := Exec.withScope do
  defineTables run s.tables
  match s.compound with
  | none => executor.select run s.primary
  | some compound => do
    let (left, right) ← executor.selectBoth run s.primary compound.right
    return compound.op.apply left right

/-- The result of a statement of at most a given depth. -/
def executeTo : Nat → Runner
  | 0 => fun _ => pure []
  | depth + 1 => executor.executeWith (executeTo depth)

/-- The result of a statement. -/
def execute (s : Statement) : Exec (List Record) := executor.executeTo s.depth s

/-- The value of an expression on a row. -/
def evaluate (e : Expr) (row : Record) : Exec Value := e.evaluate (executor.executeTo e.depth) row

end Executor

/-! ### Sources -/

/-- A source with the options of execution. -/
structure Engine where
  source : Source
  options : Options

namespace Engine

/-- The source is asked again and again, and answers the same. -/
def executor (engine : Engine) : Executor := ⟨fun _ => engine.source.load, engine.options⟩

/-- The result of a statement. -/
def execute (engine : Engine) (s : Statement) : Exec (List Record) := engine.executor.execute s

/-- The value of an expression on a row. -/
def evaluate (engine : Engine) (e : Expr) (row : Record) : Exec Value :=
  engine.executor.evaluate e row

end Engine

end RowQuery
