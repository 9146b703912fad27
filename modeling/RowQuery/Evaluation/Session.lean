/-
# Sessions

What a statement that is being executed knows: the rows of the queries around
the present one, the tables that statements around it have named, the rows that
windows range over, and the tables loaded so far. An action may fail, and leaves
a session in either case.

Key definitions: `Session`, `Failure`, `Exec`, `Exec.between`, `withOuter`,
`withScope`, `withPopulation`.
-/
import RowQuery.Record
import RowQuery.Source.Error

namespace RowQuery

/-- Tables by their names; the first of several with one name counts. -/
abbrev Scope := List (String × List Record)

/-- The state of an execution. -/
structure Session where
  /-- The rows of the queries around this one, the innermost first. -/
  outer : List Record
  /-- The tables named by the statements around, the innermost first. -/
  scopes : List Scope
  /-- The rows that windows range over, where there are any. -/
  population : Option (List Record)
  /-- Tables that need not be loaded again. -/
  cache : List ((SourceKind × String) × List Record)
  /-- The tables asked of the source, in order. -/
  loads : List (SourceKind × String)

namespace Session

/-- The session before anything is executed. -/
def start : Session := ⟨[], [], none, [], []⟩

/-- The value of a column that a name means: the rows are searched from the innermost outwards for
a column of exactly this name, and only then for one that the name may stand for. -/
def resolve (s : Session) (row : Record) (name : String) : Value :=
  let rows := row :: s.outer
  match rows.findSome? (·.get? name) with
  | some value => value
  | none => (rows.findSome? (·.lookup? name)).getD .null

/-- The table of this name in the innermost scope that has one. -/
def scoped? (s : Session) (name : String) : Option (List Record) :=
  s.scopes.findSome? fun scope => scope.lookup name

/-- A table that was loaded before. -/
def cached? (s : Session) (kind : SourceKind) (name : String) : Option (List Record) :=
  s.cache.lookup (kind, name)

/-- The session with a table named in the innermost scope. -/
def define (name : String) (rows : List Record) (s : Session) : Session :=
  match s.scopes with
  | scope :: around => { s with scopes := ((name, rows) :: scope) :: around }
  | [] => s

end Session

/-- Why an execution has no result. -/
inductive Failure where
  /-- A table is not loaded. -/
  | load (error : LoadError)
  /-- Sorting breaks off, as it finds that these keys are in no order. -/
  | disorder (keys : List (List Value))

/-- An action that changes the session and may fail. -/
abbrev Exec (α : Type) := ExceptT Failure (StateM Session) α

namespace Exec

/-- An action between two changes of the session, the second of them made also after a failure. -/
def between {α : Type} (enter leave : Session → Session) (action : Exec α) : Exec α :=
  ExceptT.mk fun s =>
    let (result, after) := (action.run).run (enter s)
    (result, leave after)

/-- An action for which one more row is around. -/
def withOuter {α : Type} (row : Record) (action : Exec α) : Exec α :=
  between (fun s => { s with outer := row :: s.outer })
    (fun s => { s with outer := s.outer.tail }) action

/-- An action with a scope of its own. -/
def withScope {α : Type} (action : Exec α) : Exec α :=
  between (fun s => { s with scopes := [] :: s.scopes })
    (fun s => { s with scopes := s.scopes.tail }) action

/-- An action for which windows range over the given rows. -/
def withPopulation {α : Type} (rows : List Record) (action : Exec α) : Exec α := do
  let previous := (← get).population
  between (fun s => { s with population := some rows })
    (fun s => { s with population := previous }) action

/-- The rows that satisfy a condition, which is decided for one after the other. -/
def filter (condition : Record → Exec Bool) (rows : List Record) : Exec (List Record) := do
  let kept ← rows.mapM condition
  return ((rows.zip kept).filter (·.2)).map (·.1)

end Exec

end RowQuery
