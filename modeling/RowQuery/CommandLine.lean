/-
# Commands

What the commands do, given the files that they may read: run a query and write
its rows as JSON, or describe a table. Tables are files or come from a remote
service.

Key definitions: `Settings`, `Settings.engine`, `Settings.query`,
`Settings.describe`, `CommandError`.
-/
import RowQuery.Engine
import RowQuery.Source.Api
import RowQuery.Source.Directory
import RowQuery.Source.Routed

namespace RowQuery

/-- Where tables are and how statements are executed. -/
structure Settings where
  dataDirectory : String := "."
  apiBase : Option String := none
  defaultKind : SourceKind := .file
  compoundMode : CompoundMode := .shared
  deriving DecidableEq, Repr

/-- Why a command does nothing. -/
inductive CommandError where
  | query (error : QueryError)
  /-- There is neither an argument nor an input to read a query from. -/
  | noQuery

def CommandError.message : CommandError → String
  | .query (.malformed diagnostics) =>
    "Syntax error:\n" ++ "\n".intercalate (diagnostics.map fun d => "  " ++ d.message)
  | .query (.load error) => "Query failed: " ++ error.message
  | .query error => error.message
  | .noQuery => "No query provided. Pass one as an argument or pipe it to stdin."

/-- What a query command writes. -/
inductive QueryOutput where
  | valid
  | rows (text : String)

def QueryOutput.text : QueryOutput → String
  | .valid => "Syntax is valid"
  | .rows text => text

namespace Settings

/-- The engine for files and remote services. There is no database. -/
def engine (settings : Settings) (files : Files) : Engine where
  source := .routed [(.file, .directory files), (.api, .api settings.apiBase)]
  options :=
    { compoundMode := settings.compoundMode
      defaultKind := settings.defaultKind }

/-- The rows of a query as JSON; only whether it is well-formed, if nothing else is asked. -/
def query (settings : Settings) (files : Files) (pretty syntaxOnly : Bool) (text : String) :
    Except CommandError QueryOutput :=
  match Statement.ofText text with
  | .error diagnostics => .error (.query (.malformed diagnostics))
  | .ok s =>
    if syntaxOnly then .ok .valid
    else
      match ((settings.engine files).run s).1 with
      | .ok rows =>
        .ok (.rows (Json.ofRecords (if pretty then Json.pretty else Json.compact) rows))
      | .error failure => .error (.query (.ofFailure failure))

/-- The columns of a table. -/
def describe (settings : Settings) (files : Files) (name : String) :
    Except CommandError (List Field) :=
  ((settings.engine files).source.describe name).mapError fun error => .query (.load error)

end Settings

end RowQuery
