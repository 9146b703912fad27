/-
# Sources by kind

Each kind of table has a source of its own. A table is described by the first
source that can, files first.

Key definitions: `Source.routed`.
-/
import RowQuery.Source

namespace RowQuery

/-- The first description of a table that one of several sources gives, or else the last error. -/
def firstDescription (name : String) : LoadError → List Source → Except LoadError (List Field)
  | error, [] => .error error
  | _, source :: rest =>
    match source.describe name with
    | .ok fields => .ok fields
    | .error error => firstDescription name error rest

/-- The source of the given ones that has the kind; of several with one kind the last counts. -/
def Source.routed (routes : List (SourceKind × Source)) : Source where
  load kind name :=
    match routes.reverse.lookup kind with
    | some source => source.load kind name
    | none => .error (.noSource kind name)
  describe name :=
    let kinds : List SourceKind := [.file, .database, .api]
    let sources := kinds.filterMap fun kind => routes.reverse.lookup kind
    firstDescription name (.undescribed name) sources

end RowQuery
