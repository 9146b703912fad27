/-
# Options of execution

Key definitions: `CompoundMode`, `Options`.
-/
import RowQuery.Source.Kind

namespace RowQuery

/-- Where the two queries of a set operation get their rows from. -/
inductive CompoundMode where
  /-- Both from the table of the first query. -/
  | shared
  /-- Each from its own table. -/
  | independent
  deriving DecidableEq, Repr

namespace CompoundMode

def name : CompoundMode → String
  | .shared => "shared"
  | .independent => "independent"

/-- The mode that a word names, in any case. -/
def ofWord? (word : String) : Option CompoundMode :=
  match Text.asciiLower word with
  | "shared" => some .shared
  | "shared-base-rows" => some .shared
  | "independent" => some .independent
  | _ => none

/-- What is said of a word that names no mode. -/
def unknownMessage (word : String) : String :=
  "unknown compound mode '" ++ Text.asciiLower word ++ "' (expected 'shared' or 'independent')"

end CompoundMode

/-- How statements are executed. -/
structure Options where
  compoundMode : CompoundMode := .shared
  /-- The kind of a table for which a query does not say it. -/
  defaultKind : SourceKind := .file
  /-- A table is loaded once for a statement, however often it is named. -/
  cacheTables : Bool := true
  /-- Rows with a column equal to a literal are found through an index. -/
  indexEqualities : Bool := true
  deriving DecidableEq, Repr

end RowQuery
