/-
# Kinds of source

A table comes from a file, a database or a remote service. A query names the
kind with a word in front of the table's name, in any case.

Key definitions: `SourceKind`, `SourceKind.ofWord?`, `SourceKind.name`.
-/
import RowQuery.Text.Case

namespace RowQuery

/-- Where tables come from. -/
inductive SourceKind where
  | file
  | database
  | api
  deriving DecidableEq, Repr

namespace SourceKind

def name : SourceKind → String
  | .file => "file"
  | .database => "database"
  | .api => "api"

/-- The kind that a word names, in any case. -/
def ofWord? (word : String) : Option SourceKind :=
  match Text.asciiLower word with
  | "file" => some .file
  | "database" => some .database
  | "db" => some .database
  | "api" => some .api
  | _ => none

/-- What is said of a word that names no kind. -/
def unknownMessage (word : String) : String :=
  "unknown source kind '" ++ Text.asciiLower word ++ "'"

end SourceKind

end RowQuery
