/-
# Why a table is not loaded

Key definitions: `LoadError`, `LoadError.message`.
-/
import RowQuery.Source.Kind

namespace RowQuery

/-- Why a table is not loaded or not described. -/
inductive LoadError where
  /-- The source has no table of this name. -/
  | notFound (kind : SourceKind) (name : String)
  /-- A name that is no full address is looked for at a remote service without a base address. -/
  | noBaseUrl (name : String)
  /-- There is no source of this kind. -/
  | noSource (kind : SourceKind) (name : String)
  | unreachable (url : String)
  /-- A file is not text. -/
  | notText (name : String)
  | malformedCsv (name : String)
  | malformedJson (name : String)
  /-- The source does not describe tables. -/
  | undescribed (name : String)
  deriving DecidableEq, Repr

namespace LoadError

/-- What is said of a table that a source failed to load. -/
def failure (kind : SourceKind) (name reason : String) : String :=
  "failed to load " ++ kind.name ++ " source '" ++ name ++ "': " ++ reason

def message : LoadError → String
  | .notFound kind name => kind.name ++ " source not found: " ++ name
  | .noBaseUrl name => failure .api name "no API base URL configured"
  | .noSource kind name => failure kind name "no loader registered for this source kind"
  | .unreachable url => "HTTP error: no response from " ++ url
  | .notText name => "I/O error: '" ++ name ++ "' is not valid UTF-8"
  | .malformedCsv name => "CSV error: '" ++ name ++ "' has a malformed row"
  | .malformedJson name => "invalid JSON: '" ++ name ++ "' does not parse"
  | .undescribed name => "operation not supported: describing the schema of '" ++ name ++ "'"

end LoadError

end RowQuery
