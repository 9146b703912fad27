/-
# Sources

A source loads the tables of all kinds by their names, and describes the columns
of a table. The description of a list of records names the columns in order of
first appearance, each with the type of its first value that is not null.

Key definitions: `Source`, `Field`, `Field.ofRecords`, `Field.lines`.
-/
import RowQuery.Record
import RowQuery.Source.Error

namespace RowQuery

/-- A column of a table as it is described. -/
structure Field where
  name : String
  typeName : String
  nullable : Bool
  deriving DecidableEq, Repr

namespace Field

/-- The type of a column in which no value but null is known. -/
def unknownType : String := Value.typeName .null

/-- A field after one more value of its column. -/
def see (f : Field) (value : Value) : Field :=
  if value.isNull then { f with nullable := true }
  else if f.typeName = unknownType then { f with typeName := value.typeName }
  else f

/-- The fields after one more value of the named column. -/
def observe (name : String) (value : Value) : List Field → List Field
  | [] => [see ⟨name, unknownType, false⟩ value]
  | f :: rest => if f.name = name then f.see value :: rest else f :: observe name value rest

/-- A column is nullable also if a record does not have it. -/
def settle (records : List Record) (f : Field) : Field :=
  if records.any fun r => !r.contains f.name then { f with nullable := true } else f

/-- The columns of records. -/
def ofRecords (records : List Record) : List Field :=
  let seen := (records.flatMap Record.fields).foldl
    (fun fields (name, value) => observe name value fields) []
  seen.map (settle records)

/-! ### Text -/

/-- A text with spaces after it, up to so many characters. -/
def padded (text : String) (width : Nat) : String :=
  text ++ String.ofList (List.replicate (width - text.length) ' ')

/-- The line of a field. -/
def line (width : Nat) (f : Field) : String :=
  padded f.name width ++ "  " ++ f.typeName ++ (if f.nullable then " (nullable)" else "") ++ "\n"

/-- A line for each field; the names take the width of the longest one in bytes. -/
def lines (fields : List Field) : String :=
  let width := (fields.map fun f => f.name.utf8ByteSize).foldl max 0
  String.join (fields.map (line width))

end Field

/-- What loads and describes tables. -/
structure Source where
  load : SourceKind → String → Except LoadError (List Record)
  describe : String → Except LoadError (List Field)

/-- A source that describes no table. -/
def Source.undescribed (load : SourceKind → String → Except LoadError (List Record)) : Source :=
  ⟨load, fun name => .error (.undescribed name)⟩

/-- A source that describes the tables it loads as files. -/
def Source.described (load : SourceKind → String → Except LoadError (List Record)) : Source :=
  ⟨load, fun name => (load .file name).map Field.ofRecords⟩

end RowQuery
