/-
# Tables in files

A name is the path of a file, or the path without one of the endings `.csv`,
`.json` and `.jsonl`. The ending tells how a file is read. A file with any other
ending is read as JSON if its first character that is not blank opens an array or
an object, and as CSV otherwise.

A JSON file is an array of records or has a record on each line.

Key definitions: `Files`, `Files.ofList`, `Files.resolve?`, `Source.directory`.
-/
import RowQuery.Csv.Reader
import RowQuery.Json.Reader
import RowQuery.Source
import RowQuery.Text.Search

namespace RowQuery

/-- The contents of files by their paths. -/
abbrev Files := String → Option (List UInt8)

/-! ### Paths -/

namespace Path

/-- The steps of a path from one directory to the next. -/
def components (path : String) : List String := (Text.split '/' path.toList).map String.ofList

/-- A step that leads nowhere else. -/
def isIdle (component : String) : Bool := component == "" || component == "."

/-- A path without idle steps at its front. -/
def plain (path : String) : String := "/".intercalate ((components path).dropWhile isIdle)

/-- What follows the last point of a file's name; nothing if the name has no point but in front. -/
def extension? (path : String) : Option String :=
  let name := ((Text.split '/' path.toList).getLast?.getD []).reverse
  match name.dropWhile (· != '.') with
  | _ :: _ :: _ => some (String.ofList (name.takeWhile (· != '.')).reverse)
  | _ => none

end Path

/-! ### Directories -/

namespace Files

/-- Whether a place in a tree of files is a directory: the root, or one on the way to a file. -/
def isDirectory (paths : List (List String)) (place : List String) : Bool :=
  place.isEmpty || paths.any fun path => place.isPrefixOf path && place.length < path.length

/-- Where some steps lead from a place in a tree of files. Every step is from a directory, and none
is out of the root. -/
def walk (paths : List (List String)) : List String → List String → Option (List String)
  | place, [] => some place
  | place, c :: rest =>
    if !isDirectory paths place then none
    else if Path.isIdle c then walk paths place rest
    else if c = ".." then
      if place.isEmpty then none else walk paths place.dropLast rest
    else walk paths (place ++ [c]) rest

/-- The files of a directory tree that holds nothing else. Absolute paths lead out of it. -/
def ofList (files : List (String × List UInt8)) : Files := fun path =>
  if path.startsWith "/" then none
  else
    let entries := files.map fun (path, bytes) => (Path.components path, bytes)
    (walk (entries.map Prod.fst) [] (Path.components path)).bind fun place => entries.lookup place

/-- The paths that a name may stand for, the likeliest first. -/
def candidates (name : String) : List String :=
  name :: ["csv", "json", "jsonl"].map fun ending => name ++ "." ++ ending

/-- The path that a name stands for. -/
def resolve? (files : Files) (name : String) : Option String :=
  (candidates name).find? fun path => (files path).isSome

end Files

/-! ### Contents -/

/-- The records of a JSON text. -/
def Json.records? (text : List Char) : Option (List Record) :=
  if (Text.trimStart text).head? = some '[' then (Json.read? text).map Json.Document.toTable
  else
    let lines := (Text.split '\n' text).filter fun line => !(Text.trim line).isEmpty
    lines.mapM fun line => (Json.read? line).map Json.Document.toRecord

namespace FileFormat

/-- The rows of a CSV file. -/
def readCsv (name : String) (bytes : List UInt8) : Except LoadError (List Record) :=
  match Csv.read? bytes with
  | some rows => .ok rows
  | none => .error (.malformedCsv name)

/-- The rows of a JSON text. -/
def readJson (name : String) (text : List Char) : Except LoadError (List Record) :=
  match Json.records? text with
  | some rows => .ok rows
  | none => .error (.malformedJson name)

/-- The text of a file. -/
def decode (name : String) (bytes : List UInt8) : Except LoadError (List Char) :=
  match Text.decode? bytes with
  | some text => .ok text.toList
  | none => .error (.notText name)

/-- Whether a text looks like JSON. -/
def looksLikeJson (text : List Char) : Bool :=
  match (Text.trimStart text).head? with
  | some c => c == '[' || c == '\x7b'
  | none => false

/-- The rows of a file, whose path tells how it is read. -/
def read (path name : String) (bytes : List UInt8) : Except LoadError (List Record) :=
  match (Path.extension? path).map Text.asciiLower with
  | some "csv" => readCsv name bytes
  | some "json" => do readJson name (← decode name bytes)
  | some "jsonl" => do readJson name (← decode name bytes)
  | some "ndjson" => do readJson name (← decode name bytes)
  | _ => do
    let text ← decode name bytes
    if looksLikeJson text then readJson name text else readCsv name bytes

end FileFormat

/-- The rows of the file that a name stands for. -/
def Files.load (files : Files) (kind : SourceKind) (name : String) :
    Except LoadError (List Record) :=
  match files.resolve? name with
  | some path => FileFormat.read path name ((files path).getD [])
  | none => .error (.notFound kind name)

/-- The tables of a directory of files. -/
def Source.directory (files : Files) : Source := .described files.load

end RowQuery
