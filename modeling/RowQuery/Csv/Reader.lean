/-
# Reading CSV

Fields stand between commas, records end with a line feed, a carriage return or
both. A field that starts with a quote goes on to the next quote, and a quote
within it is written twice; what follows the closing quote belongs to the field
too. A quote elsewhere is a character like any other. Empty lines are no records.

The first record names the columns. All others must have as many fields, and
their values stay texts.

Key definitions: `Csv.Reading`, `Csv.split`, `Csv.read?`.
-/
import RowQuery.Record
import RowQuery.Text.Utf8

namespace RowQuery.Csv

/-- A field as it is stored. -/
abbrev Field := List UInt8

def comma : UInt8 := 44

def quote : UInt8 := 34

def lineFeed : UInt8 := 10

def carriageReturn : UInt8 := 13

/-- The mark that a text in UTF-8 may start with. -/
def byteOrderMark : List UInt8 := [0xEF, 0xBB, 0xBF]

/-- A byte that ends a record. -/
def endsRecord (b : UInt8) : Bool := b == lineFeed || b == carriageReturn

/-- Where in a record a byte stands. -/
inductive Position where
  | recordStart
  | fieldStart
  | plain
  | quoted
  /-- After a quote in a quoted field: the first of two, or the closing one. -/
  | quoteSeen
  deriving DecidableEq, Repr

/-- What was read so far, everything in it last first. -/
structure Reading where
  position : Position
  field : List UInt8
  fields : List Field
  records : List (List Field)

namespace Reading

def start : Reading := ⟨.recordStart, [], [], []⟩

/-- One more byte of the field. -/
def append (r : Reading) (position : Position) (b : UInt8) : Reading :=
  { r with position, field := b :: r.field }

/-- The end of the field. -/
def endField (r : Reading) : Reading :=
  { r with position := .fieldStart, field := [], fields := r.field.reverse :: r.fields }

/-- The end of the field and the record. -/
def endRecord (r : Reading) : Reading :=
  ⟨.recordStart, [], [], (r.field.reverse :: r.fields).reverse :: r.records⟩

/-- A byte where a field starts. -/
def stepStart (r : Reading) (b : UInt8) : Reading :=
  if b = quote then { r with position := .quoted }
  else if b = comma then r.endField
  else if endsRecord b then r.endRecord
  else r.append .plain b

/-- A byte in a field that is not between quotes. -/
def stepPlain (r : Reading) (b : UInt8) : Reading :=
  if b = comma then r.endField
  else if endsRecord b then r.endRecord
  else r.append .plain b

/-- What one more byte adds. -/
def step (r : Reading) (b : UInt8) : Reading :=
  match r.position with
  | .recordStart => if endsRecord b then r else r.stepStart b
  | .fieldStart => r.stepStart b
  | .plain => r.stepPlain b
  | .quoted => if b = quote then { r with position := .quoteSeen } else r.append .quoted b
  | .quoteSeen => if b = quote then r.append .quoted b else r.stepPlain b

/-- The records, when nothing follows. -/
def finish (r : Reading) : List (List Field) :=
  match r.position with
  | .recordStart => r.records.reverse
  | _ => r.endRecord.records.reverse

end Reading

/-- The bytes after a byte order mark. -/
def dropMark (bytes : List UInt8) : List UInt8 :=
  if byteOrderMark.isPrefixOf bytes then bytes.drop byteOrderMark.length else bytes

/-- The records of a text and their fields. -/
def split (bytes : List UInt8) : List (List Field) :=
  ((dropMark bytes).foldl Reading.step .start).finish

/-- The name of a column, without the blanks around it. -/
def header? (field : Field) : Option String := do
  return String.ofList (Text.trim (← Text.decode? field).toList)

/-- A record by the names of its columns. -/
def row? (headers : List String) (fields : List Field) : Option Record := do
  if fields.length ≠ headers.length then none
  let cells ← fields.mapM Text.decode?
  return .ofFields (headers.zip (cells.map .string))

/-- The rows of a table; none if a record has another number of fields than the first, or a field
is not text. -/
def read? (bytes : List UInt8) : Option (List Record) :=
  match split bytes with
  | [] => some []
  | first :: rest => do
    let headers ← first.mapM header?
    rest.mapM (row? headers)

end RowQuery.Csv
