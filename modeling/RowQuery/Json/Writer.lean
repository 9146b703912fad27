/-
# JSON text of values and records

A style says whether the text is laid out over lines, and whether it is
canonical. Canonical text is the same for all records with the same columns and
values: columns are in the order of their names, and whole numbers have one
spelling. Other text keeps the order of columns, and writes numbers that are not
finite as null.

Key definitions: `Json.Style`, `Json.ofValue`, `Json.ofRecord`,
`Json.ofRecords`, `Record.canonical`.
-/
import RowQuery.Record

namespace RowQuery

namespace Json

/-- How JSON is written. -/
structure Style where
  /-- One item to a line, indented by its depth. -/
  pretty : Bool
  /-- One text for equal records. -/
  canonical : Bool

/-- All on one line. -/
def compact : Style := ⟨false, false⟩

/-- One item to a line. -/
def pretty : Style := ⟨true, false⟩

/-- The identity of a record. -/
def canonical : Style := ⟨false, true⟩

/-! ### Strings -/

/-- A control character: below 32, or 127 to 159. -/
def isControl (c : Char) : Bool := c.toNat < 32 || (127 ≤ c.toNat && c.toNat ≤ 159)

/-- Four hexadecimal digits. -/
def hex4 (n : Nat) : List Char :=
  [n / 4096 % 16, n / 256 % 16, n / 16 % 16, n % 16].map Nat.digitChar

/-- A character between quotes. -/
def escapeChar (c : Char) : List Char :=
  if c = '"' then ['\\', '"']
  else if c = '\\' then ['\\', '\\']
  else if c = '\n' then ['\\', 'n']
  else if c = '\r' then ['\\', 'r']
  else if c = '\t' then ['\\', 't']
  else if isControl c then '\\' :: 'u' :: hex4 c.toNat
  else [c]

/-- A quoted string. -/
def quote (s : String) : List Char := '"' :: (s.toList.flatMap escapeChar ++ ['"'])

/-! ### Layout -/

/-- Two spaces for each level. -/
def indentation (level : Nat) : List Char := List.replicate (2 * level) ' '

/-- Texts with a separator between them. -/
def join (separator : List Char) : List (List Char) → List Char
  | [] => []
  | [item] => item
  | item :: rest => item ++ separator ++ join separator rest

/-- Items between brackets, at a level of indentation. -/
def wrap (style : Style) (opening closing : Char) (items : List (List Char)) (level : Nat) :
    List Char :=
  if items.isEmpty then [opening, closing]
  else if style.pretty then
    let inner := join [',', '\n'] (items.map fun item => indentation (level + 1) ++ item)
    opening :: '\n' :: (inner ++ '\n' :: (indentation level ++ [closing]))
  else opening :: (join [','] items ++ [closing])

/-- A name and a value. -/
def pair (style : Style) (name : String) (value : List Char) : List Char :=
  quote name ++ (if style.pretty then [':', ' '] else [':']) ++ value

/-! ### Values -/

/-- A number. Canonical text does not tell a whole floating-point number from the integer. -/
def ofNumber (style : Style) : Number → List Char
  | .integer n => Numeral.ofInt n.toInt
  | .float x =>
    if style.canonical then Number.floatText x
    else if x.isFinite then x.text
    else ['n', 'u', 'l', 'l']

mutual

/-- A value at a level of indentation. -/
def ofValueAt (style : Style) : Value → Nat → List Char
  | .null, _ => ['n', 'u', 'l', 'l']
  | .boolean true, _ => ['t', 'r', 'u', 'e']
  | .boolean false, _ => ['f', 'a', 'l', 's', 'e']
  | .number n, _ => ofNumber style n
  | .string s, _ => quote s
  | .array items, level => wrap style '[' ']' (itemsAt style items (level + 1)) level
  | .object fields, level => wrap style '\x7b' '\x7d' (fieldsAt style fields (level + 1)) level

/-- The items of an array. -/
def itemsAt (style : Style) : List Value → Nat → List (List Char)
  | [], _ => []
  | item :: rest, level => ofValueAt style item level :: itemsAt style rest level

/-- The fields of an object. -/
def fieldsAt (style : Style) : List (String × Value) → Nat → List (List Char)
  | [], _ => []
  | (name, value) :: rest, level =>
    pair style name (ofValueAt style value level) :: fieldsAt style rest level

end

/-- The text of a value. -/
def ofValue (style : Style) (value : Value) : String := String.ofList (ofValueAt style value 0)

/-! ### Records -/

/-- Columns in the order of their names. -/
def sortFields (fields : List (String × Value)) : List (String × Value) :=
  fields.mergeSort fun a b => decide (a.1 ≤ b.1)

/-- A record at a level of indentation. -/
def ofRecordAt (style : Style) (r : Record) (level : Nat) : List Char :=
  let fields := if style.canonical then sortFields r.fields else r.fields
  wrap style '\x7b' '\x7d' (fieldsAt style fields (level + 1)) level

/-- The text of a record. -/
def ofRecord (style : Style) (r : Record) : String := String.ofList (ofRecordAt style r 0)

/-- The text of a list of records. -/
def ofRecords (style : Style) (rows : List Record) : String :=
  String.ofList (wrap style '[' ']' (rows.map fun r => ofRecordAt style r 1) 0)

end Json

/-- The identity of a record: rows with one canonical text are the same row. -/
def Record.canonical (r : Record) : String := Json.ofRecord Json.canonical r

end RowQuery
