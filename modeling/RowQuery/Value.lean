/-
# Values

What a cell holds. Every kind of value has a text and a truth; some have a
number: numbers, and strings that write one. Two values that have a number
compare by it, others by their text.

Key definitions: `Value`, `Value.toNumber?`, `Value.isTrue`, `Value.typeName`.
-/
import RowQuery.Number
import RowQuery.Text.Blank
import RowQuery.Text.Case

namespace RowQuery

/-- What a cell holds. The fields of an object are in the order of their names. -/
inductive Value where
  | null
  | boolean (b : Bool)
  | number (n : Number)
  | string (s : String)
  | array (items : List Value)
  | object (fields : List (String × Value))
  deriving Inhabited

namespace Value

/-- An integer as a value. -/
@[match_pattern]
abbrev integer (n : Int64) : Value := .number (.integer n)

/-- A floating-point number as a value. -/
@[match_pattern]
abbrev float (x : Binary64) : Value := .number (.float x)

/-! ### Objects -/

/-- Fields in order of their names, with one more; a field of the same name is replaced. -/
def insertField (name : String) (value : Value) : List (String × Value) → List (String × Value)
  | [] => [(name, value)]
  | (n, v) :: rest =>
    if name = n then (name, value) :: rest
    else if name < n then (name, value) :: (n, v) :: rest
    else (n, v) :: insertField name value rest

/-- The object with the given fields; of several with one name the last. -/
def ofFields (fields : List (String × Value)) : Value :=
  .object (fields.foldl (fun sorted (name, value) => insertField name value sorted) [])

/-! ### Kinds -/

def isNull : Value → Bool
  | .null => true
  | _ => false

/-- The name of a kind of value, integers and floating-point numbers apart. -/
def typeName : Value → String
  | .null => "null"
  | .boolean _ => "boolean"
  | .integer _ => "integer"
  | .float _ => "float"
  | .string _ => "string"
  | .array _ => "array"
  | .object _ => "object"

/-! ### Coercions -/

/-- The truth of a value as a condition. Zero, the empty string, `"0"` and the word false in any
case are false; not-a-number is true. -/
def isTrue : Value → Bool
  | .null => false
  | .boolean b => b
  | .integer n => n != 0
  | .float x => !x.isZero
  | .string s => !(s == "" || Text.asciiLower s == "false" || s == "0")
  | .array items => !items.isEmpty
  | .object fields => !fields.isEmpty

/-- The number that a string writes between blanks: a 64-bit integer if it can be one, else a
finite floating-point number. -/
def numberOfString? (s : String) : Option Number :=
  let text := Text.trim s.toList
  match Numeral.int64? text with
  | some n => some (.integer n)
  | none => (Numeral.binary64? text).bind Number.ofFinite?

/-- The number of a value: its own, or the one that a string writes. -/
def toNumber? : Value → Option Number
  | .number n => some n
  | .string s => numberOfString? s
  | _ => none

/-- The floating-point number nearest to a number; strings have none. -/
def toBinary64? : Value → Option Binary64
  | .number n => some n.toBinary64
  | _ => none

end Value

end RowQuery
