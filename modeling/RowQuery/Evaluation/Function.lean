/-
# Functions

The functions of one row's values. A function that does not exist, or is called
with another number of arguments, gives null.

Key definitions: `Function`, `Function.apply`, `Function.call`.
-/
import RowQuery.Pattern.Parser
import RowQuery.Pattern.Search
import RowQuery.Text.Search
import RowQuery.Value.Order

namespace RowQuery

/-- The functions. -/
inductive Function where
  | coalesce
  | concat
  /-- The second or the third argument, as the first is true or not. -/
  | choose
  | substring
  | length
  | upper
  | lower
  | trim
  | abs
  | round
  | replace
  | regexpLike
  deriving DecidableEq, Repr

namespace Function

/-- The function of a name in capitals. -/
def ofName? : String → Option Function
  | "COALESCE" => some .coalesce
  | "CONCAT" => some .concat
  | "IF" => some .choose
  | "SUBSTR" => some .substring
  | "SUBSTRING" => some .substring
  | "LENGTH" => some .length
  | "LEN" => some .length
  | "UPPER" => some .upper
  | "LOWER" => some .lower
  | "TRIM" => some .trim
  | "ABS" => some .abs
  | "ROUND" => some .round
  | "REPLACE" => some .replace
  | "REGEXP_LIKE" => some .regexpLike
  | _ => none

/-! ### Texts -/

/-- A function of a value's text; null stays null. -/
def onText (f : List Char → Value) : Value → Value
  | .null => .null
  | v => f v.text.toList

def ofChars (text : List Char) : Value := .string (String.ofList text)

/-- A value that is neither null nor the empty text. -/
def isPresent : Value → Bool
  | .null => false
  | .string s => s != ""
  | _ => true

/-- A text after its first `skip` characters, and at most so many of those left. -/
def slice (text : List Char) (skip : Nat) : Option Int → List Char
  | none => text.drop skip
  | some count => (text.drop skip).take count.toNat

/-- Part of a value's text, from a place on that is counted from one. The place must be an integer;
outside of the text there is only the empty text. The number of characters must be an integer too;
a negative one gives the empty text. -/
def substringOf (v start : Value) (count : Option Value) : Value :=
  onText (fun text =>
    match start.toNumber? with
    | some (.integer s) =>
      let place := s.toInt
      if place < 1 ∨ (text.length : Int) < place then .string ""
      else
        let skip := place.toNat - 1
        match count with
        | none => ofChars (slice text skip none)
        | some c =>
          match c.toNumber? with
          | some (.integer n) => ofChars (slice text skip (some n.toInt))
          | _ => .null
    | _ => .null) v

/-- Every occurrence of a text replaced; the empty text occurs nowhere. -/
def replaceIn (v part new : Value) : Value :=
  match v with
  | .null => .null
  | v =>
    if part.text.isEmpty then v
    else ofChars (Text.replace part.text.toList new.text.toList v.text.toList)

/-- Whether the text of a value matches a pattern; null if it is null or the pattern is none. -/
def matchPattern (v pattern : Value) : Value :=
  match Pattern.ofText? pattern.text.toList with
  | some p => onText (fun text => .boolean (p.search text)) v
  | none => .null

/-! ### Numbers -/

/-- A function of a value's number. -/
def onNumber (f : Number → Option Number) (v : Value) : Value :=
  match v.toNumber?.bind f with
  | some n => .number n
  | none => .null

/-- A number of digits counts modulo this number. -/
def digitsModulus : Nat := 2 ^ 32

/-- The number of digits to round to: a natural number. -/
def digits? (v : Value) : Option Nat :=
  match v.toNumber? with
  | some (.integer d) => if 0 ≤ d.toInt then some (d.toInt.toNat % digitsModulus) else none
  | _ => none

/-! ### Calls -/

/-- The value of a function. -/
def apply : Function → List Value → Value
  | .coalesce, args => (args.find? isPresent).getD .null
  | .concat, args => .string (String.join (args.map Value.text))
  | .choose, [condition, yes, no] => if condition.isTrue then yes else no
  | .substring, [v, start] => substringOf v start none
  | .substring, [v, start, count] => substringOf v start (some count)
  | .length, [v] => onText (fun text => .integer (Int64.ofNat text.length)) v
  | .upper, [v] => onText (fun text => ofChars (Text.upper text)) v
  | .lower, [v] => onText (fun text => ofChars (Text.lower text)) v
  | .trim, [v] => onText (fun text => ofChars (Text.trim text)) v
  | .abs, [v] => onNumber Number.abs? v
  | .round, [v] => onNumber (·.round? 0) v
  | .round, [v, digits] =>
    match digits? digits with
    | some d => onNumber (·.round? d) v
    | none => .null
  | .replace, [v, part, new] => replaceIn v part new
  | .regexpLike, [v, pattern] => matchPattern v pattern
  | _, _ => .null

/-- The value of a call by the function's name. -/
def call (name : String) (args : List Value) : Value :=
  match ofName? name with
  | some f => f.apply args
  | none => .null

end Function

end RowQuery
