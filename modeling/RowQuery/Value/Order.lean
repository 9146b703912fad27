/-
# Text and order of values

Every value has a text, which grouping and concatenation use and which decides
the order of values that are not both numbers. The key of a value is a text that
values equal in this order share, so that equal values can be found by it.

Key definitions: `Value.text`, `Value.compare`, `Value.key`.
-/
import RowQuery.Json.Writer

namespace RowQuery.Value

/-- The text of a value; null has the empty text. -/
def text : Value → String
  | .null => ""
  | .boolean b => if b then "true" else "false"
  | .number n => String.ofList n.text
  | .string s => s
  | .array items => Json.ofValue Json.compact (.array items)
  | .object fields => Json.ofValue Json.compact (.object fields)

/-- How two values compare: as numbers if both have one, else by their text. -/
def compare (a b : Value) : Ordering :=
  match a.toNumber?, b.toNumber? with
  | some m, some n => m.compare n
  | _, _ => Ord.compare a.text b.text

/-- The values are equal in the order of values. -/
def same (a b : Value) : Bool := a.compare b == .eq

/-- Integers up to this magnitude are floating-point numbers. -/
def exactLimit : Nat := 2 ^ 53

/-- A text shared by all equal values. An integer beyond the exact ones shares the key of the
floating-point number nearest to it; so one key may stand for integers that are not equal. -/
def key (v : Value) : String :=
  match v.toNumber? with
  | some (.integer n) =>
    if exactLimit < n.toInt.natAbs then
      String.ofList (Number.floatText (.ofInt n.toInt))
    else String.ofList (Numeral.ofInt n.toInt)
  | some (.float x) => String.ofList (Number.floatText x)
  | none => v.text

end RowQuery.Value
