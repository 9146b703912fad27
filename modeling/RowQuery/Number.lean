/-
# Numbers

A number is a 64-bit integer or a binary floating-point number. Arithmetic stays
with integers while the result is one; other results are computed in decimal,
so that a tenth and two tenths make three tenths, and in binary where decimals
do not reach. What has no finite result has none.

Key definitions: `Number`, `Number.compare`, `Number.add?`, `Number.sub?`,
`Number.mul?`, `Number.div?`, `Number.abs?`, `Number.round?`.
-/
import RowQuery.Number.ScaledDecimal
import RowQuery.Number.Shortest

namespace RowQuery

/-- An integer or a floating-point number. -/
inductive Number where
  | integer (n : Int64)
  | float (x : Binary64)
  deriving DecidableEq

namespace Number

/-- The floating-point number nearest to a number. -/
def toBinary64 : Number → Binary64
  | .integer n => .ofInt n.toInt
  | .float x => x

/-! ### Text -/

/-- The text of a floating-point number. Whole numbers below `10 ^ 15` have the text of the
integer, so that `1.0` and `1` have one; the negative zero is `0`. -/
def floatText (x : Binary64) : List Char :=
  match x.toInt? with
  | some n => if n.natAbs < 10 ^ 15 then Numeral.ofInt n else x.text
  | none => x.text

/-- The text of a number, one for all ways to store a small whole number. -/
def text : Number → List Char
  | .integer n => Numeral.ofInt n.toInt
  | .float x => floatText x

/-! ### Order -/

/-- How two numbers compare. Two integers compare exactly, others as floating-point numbers;
not-a-number is equal to everything. -/
def compare : Number → Number → Ordering
  | .integer a, .integer b => Ord.compare a.toInt b.toInt
  | a, b => (a.toBinary64.compare b.toBinary64).getD .eq

/-! ### Arithmetic -/

/-- A decimal as a number: an integer if it is one of 64 bits. -/
def ofDecimal (d : ScaledDecimal) : Number :=
  match if d.isInteger then d.toInt64? else none with
  | some n => .integer n
  | none => .float d.toBinary64

/-- A finite floating-point number, as a number. -/
def ofFinite? (x : Binary64) : Option Number :=
  if x.isFinite then some (.float x) else none

/-- An operation on floating-point numbers: in decimal if both have one and so does the result,
else in binary if the result is finite. -/
def viaDecimal? (decimal : ScaledDecimal → ScaledDecimal → Option ScaledDecimal)
    (binary : Binary64 → Binary64 → Binary64) (x y : Binary64) : Option Number :=
  let exact := do decimal (← ScaledDecimal.ofBinary64? x) (← ScaledDecimal.ofBinary64? y)
  match exact with
  | some d => some (ofDecimal d)
  | none => ofFinite? (binary x y)

/-- An operation whose integer result is taken when it fits 64 bits. -/
def exactOr? (exact : Int → Int → Int)
    (decimal : ScaledDecimal → ScaledDecimal → Option ScaledDecimal)
    (binary : Binary64 → Binary64 → Binary64) (a b : Number) : Option Number :=
  let inexact := viaDecimal? decimal binary a.toBinary64 b.toBinary64
  match a, b with
  | .integer m, .integer n =>
    match int64OfInt? (exact m.toInt n.toInt) with
    | some r => some (.integer r)
    | none => inexact
  | _, _ => inexact

def add? : Number → Number → Option Number := exactOr? (· + ·) ScaledDecimal.add? (· + ·)

def sub? : Number → Number → Option Number := exactOr? (· - ·) ScaledDecimal.sub? (· - ·)

def mul? : Number → Number → Option Number := exactOr? (· * ·) ScaledDecimal.mul? (· * ·)

/-- The quotient; a zero divisor has none. Integers that divide have an integer quotient if it
fits 64 bits, other integers the quotient of the floating-point numbers nearest to them. -/
def div? : Number → Number → Option Number
  | .integer m, .integer n =>
    if n = 0 then none
    else
      let exact := if n.toInt ∣ m.toInt then int64OfInt? (m.toInt / n.toInt) else none
      match exact with
      | some r => some (.integer r)
      | none => some (.float (.ofInt m.toInt / .ofInt n.toInt))
  | a, b =>
    let y := b.toBinary64
    if y.isZero then none else viaDecimal? ScaledDecimal.div? (· / ·) a.toBinary64 y

/-- The magnitude; the least integer of 64 bits has none. -/
def abs? : Number → Option Number
  | .integer n => (int64OfInt? n.toInt.natAbs).map .integer
  | .float x => some (.float x.abs)

/-- The number with at most so many digits after the point, a half going away from zero; with
none, an integer of 64 bits if it is one. A number that has no decimal has no rounding. -/
def round? : Number → Nat → Option Number
  | .integer n, _ => some (.integer n)
  | .float x, digits => (ScaledDecimal.ofBinary64? x).map fun d =>
    let rounded := d.round digits
    match if digits = 0 then rounded.toInt64? else none with
    | some n => .integer n
    | none => .float rounded.toBinary64

end Number

end RowQuery
