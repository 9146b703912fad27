/-
# Decimals of 96 bits

A decimal is a sign, a mantissa below `2 ^ 96` and a scale of at most 28: the
number `mantissa / 10 ^ scale`. Sums, differences and products are exact when
they fit; otherwise the fewest digits are dropped, a half going to the even
neighbour, and a result whose whole part does not fit has no decimal. A binary
number comes in with at most 15 or 16 significant digits, so that `0.1` is
exactly one tenth.

Key definitions: `ScaledDecimal`, `ScaledDecimal.ofBinary64?`,
`ScaledDecimal.add?`, `ScaledDecimal.mul?`, `ScaledDecimal.div?`,
`ScaledDecimal.round`, `ScaledDecimal.toBinary64`.
-/
import RowQuery.Number.Binary64
import RowQuery.Number.Numeral

namespace RowQuery

/-- The number `mantissa / 10 ^ scale`, or its negative. -/
structure ScaledDecimal where
  negative : Bool
  mantissa : Nat
  scale : Nat
  deriving DecidableEq, Repr

namespace ScaledDecimal

/-- Mantissas are below this number. -/
def limit : Nat := 2 ^ 96

/-- The most digits after the point. -/
def maxScale : Nat := 28

def zero : ScaledDecimal := ⟨false, 0, 0⟩

/-- The signed mantissa. -/
def signed (d : ScaledDecimal) : Int :=
  if d.negative then -(d.mantissa : Int) else d.mantissa

/-! ### From binary to decimal

A mantissa times a power of two becomes a mantissa times a power of ten by
trading the factors two one at a time: `1 / 2 = 5 / 10` and `2 = 10 / 5`. -/

/-- Remove a number of halvings from `mantissa * 10 ^ exponent`. Once five times the mantissa
would not fit, the last bit is dropped instead. -/
def clearHalvings : Nat → Nat → Int → Nat × Int
  | 0, mantissa, exponent => (mantissa, exponent)
  | n + 1, mantissa, exponent =>
    if mantissa % 2 = 0 then clearHalvings n (mantissa / 2) (exponent + 1)
    else if mantissa * 5 < limit then clearHalvings n (mantissa * 5) exponent
    else clearHalvings n (mantissa / 2) (exponent + 1)

/-- Remove a number of doublings. Once twice the mantissa would not fit, it is divided by five,
unless the power of ten is already too large. -/
def clearDoublings : Nat → Nat → Int → Option (Nat × Int)
  | 0, mantissa, exponent => some (mantissa, exponent)
  | n + 1, mantissa, exponent =>
    if mantissa < 2 ^ 95 then clearDoublings n (mantissa * 2) (exponent - 1)
    else if exponent * 2 > n + 1 then none
    else clearDoublings n (mantissa / 5) exponent

/-- Drop a number of digits one at a time, rounding a half up; nothing is left of a mantissa
that reaches zero. -/
def dropDigits : Nat → Nat → Nat → Nat × Nat
  | 0, mantissa, scale => (mantissa, scale)
  | n + 1, mantissa, scale =>
    let quotient := mantissa / 10
    if quotient = 0 then (0, 0)
    else dropDigits n (if 5 ≤ mantissa % 10 then quotient + 1 else quotient) (scale - 1)

/-- Drop digits after the point until the mantissa is below `2 ^ 52`. -/
def dropExcess : Nat → Nat → Nat × Nat
  | mantissa, 0 => (mantissa, 0)
  | mantissa, scale + 1 =>
    if 2 ^ 52 ≤ mantissa then dropExcess ((mantissa + 5) / 10) scale else (mantissa, scale + 1)

/-- Drop zeros at the end, after the point. -/
def dropZeros : Nat → Nat → Nat × Nat
  | mantissa, 0 => (mantissa, 0)
  | mantissa, scale + 1 =>
    if mantissa % 10 = 0 then dropZeros (mantissa / 10) scale else (mantissa, scale + 1)

/-- A number of at most 16 digits for `mantissa * 10 ^ exponent`. -/
def ofPower? (negative : Bool) (mantissa : Nat) (exponent : Int) : Option ScaledDecimal :=
  if 0 < exponent then
    let whole := mantissa * 10 ^ exponent.toNat
    if whole < limit then some ⟨negative, whole, 0⟩ else none
  else
    let scale := (-exponent).toNat
    let (mantissa, scale) := dropDigits (scale - maxScale) mantissa scale
    let (mantissa, scale) := dropExcess mantissa scale
    let (mantissa, scale) := dropZeros mantissa scale
    some ⟨negative, mantissa, scale⟩

/-- The decimal that stands for a binary number: none for one that is not finite or too large. -/
def ofBinary64? : Binary64 → Option ScaledDecimal
  | .finite negative units _ =>
    if units = 0 then some ⟨negative, 0, 0⟩
    else
      let bits := Binary64.stepBits units
      let mantissa := units / 2 ^ bits
      if bits ≤ 1074 then
        let (mantissa, exponent) := clearHalvings (1074 - bits) mantissa (bits - 1074)
        ofPower? negative mantissa exponent
      else
        (clearDoublings (bits - 1074) mantissa (bits - 1074)).bind fun (mantissa, exponent) =>
          ofPower? negative mantissa exponent
  | _ => none

/-! ### Arithmetic -/

/-- The decimal nearest to `mantissa / 10 ^ scale` with the fewest digits dropped. -/
def fit? (negative : Bool) (mantissa scale : Nat) : Option ScaledDecimal :=
  (List.range (scale + 1)).findSome? fun dropped =>
    let rounded := Binary64.roundHalfEven mantissa (10 ^ dropped)
    if scale - dropped ≤ maxScale ∧ rounded < limit then some ⟨negative, rounded, scale - dropped⟩
    else none

/-- The sum. -/
def add? (x y : ScaledDecimal) : Option ScaledDecimal :=
  let scale := max x.scale y.scale
  let sum := x.signed * 10 ^ (scale - x.scale) + y.signed * 10 ^ (scale - y.scale)
  fit? (sum < 0) sum.natAbs scale

/-- The opposite number. -/
def neg (x : ScaledDecimal) : ScaledDecimal := { x with negative := !x.negative }

/-- The difference. -/
def sub? (x y : ScaledDecimal) : Option ScaledDecimal := x.add? y.neg

/-- The product. -/
def mul? (x y : ScaledDecimal) : Option ScaledDecimal :=
  if x.mantissa = 0 ∨ y.mantissa = 0 then some zero
  else fit? (x.negative ^^ y.negative) (x.mantissa * y.mantissa) (x.scale + y.scale)

/-! ### Division

A quotient grows by digits of the remainder, nine at most at a time, for as long as they fit. -/

/-- How many more digits, nine at most, there is room for after those of a quotient. -/
def room (quotient : Nat) (scale : Int) : Nat :=
  ((List.range' 1 9).takeWhile fun (k : Nat) =>
    quotient * 10 ^ k < limit ∧ scale + k ≤ maxScale).length

/-- Give up the last digit of a mantissa that does not fit. A half goes to the even neighbour,
and up if a remainder lies beyond it; a digit before the point cannot be given up. -/
def dropLast? (mantissa : Nat) (scale : Int) (beyond : Bool) : Option (Nat × Int) :=
  let quotient := mantissa / 10
  let digit := mantissa % 10
  let up := 5 < digit ∨ digit = 5 ∧ (beyond ∨ quotient % 2 = 1)
  if scale < 1 then none else some (if up then quotient + 1 else quotient, scale - 1)

/-- A quotient whose remainder has no room for digits, rounded to the nearest, a half going to
the even neighbour. -/
def roundQuotient? (quotient remainder divisor : Nat) (scale : Int) : Option (Nat × Int) :=
  let up := divisor < 2 * remainder ∨ divisor = 2 * remainder ∧ quotient % 2 = 1
  if !up then some (quotient, scale)
  else if quotient + 1 < limit then some (quotient + 1, scale)
  else dropLast? (quotient + 1) scale true

/-- Extend a quotient by digits until nothing remains and it has no zeros to fill in before the
point, or until there is no room. The number of steps bounds the work. -/
def extend? (divisor : Nat) : Nat → Nat → Nat → Int → Option (Nat × Int)
  | 0, _, _, _ => none
  | n + 1, quotient, remainder, scale =>
    if remainder = 0 ∧ 0 ≤ scale then some (quotient, scale)
    else
      let digits := if remainder = 0 then min 9 (-scale).toNat else room quotient scale
      let extended := quotient * 10 ^ digits + remainder * 10 ^ digits / divisor
      if remainder = 0 then
        if extended < limit then extend? divisor n extended 0 (scale + digits) else none
      else if digits < 9 ∧ scale + digits < 0 then none
      else if digits = 0 then roundQuotient? quotient remainder divisor scale
      else
        let remainder := remainder * 10 ^ digits % divisor
        if extended < limit then extend? divisor n extended remainder (scale + digits)
        else dropLast? extended (scale + digits) (remainder != 0)

/-- The blocks of zeros that may be dropped at the end of a quotient, in order: so many digits,
from a mantissa with so many zero bits at its end. -/
def zeroBlocks : List (Nat × Nat) := [(8, 32), (8, 32), (8, 32), (4, 4), (2, 2), (1, 1)]

/-- Drop zeros at the end, block by block; some may be left. -/
def dropZeroBlocks (mantissa scale : Nat) : Nat × Nat :=
  zeroBlocks.foldl (fun (mantissa, scale) (digits, bits) =>
    if digits ≤ scale ∧ mantissa % 2 ^ bits = 0 ∧ mantissa % 10 ^ digits = 0 then
      (mantissa / 10 ^ digits, scale - digits)
    else (mantissa, scale)) (mantissa, scale)

/-- The quotient, with as many digits as fit; a zero divisor has none. Zeros are dropped at the
end of a quotient that needed digits of a remainder. -/
def div? (x y : ScaledDecimal) : Option ScaledDecimal :=
  if y.mantissa = 0 then none
  else if x.mantissa = 0 then some zero
  else
    let scale := (x.scale : Int) - y.scale
    let remainder := x.mantissa % y.mantissa
    (extend? y.mantissa (maxScale - scale + 1).toNat (x.mantissa / y.mantissa) remainder scale).map
      fun (mantissa, scale) =>
        let (mantissa, scale) :=
          if remainder = 0 then (mantissa, scale.toNat) else dropZeroBlocks mantissa scale.toNat
        ⟨x.negative ^^ y.negative, mantissa, scale⟩

/-- At most so many digits after the point, a half going away from zero. Zero takes on the digits
that are asked for, and has no sign. -/
def round (x : ScaledDecimal) (digits : Nat) : ScaledDecimal :=
  if x.mantissa = 0 then ⟨false, 0, min digits maxScale⟩
  else if x.scale ≤ digits then x
  else
    let unit := 10 ^ (x.scale - digits)
    let mantissa := (x.mantissa + unit / 2) / unit
    ⟨x.negative && mantissa != 0, mantissa, digits⟩

/-! ### Back to binary -/

/-- Nothing but zeros after the point. -/
def isInteger (x : ScaledDecimal) : Bool := x.mantissa % 10 ^ x.scale == 0

/-- The whole part, if it fits 64 bits. -/
def toInt64? (x : ScaledDecimal) : Option Int64 :=
  let whole := x.mantissa / 10 ^ x.scale
  int64OfInt? (if x.negative then -(whole : Int) else whole)

/-- The binary number for a decimal. The whole part and the fraction are converted on their own
and added, and the sum is rounded to the scale once more. -/
def toBinary64 (x : ScaledDecimal) : Binary64 :=
  if x.scale = 0 then .ofInt x.signed
  else
    let power := 10 ^ x.scale
    let whole := Binary64.ofRatio false (x.mantissa / power) 1
    let fraction := Binary64.ofRatio false (x.mantissa % power) 1 / .ofRatio false power 1
    let value :=
      if fraction.isZero then whole
      else
        let scale := Binary64.ofRatio false power 1
        ((whole + fraction) * scale).round / scale
    if x.negative then -value else value

end ScaledDecimal

end RowQuery
