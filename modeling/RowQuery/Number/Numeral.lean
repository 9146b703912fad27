/-
# Numbers written in text

An integer is an optional sign and decimal digits, within 64 bits. A fractional
number is an optional sign, digits with an optional point and at least one
digit, and an optional exponent after `e` or `E`; it reads as the nearest
binary number. The words `inf`, `infinity` and `nan` are numbers too, in any
case and with a sign. Nothing else is a number: no blanks, no digit groups.

Key definitions: `Numeral.int64?`, `Numeral.binary64?`.
-/
import RowQuery.Number.Binary64

namespace RowQuery

/-- An integer as a 64-bit word, if it fits. -/
def int64OfInt? (n : Int) : Option Int64 :=
  if -2 ^ 63 ≤ n ∧ n < 2 ^ 63 then some (Int64.ofInt n) else none

namespace Numeral

/-- The natural that decimal digits write. -/
def ofDigits (digits : List Char) : Nat := Nat.ofDigitChars 10 digits 0

/-- Whether a text is negative, and the text after its sign. -/
def splitSign : List Char → Bool × List Char
  | '-' :: rest => (true, rest)
  | '+' :: rest => (false, rest)
  | text => (false, text)

/-- One or more decimal digits, as the natural they write. -/
def natural? (text : List Char) : Option Nat :=
  if text.isEmpty || !text.all Char.isDigit then none else some (ofDigits text)

/-- The integer that a whole text writes: an optional sign, then digits. -/
def integer? (text : List Char) : Option Int :=
  let (negative, digits) := splitSign text
  (natural? digits).map fun n => if negative then -(n : Int) else n

/-- The 64-bit integer that a whole text writes. -/
def int64? (text : List Char) : Option Int64 :=
  (integer? text).bind int64OfInt?

/-- The words for the numbers that have no digits. -/
def special? (negative : Bool) (text : List Char) : Option Binary64 :=
  let word := String.ofList (text.map Char.toLower)
  if word = "inf" ∨ word = "infinity" then some (.infinite negative)
  else if word = "nan" then some .notANumber
  else none

/-- The power of ten after the digits: nothing, or `e` and an integer. -/
def exponent? : List Char → Option Int
  | [] => some 0
  | mark :: rest => if mark = 'e' ∨ mark = 'E' then integer? rest else none

/-- The leading digits of a text, and the text after them. -/
def splitDigits (text : List Char) : List Char × List Char :=
  (text.takeWhile Char.isDigit, text.dropWhile Char.isDigit)

/-- The digits after the point, and the text after them. -/
def splitFraction : List Char → List Char × List Char
  | '.' :: rest => splitDigits rest
  | text => ([], text)

/-- The number that a whole text writes, nearest if it writes none of the format. -/
def binary64? (text : List Char) : Option Binary64 :=
  let (negative, body) := splitSign text
  let (whole, rest) := splitDigits body
  let (fraction, rest) := splitFraction rest
  if whole.isEmpty && fraction.isEmpty then special? negative body
  else (exponent? rest).map fun e =>
    .ofDecimal negative (ofDigits (whole ++ fraction)) (e - fraction.length)

/-- The decimal text of an integer. -/
def ofInt (n : Int) : List Char :=
  if n < 0 then '-' :: Nat.toDigits 10 n.natAbs else Nat.toDigits 10 n.natAbs

end Numeral

end RowQuery
