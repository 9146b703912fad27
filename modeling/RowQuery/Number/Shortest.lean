/-
# The shortest decimal of a binary number

The reals that round to a number form an interval around it: halfway to either
neighbour, the ends included when the number's last bit is even. Its shortest
decimal is found on ever finer decimal grids: the first grid that has a point
in the interval holds it. Of two points of that grid the nearer is taken, and
the larger when both are equally near.

The text is positional always: no exponent, zeros up to the point, no point
after a whole number.

Key definitions: `Binary64.readsBack`, `Binary64.shortest`, `Binary64.text`.
-/
import RowQuery.Number.Binary64

namespace RowQuery

/-- `digits * 10 ^ exponent`. -/
structure DecimalDigits where
  digits : Nat
  exponent : Int
  deriving DecidableEq, Repr

namespace Binary64

/-! ### The interval -/

/-- Half the distance to the next larger number, in quarter units. -/
def gapAbove (units : Nat) : Nat := 2 * 2 ^ stepBits units

/-- Half the distance to the next smaller number, in quarter units: below a power of two the
numbers lie twice as dense. -/
def gapBelow (units : Nat) : Nat :=
  if units = 2 ^ units.log2 ∧ 52 < units.log2 then 2 ^ stepBits units else 2 * 2 ^ stepBits units

/-- The last significant bit is zero. -/
def isEven (units : Nat) : Bool := units / 2 ^ stepBits units % 2 == 0

/-- The decimal `point * 10 ^ exponent` rounds to the number of so many units. -/
def readsBack (units point : Nat) (exponent : Int) : Bool :=
  let low := (4 * units - gapBelow units) * 10 ^ (-exponent).toNat
  let high := (4 * units + gapAbove units) * 10 ^ (-exponent).toNat
  let scaled := 4 * point * one * 10 ^ exponent.toNat
  if isEven units then low ≤ scaled && scaled ≤ high else low < scaled && scaled < high

/-! ### The search -/

/-- The least `k` such that the number is below `10 ^ k`. -/
def magnitude (units : Nat) : Int :=
  if one ≤ units then (Nat.toDigits 10 (units / one)).length
  else 1 - ((Nat.toDigits 10 ((one - 1) / units)).length : Int)

/-- The point of the grid `10 ^ exponent` that stands for the number, if one rounds to it. -/
def gridPoint? (units : Nat) (exponent : Int) : Option DecimalDigits :=
  let num := units * 10 ^ (-exponent).toNat
  let den := one * 10 ^ exponent.toNat
  let below := num / den
  match readsBack units below exponent, readsBack units (below + 1) exponent with
  | true, true => some ⟨if 2 * (num % den) < den then below else below + 1, exponent⟩
  | true, false => some ⟨below, exponent⟩
  | false, true => some ⟨below + 1, exponent⟩
  | false, false => none

/-- The shortest decimal of a positive number. The first grid is that of the power of ten above
the number; seventeen digits always suffice. -/
def shortest (units : Nat) : DecimalDigits :=
  let top := magnitude units
  ((List.range 19).findSome? fun (n : Nat) => gridPoint? units (top - n)).getD ⟨0, 0⟩

end Binary64

/-! ### Positional text -/

/-- The positional text of a decimal. -/
def DecimalDigits.text (d : DecimalDigits) : List Char :=
  let digits := Nat.toDigits 10 d.digits
  if 0 ≤ d.exponent then digits ++ List.replicate d.exponent.toNat '0'
  else
    let places := (-d.exponent).toNat
    let padded := List.replicate (places + 1 - digits.length) '0' ++ digits
    padded.take (padded.length - places) ++ '.' :: padded.drop (padded.length - places)

namespace Binary64

/-- The text of a number: the fewest digits that read back, never with an exponent. -/
def text : Binary64 → List Char
  | .notANumber => ['N', 'a', 'N']
  | .infinite negative => if negative then ['-', 'i', 'n', 'f'] else ['i', 'n', 'f']
  | .finite negative units _ =>
    let magnitude := if units = 0 then ['0'] else (shortest units).text
    if negative then '-' :: magnitude else magnitude

end Binary64

end RowQuery
