/-
# Binary floating point, 64 bits wide

A finite number is a sign and a natural count of *units*, the unit being the
least positive number `2 ^ -1074`. Counts that need more than 53 significant
bits, or that reach `2 ^ 2098`, are no numbers of the format. Every operation
is the exact result on counts, rounded once to the nearest number, a tie going
to the even neighbour; so a law about an operation is a law about `nearest`.

There is one not-a-number, and two zeros that differ by their sign.

Key definitions: `Binary64`, `Binary64.nearest`, `Binary64.ofRatio`,
`Binary64.add`, `Binary64.mul`, `Binary64.div`, `Binary64.compare`.
-/

namespace RowQuery

-- powers are those of the core library, whatever else a module imports
attribute [instance (1100), default_instance 10001] instPowNat

namespace Binary64

/-- How many units make one. -/
def one : Nat := 2 ^ 1074

/-- Every count of units is below this one. -/
def limit : Nat := 2 ^ 2098

theorem one_pos : 0 < one := by unfold one; apply Nat.pow_pos; decide

theorem limit_pos : 0 < limit := by unfold limit; apply Nat.pow_pos; decide

/-- The distance from a number to the next larger one, as a power of two. -/
def stepBits (units : Nat) : Nat := units.log2 - 52

/-- The counts that the format holds: at most 53 significant bits, below `2 ^ 2098`. -/
def Representable (units : Nat) : Prop :=
  units < limit ∧ 2 ^ stepBits units ∣ units

instance (units : Nat) : Decidable (Representable units) :=
  inferInstanceAs (Decidable (_ ∧ _))

end Binary64

/-- A 64-bit binary floating-point number. -/
inductive Binary64 where
  /-- `units * 2 ^ -1074`, or its negative. -/
  | finite (negative : Bool) (units : Nat) (representable : Binary64.Representable units)
  /-- Positive or negative infinity. -/
  | infinite (negative : Bool)
  /-- The result of an operation that has none. -/
  | notANumber
  deriving DecidableEq

namespace Binary64

/-! ### Rounding -/

/-- The natural nearest to `num / den`, a tie going to the even one. -/
def roundHalfEven (num den : Nat) : Nat :=
  let quotient := num / den
  let remainder := num % den
  if den < 2 * remainder ∨ (2 * remainder = den ∧ quotient % 2 = 1) then quotient + 1 else quotient

/-- The count of at most 53 significant bits nearest to `num / den`. -/
def nearest (num den : Nat) : Nat :=
  let step := 2 ^ stepBits (num / den)
  roundHalfEven num (den * step) * step

/-- The number of so many units; a count that the format cannot hold is infinite. -/
def ofUnits (negative : Bool) (units : Nat) : Binary64 :=
  if h : Representable units then .finite negative units h else .infinite negative

/-- The number nearest to `num / den` units. -/
def roundUnits (negative : Bool) (num den : Nat) : Binary64 :=
  ofUnits negative (nearest num den)

/-- The number nearest to `num / den`. -/
def ofRatio (negative : Bool) (num den : Nat) : Binary64 :=
  roundUnits negative (num * one) den

/-- The number nearest to an integer; zero is positive. -/
def ofInt (n : Int) : Binary64 :=
  ofRatio (n < 0) n.natAbs 1

/-- The zero of a sign. -/
def zero (negative : Bool) : Binary64 :=
  .finite negative 0 ⟨limit_pos, Nat.dvd_zero _⟩

/-! ### Views -/

/-- The signed count of units. -/
def signed (negative : Bool) (units : Nat) : Int :=
  if negative then -(units : Int) else units

/-- The place of a number on the line, infinities at its two ends; none for not-a-number. -/
def rank : Binary64 → Option Int
  | .finite negative units _ => some (signed negative units)
  | .infinite negative => some (signed negative limit)
  | .notANumber => none

/-- Neither infinite nor not-a-number. -/
def isFinite : Binary64 → Bool
  | .finite .. => true
  | _ => false

/-- Either of the two zeros. -/
def isZero (x : Binary64) : Bool :=
  x.rank == some 0

/-- How two numbers compare; nothing compares with not-a-number, and the zeros are equal. -/
def compare (x y : Binary64) : Option Ordering :=
  match x.rank, y.rank with
  | some a, some b => some (Ord.compare a b)
  | _, _ => none

/-! ### Arithmetic -/

/-- The number of opposite sign. -/
def neg : Binary64 → Binary64
  | .finite negative units h => .finite (!negative) units h
  | .infinite negative => .infinite (!negative)
  | .notANumber => .notANumber

instance : Neg Binary64 := ⟨neg⟩

/-- The magnitude. -/
def abs : Binary64 → Binary64
  | .finite _ units h => .finite false units h
  | .infinite _ => .infinite false
  | .notANumber => .notANumber

/-- The sum. Opposite numbers give the positive zero; so do opposite zeros. -/
def add : Binary64 → Binary64 → Binary64
  | .notANumber, _ => .notANumber
  | _, .notANumber => .notANumber
  | .infinite s, .infinite t => if s = t then .infinite s else .notANumber
  | .infinite s, .finite .. => .infinite s
  | .finite .., .infinite t => .infinite t
  | .finite s m _, .finite t n _ =>
    let sum := signed s m + signed t n
    if sum = 0 then zero (s && t) else roundUnits (sum < 0) sum.natAbs 1

instance : Add Binary64 := ⟨add⟩

/-- The difference. -/
def sub (x y : Binary64) : Binary64 := x + -y

instance : Sub Binary64 := ⟨sub⟩

/-- The product. Zero times infinity has none. -/
def mul : Binary64 → Binary64 → Binary64
  | .notANumber, _ => .notANumber
  | _, .notANumber => .notANumber
  | .infinite s, .infinite t => .infinite (s ^^ t)
  | .infinite s, .finite t n _ => if n = 0 then .notANumber else .infinite (s ^^ t)
  | .finite s m _, .infinite t => if m = 0 then .notANumber else .infinite (s ^^ t)
  | .finite s m _, .finite t n _ => roundUnits (s ^^ t) (m * n) one

instance : Mul Binary64 := ⟨mul⟩

/-- The quotient. A zero divisor gives an infinity, except under a zero. -/
def div : Binary64 → Binary64 → Binary64
  | .notANumber, _ => .notANumber
  | _, .notANumber => .notANumber
  | .infinite _, .infinite _ => .notANumber
  | .infinite s, .finite t _ _ => .infinite (s ^^ t)
  | .finite s _ _, .infinite t => zero (s ^^ t)
  | .finite s m _, .finite t n _ =>
    if n = 0 then
      if m = 0 then .notANumber else .infinite (s ^^ t)
    else roundUnits (s ^^ t) (m * one) n

instance : Div Binary64 := ⟨div⟩

/-- The nearest whole number, a half going away from zero. -/
def round : Binary64 → Binary64
  | .finite negative units _ => ofUnits negative ((2 * units + one) / (2 * one) * one)
  | x => x

/-- The integer that a number is, if it is whole. -/
def toInt? : Binary64 → Option Int
  | .finite negative units _ => if one ∣ units then some (signed negative (units / one)) else none
  | _ => none

/-! ### Decimal notation -/

/-- The number nearest to `digits * 10 ^ exponent`. A number of more than 400 places before the
point is beyond the format, one of more than 400 zeros after it rounds to zero: neither power of
ten is computed. -/
def ofDecimal (negative : Bool) (digits : Nat) (exponent : Int) : Binary64 :=
  if digits = 0 then zero negative
  else
    let places := (Nat.toDigits 10 digits).length + exponent
    if 400 < places then .infinite negative
    else if places < -400 then zero negative
    else ofRatio negative (digits * 10 ^ exponent.toNat) (10 ^ (-exponent).toNat)

end Binary64

end RowQuery
