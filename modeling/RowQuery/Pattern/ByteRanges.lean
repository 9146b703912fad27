/-
# Characters as bytes

In UTF-8 a character takes one to four bytes. A range of characters is a list of
sequences of byte ranges, each sequence for characters of one length that differ
in their last bytes only, all of whose combinations are in the range.

Key definitions: `utf8`, `byteSequences`.
-/
import RowQuery.CharSet

namespace RowQuery.Pattern

/-- The byte for six bits that are not the first ones of a character. -/
def tailByte (bits : Nat) : Nat := 0x80 + bits % 0x40

/-- The bytes of a character. -/
def utf8 (n : Nat) : List Nat :=
  if n < 0x80 then [n]
  else if n < 0x800 then [0xC0 + n / 0x40, tailByte n]
  else if n < 0x10000 then [0xE0 + n / 0x1000, tailByte (n / 0x40), tailByte n]
  else [0xF0 + n / 0x40000, tailByte (n / 0x1000), tailByte (n / 0x40), tailByte n]

/-- The bytes of a text. -/
def utf8Text (text : List Char) : List Nat := text.flatMap fun c => utf8 c.toNat

/-- Where a range is divided: the end of its first part and the start of its second one. The
surrogates are left out, characters of different lengths are kept apart, and so is what does not
fill a block of characters with the same first bytes. Within a block of 64 nothing is divided. -/
def divide? (low high : Nat) : Option (Nat × Nat) :=
  if low / 0x40 = high / 0x40 then none
  else if low < 0xE000 ∧ 0xD7FF < high then some (0xD7FF, 0xE000)
  else
    lengthEnd? 0x7F <|> lengthEnd? 0x7FF <|> lengthEnd? 0xFFFF <|>
      if high < 0x80 then none
      else blockEnd? 0x40 <|> blockEnd? 0x1000 <|> blockEnd? 0x40000
where
  lengthEnd? (last : Nat) : Option (Nat × Nat) :=
    if low ≤ last ∧ last < high then some (last, last + 1) else none
  blockEnd? (size : Nat) : Option (Nat × Nat) :=
    if low / size = high / size then none
    else if low % size ≠ 0 then
      let last := low / size * size + size - 1
      some (last, last + 1)
    else if high % size ≠ size - 1 then
      let first := high / size * size
      some (first - 1, first)
    else none

/-- A range is divided at most so many times in a row. -/
def divisions : Nat := 16

/-- The sequences of a range of characters, in order. -/
def byteSequencesWithin : Nat → Nat → Nat → List (List (Nat × Nat))
  | 0, _, _ => []
  | n + 1, low, high =>
    if high < low then []
    else
      match divide? low high with
      | some (last, first) =>
        byteSequencesWithin n low last ++ byteSequencesWithin n first high
      | none => [(utf8 low).zip (utf8 high)]

/-- The sequences of a set of characters, in order. -/
def byteSequences (s : CharSet) : List (List (Nat × Nat)) :=
  s.ranges.flatMap fun (low, high) => byteSequencesWithin divisions low high

end RowQuery.Pattern
