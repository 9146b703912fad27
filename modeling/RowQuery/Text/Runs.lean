/-
# Classes and maps of characters, as tables of numbers

A class of characters is a list of run lengths: so many characters outside, so
many inside, and so on by turns, from character zero. A map of characters is a
list of stretches: a first character, a count, a stride, and the image of the
first; the others go to images at the same distance. A labelling gives every run
a number. Tables are written as numbers in text.

Key definitions: `Runs`, `Runs.contains`, `Labels`, `CharMap`, `CharMap.get?`.
-/

namespace RowQuery.Text

/-! ### Numbers in text -/

/-- The naturals in a text, in order; whatever is no digit separates them. -/
def naturalsFrom : Option Nat → List Char → List Nat
  | none, [] => []
  | some n, [] => [n]
  | current, c :: rest =>
    if c.isDigit then naturalsFrom (some (10 * current.getD 0 + (c.toNat - 48))) rest
    else current.toList ++ naturalsFrom none rest

/-- The naturals in some lines of text, in order. -/
def naturals (lines : List String) : List Nat :=
  lines.flatMap fun line => naturalsFrom none line.toList

/-! ### Classes -/

/-- Lengths of runs, alternately outside and inside a class of characters. -/
structure Runs where
  lengths : List Nat

namespace Runs

def ofLines (lines : List String) : Runs := ⟨naturals lines⟩

/-- Whether position `n` falls in a run that is inside, when the first is as `inside` says. -/
def holds (inside : Bool) : List Nat → Nat → Bool
  | [], _ => false
  | length :: rest, n => if n < length then inside else holds (!inside) rest (n - length)

def contains (runs : Runs) (c : Char) : Bool := holds false runs.lengths c.toNat

end Runs

/-! ### Labels -/

/-- Lengths of runs, each with a label. -/
structure Labels where
  runs : List (Nat × Nat)

namespace Labels

/-- Every two numbers are a run. -/
def pairsOf : List Nat → List (Nat × Nat)
  | length :: label :: rest => (length, label) :: pairsOf rest
  | _ => []

def ofLines (lines : List String) : Labels := ⟨pairsOf (naturals lines)⟩

end Labels

/-! ### Maps -/

/-- The characters `first`, `first + stride`, … , `count` of them, and the image of the first. -/
structure Stretch where
  first : Nat
  count : Nat
  stride : Nat
  image : Nat

/-- The image of a character by a stretch that holds it. -/
def Stretch.get? (s : Stretch) (n : Nat) : Option Nat :=
  if s.first ≤ n ∧ n < s.first + s.count * s.stride ∧ (n - s.first) % s.stride = 0 then
    some (s.image + (n - s.first))
  else none

/-- A map of characters. -/
structure CharMap where
  stretches : List Stretch

namespace CharMap

/-- Every four numbers are a stretch. -/
def stretchesOf : List Nat → List Stretch
  | first :: count :: stride :: image :: rest => ⟨first, count, stride, image⟩ :: stretchesOf rest
  | _ => []

def ofLines (lines : List String) : CharMap := ⟨stretchesOf (naturals lines)⟩

/-- The image of a character, if the map has one. -/
def get? (map : CharMap) (c : Char) : Option Char :=
  (map.stretches.findSome? (·.get? c.toNat)).map Char.ofNat

end CharMap

/-- Sequences of numbers, each with a key and its length in front; `fuel` bounds their count. -/
def sequencesFrom : Nat → List Nat → List (Nat × List Nat)
  | fuel + 1, key :: length :: rest =>
    (key, rest.take length) :: sequencesFrom fuel (rest.drop length)
  | _, _ => []

def sequencesOfLines (lines : List String) : List (Nat × List Nat) :=
  let numbers := naturals lines
  sequencesFrom numbers.length numbers

end RowQuery.Text
