/-
# Sets of characters

A set of characters is a list of ranges of code points, in order, of which no
two overlap or touch: every set has one such list, so equal sets are equal
lists, and the length of the list is a measure of the set. The surrogates,
U+D800 to U+DFFF, are no characters: stepping from one character to the next
passes over them.

Key definitions: `CharSet`, `CharSet.contains`, `CharSet.union`,
`CharSet.intersection`, `CharSet.difference`, `CharSet.complement`.
-/
import RowQuery.Text.Runs

namespace RowQuery

/-- Ranges of code points in order, with gaps between them; both ends belong to a range. -/
structure CharSet where
  ranges : List (Nat × Nat)
  deriving DecidableEq, Repr

namespace CharSet

/-- The last code point. -/
def lastPoint : Nat := 0x10FFFF

/-- The code point of the character after another. -/
def next (n : Nat) : Nat := if n = 0xD7FF then 0xE000 else n + 1

/-- The code point of the character before another. -/
def previous (n : Nat) : Nat := if n = 0xE000 then 0xD7FF else n - 1

def empty : CharSet := ⟨[]⟩

def any : CharSet := ⟨[(0, lastPoint)]⟩

def range (low high : Char) : CharSet := ⟨[(low.toNat, high.toNat)]⟩

def single (c : Char) : CharSet := range c c

/-- The only member of a set with one. -/
def single? (s : CharSet) : Option Char :=
  match s.ranges with
  | [(low, high)] => if low = high then some (Char.ofNat low) else none
  | _ => none

/-- Whether a code point is in one of the ranges, which are in order. -/
def holds (n : Nat) : List (Nat × Nat) → Bool
  | [] => false
  | (low, high) :: rest => if n < low then false else n ≤ high || holds n rest

def contains (s : CharSet) (c : Char) : Bool := holds c.toNat s.ranges

/-- All members are ASCII characters. -/
def isAscii (s : CharSet) : Bool := s.ranges.all fun (_, high) => high < 128

/-! ### Joining ranges -/

/-- A range and those after it, in order of their low ends, with those that overlap or touch
made one. -/
def joinFrom (low high : Nat) : List (Nat × Nat) → List (Nat × Nat)
  | [] => [(low, high)]
  | (a, b) :: rest =>
    if a ≤ high + 1 then joinFrom low (max high b) rest else (low, high) :: joinFrom a b rest

def join : List (Nat × Nat) → List (Nat × Nat)
  | [] => []
  | (low, high) :: rest => joinFrom low high rest

/-- The order of the low ends. -/
def startsFirst (r s : Nat × Nat) : Bool := r.1 ≤ s.1

/-- The set with these ranges, in any order. -/
def ofRanges (ranges : List (Nat × Nat)) : CharSet := ⟨join (ranges.mergeSort startsFirst)⟩

def ofPoints (points : List Nat) : CharSet := ofRanges (points.map fun n => (n, n))

/-- The characters inside the runs of a table. -/
def ofRuns (runs : Text.Runs) : CharSet := ⟨rangesFrom 0 runs.lengths⟩
where
  rangesFrom (start : Nat) : List Nat → List (Nat × Nat)
    | outside :: inside :: rest =>
      (start + outside, start + outside + inside - 1) :: rangesFrom (start + outside + inside) rest
    | _ => []

/-- The characters with one of some labels. -/
def ofLabels (table : Text.Labels) (labels : List Nat) : CharSet :=
  ⟨join (rangesFrom 0 table.runs)⟩
where
  rangesFrom (start : Nat) : List (Nat × Nat) → List (Nat × Nat)
    | [] => []
    | (length, label) :: rest =>
      let others := rangesFrom (start + length) rest
      if labels.contains label then (start, start + length - 1) :: others else others

/-! ### Operations -/

def union (s t : CharSet) : CharSet := ⟨join (s.ranges.merge t.ranges startsFirst)⟩

def unions (sets : List CharSet) : CharSet := sets.foldl union empty

/-- What two lists of ranges have in common. -/
def common : List (Nat × Nat) → List (Nat × Nat) → List (Nat × Nat)
  | [], _ => []
  | _, [] => []
  | (a, b) :: xs, (c, d) :: ys =>
    let rest := if b < d then common xs ((c, d) :: ys) else common ((a, b) :: xs) ys
    if max a c ≤ min b d then (max a c, min b d) :: rest else rest
  termination_by xs ys => xs.length + ys.length

def intersection (s t : CharSet) : CharSet := ⟨common s.ranges t.ranges⟩

/-- What is left of a list of ranges without those of another. -/
def without : List (Nat × Nat) → List (Nat × Nat) → List (Nat × Nat)
  | [], _ => []
  | xs, [] => xs
  | (a, b) :: xs, (c, d) :: ys =>
    if d < a then without ((a, b) :: xs) ys
    else if b < c then (a, b) :: without xs ((c, d) :: ys)
    else
      let front := if a < c then [(a, previous c)] else []
      if d < b then front ++ without ((next d, b) :: xs) ys
      else front ++ without xs ((c, d) :: ys)
  termination_by xs ys => xs.length + ys.length

def difference (s t : CharSet) : CharSet := ⟨without s.ranges t.ranges⟩

/-- What is in one of two sets and not in the other. -/
def symmetric (s t : CharSet) : CharSet := (s.union t).difference (s.intersection t)

/-- The gaps between ranges and after the last one. Where no character lies between two ranges,
for one ends before the surrogates and the other starts after them, the gap is made of their
ends. -/
def gaps : List (Nat × Nat) → List (Nat × Nat)
  | [] => []
  | [(_, high)] => if high < lastPoint then [(next high, lastPoint)] else []
  | (_, b) :: (c, d) :: rest =>
    (min (next b) (previous c), max (next b) (previous c)) :: gaps ((c, d) :: rest)

def complement (s : CharSet) : CharSet :=
  match s.ranges with
  | [] => any
  | (low, high) :: rest =>
    let front := if 0 < low then [(0, previous low)] else []
    ⟨front ++ gaps ((low, high) :: rest)⟩

/-! ### Classes of ASCII characters -/

/-- The set with these ranges of characters, in order. -/
def ofChars (ranges : List (Char × Char)) : CharSet :=
  ⟨ranges.map fun (low, high) => (low.toNat, high.toNat)⟩

def asciiDigits : CharSet := range '0' '9'

def asciiSpaces : CharSet := ofChars [('\t', '\r'), (' ', ' ')]

def asciiWordChars : CharSet := ofChars [('0', '9'), ('A', 'Z'), ('_', '_'), ('a', 'z')]

/-- The named classes of ASCII characters. -/
def ascii? : String → Option CharSet
  | "alnum" => some (ofChars [('0', '9'), ('A', 'Z'), ('a', 'z')])
  | "alpha" => some (ofChars [('A', 'Z'), ('a', 'z')])
  | "ascii" => some (range '\x00' '\x7f')
  | "blank" => some (ofChars [('\t', '\t'), (' ', ' ')])
  | "cntrl" => some (ofChars [('\x00', '\x1f'), ('\x7f', '\x7f')])
  | "digit" => some asciiDigits
  | "graph" => some (range '!' '~')
  | "lower" => some (range 'a' 'z')
  | "print" => some (range ' ' '~')
  | "punct" => some (ofChars [('!', '/'), (':', '@'), ('[', '\x60'), ('\x7b', '~')])
  | "space" => some asciiSpaces
  | "upper" => some (range 'A' 'Z')
  | "word" => some asciiWordChars
  | "xdigit" => some (ofChars [('0', '9'), ('A', 'F'), ('a', 'f')])
  | _ => none

end CharSet

end RowQuery
