/-
# Patterns of text

A pattern takes some text from a place on: characters of sets, one after the
other, alternatives, repetitions; or it takes nothing and looks at what stands
around the place. Patterns are built by functions that bring them to a simple
form: what is written next to each other is one text, alternative characters are
one set, and what alternatives start with in common stands before them.

Key definitions: `Look`, `Pattern`, `Pattern.ofSet`, `Pattern.concat`,
`Pattern.alternation`, `Pattern.times`.
-/
import RowQuery.CharSet

namespace RowQuery

/-- What a pattern may look for around a place without taking it. -/
inductive Look where
  | textStart
  | textEnd
  | lineStart
  | lineEnd
  /-- Lines that end with a carriage return, a line feed, or both in this order. -/
  | returnLineStart
  | returnLineEnd
  | wordBoundary (ascii : Bool)
  | noWordBoundary (ascii : Bool)
  | wordStart (ascii : Bool)
  | wordEnd (ascii : Bool)
  /-- No word ends here or goes on. -/
  | wordStartHalf (ascii : Bool)
  /-- No word starts here or goes on. -/
  | wordEndHalf (ascii : Bool)
  deriving DecidableEq, Repr

/-- A pattern. -/
inductive Pattern where
  | empty
  /-- Characters one after the other. -/
  | literal (chars : List Char)
  /-- A character of a set; the empty set matches nothing. -/
  | set (s : CharSet)
  | look (l : Look)
  /-- A group with its number. -/
  | group (number : Nat) (p : Pattern)
  /-- At least `least` times, and at most so many times if there is a bound. -/
  | rep (p : Pattern) (least : Nat) (most : Option Nat)
  | seq (parts : List Pattern)
  | alt (branches : List Pattern)
  deriving BEq, Repr

namespace Pattern

/-! ### Lengths -/

mutual

/-- The number of characters of the shortest texts that may match; none if none does. -/
def shortest? : Pattern → Option Nat
  | .empty => some 0
  | .literal chars => some chars.length
  | .set s => if s.ranges.isEmpty then none else some 1
  | .look _ => some 0
  | .group _ p => p.shortest?
  | .rep p least _ => p.shortest?.map (· * least)
  | .seq parts => shortestSum? parts
  | .alt branches => shortestOf? branches

def shortestSum? : List Pattern → Option Nat
  | [] => some 0
  | p :: rest => do some ((← p.shortest?) + (← shortestSum? rest))

/-- None if no text matches one of the branches. -/
def shortestOf? : List Pattern → Option Nat
  | [] => none
  | [p] => p.shortest?
  | p :: rest => do some (min (← p.shortest?) (← shortestOf? rest))

end

mutual

/-- The number of characters of the longest texts that may match, if there is a bound. -/
def longest? : Pattern → Option Nat
  | .empty => some 0
  | .literal chars => some chars.length
  | .set s => if s.ranges.isEmpty then none else some 1
  | .look _ => some 0
  | .group _ p => p.longest?
  | .rep p _ most => do some ((← p.longest?) * (← most))
  | .seq parts => longestSum? parts
  | .alt branches => longestOf? branches

def longestSum? : List Pattern → Option Nat
  | [] => some 0
  | p :: rest => do some ((← p.longest?) + (← longestSum? rest))

def longestOf? : List Pattern → Option Nat
  | [] => none
  | [p] => p.longest?
  | p :: rest => do some (max (← p.longest?) (← longestOf? rest))

end

/-! ### Ends -/

mutual

/-- Every match starts with a certain look. -/
def seesFirst (l : Look) : Pattern → Bool
  | .look k => k = l
  | .group _ p => p.seesFirst l
  | .rep p least _ => 0 < least && p.seesFirst l
  | .seq parts => firstSees l parts
  | .alt branches => allSeeFirst l branches
  | _ => false

def firstSees (l : Look) : List Pattern → Bool
  | [] => false
  | p :: rest => p.seesFirst l || (p.longest? = some 0 && firstSees l rest)

def allSeeFirst (l : Look) : List Pattern → Bool
  | [] => true
  | p :: rest => p.seesFirst l && allSeeFirst l rest

end

mutual

/-- Every match ends with a certain look. -/
def seesLast (l : Look) : Pattern → Bool
  | .look k => k = l
  | .group _ p => p.seesLast l
  | .rep p least _ => 0 < least && p.seesLast l
  | .seq parts => lastSees l parts
  | .alt branches => allSeeLast l branches
  | _ => false

def lastSees (l : Look) : List Pattern → Bool
  | [] => false
  | p :: rest => lastSees l rest || (p.seesLast l && longestSum? rest = some 0)

def allSeeLast (l : Look) : List Pattern → Bool
  | [] => true
  | p :: rest => p.seesLast l && allSeeLast l rest

end

/-! ### Building patterns -/

/-- A character of a set. -/
def ofSet (s : CharSet) : Pattern :=
  match s.single? with
  | some c => .literal [c]
  | none => .set s

/-- The parts of a pattern that stand one after the other. -/
def parts : Pattern → List Pattern
  | .empty => []
  | .seq parts => parts
  | p => [p]

/-- A part before others; texts next to each other become one. -/
def before : Pattern → List Pattern → List Pattern
  | .literal a, .literal b :: rest => .literal (a ++ b) :: rest
  | p, rest => p :: rest

/-- Patterns one after the other. -/
def concat (ps : List Pattern) : Pattern :=
  match (ps.flatMap parts).foldr before [] with
  | [] => .empty
  | [p] => p
  | ps => .seq ps

/-- The branches of a pattern. -/
def branches : Pattern → List Pattern
  | .alt branches => branches
  | p => [p]

/-- The character of a text of one character. -/
def char? : Pattern → Option Char
  | .literal [c] => some c
  | _ => none

def literal? : Pattern → Option (List Char)
  | .literal chars => some chars
  | _ => none

def set? : Pattern → Option CharSet
  | .set s => some s
  | _ => none

/-- One of some patterns that are no alternatives themselves. -/
def oneOf (ps : List Pattern) : Pattern :=
  match ps with
  | [] => .set .empty
  | [p] => p
  | ps =>
    match ps.mapM char?, ps.mapM set? with
    | some chars, _ => ofSet (.ofPoints (chars.map Char.toNat))
    | none, some sets => ofSet (.ofRanges (sets.flatMap (·.ranges)))
    | none, none => .alt ps

/-- How many patterns two lists start with in common. -/
def commonLength : List Pattern → List Pattern → Nat
  | p :: ps, q :: qs => if p == q then commonLength ps qs + 1 else 0
  | _, _ => 0

/-- How many parts sequences start with in common; zero if some pattern is no sequence. -/
def commonParts : List Pattern → Nat
  | .seq first :: rest =>
    rest.foldl (fun n p => match p with
      | .seq parts => min n (commonLength first parts)
      | _ => 0) first.length
  | _ => 0

/-- One of some patterns. What all of them start with in common is put before the alternatives of
what is left. -/
def alternation (ps : List Pattern) : Pattern :=
  match oneOf (ps.flatMap branches) with
  | .alt ps =>
    match commonParts ps with
    | 0 => .alt ps
    | n + 1 =>
      let start := (ps.head?.map parts).getD []
      let rests := ps.map fun p => concat (p.parts.drop (n + 1))
      concat (start.take (n + 1) ++ [oneOf (rests.flatMap branches)])
  | p => p

/-- A repetition. What takes no characters need not be repeated. -/
def times (p : Pattern) (least : Nat) (most : Option Nat) : Pattern :=
  let (least, most) :=
    if p.longest? = some 0 then (min least 1, some (min 1 (most.getD 1))) else (least, most)
  match least, most with
  | 0, some 0 => .empty
  | 1, some 1 => p
  | _, _ => .rep p least most

end Pattern

end RowQuery
