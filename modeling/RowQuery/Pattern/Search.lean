/-
# Searching texts

A pattern is laid out as steps, each of which knows the step after it, with all
repetitions written out. A search goes through the text once and keeps the steps
that wait for the next character; at every place it also starts anew. The pattern
matches as soon as the last step is reached.

Key definitions: `Pattern.Step`, `Pattern.link`, `Pattern.search`.
-/
import RowQuery.Pattern
import RowQuery.Property.Derived

namespace RowQuery

/-- A place in a text: the character before it, and the text after it. -/
structure Place where
  previous : Option Char
  rest : List Char

namespace Place

/-- Whether a character is part of a word. -/
def isWord (ascii : Bool) (c : Option Char) : Bool :=
  c.any fun c => (if ascii then CharSet.asciiWordChars else Property.wordChars).contains c

/-- Whether what is looked for stands around a place. -/
def sees (p : Place) : Look → Bool
  | .textStart => p.previous.isNone
  | .textEnd => p.rest.isEmpty
  | .lineStart => p.previous.isNone || p.previous == some '\n'
  | .lineEnd => p.rest.isEmpty || p.rest.head? == some '\n'
  | .returnLineStart =>
    p.previous.isNone || p.previous == some '\n' ||
      (p.previous == some '\r' && p.rest.head? != some '\n')
  | .returnLineEnd =>
    p.rest.isEmpty || p.rest.head? == some '\r' ||
      (p.rest.head? == some '\n' && p.previous != some '\r')
  | .wordBoundary ascii => isWord ascii p.previous != isWord ascii p.rest.head?
  | .noWordBoundary ascii => isWord ascii p.previous == isWord ascii p.rest.head?
  | .wordStart ascii => !isWord ascii p.previous && isWord ascii p.rest.head?
  | .wordEnd ascii => isWord ascii p.previous && !isWord ascii p.rest.head?
  | .wordStartHalf ascii => !isWord ascii p.previous
  | .wordEndHalf ascii => !isWord ascii p.rest.head?

end Place

namespace Pattern

/-! ### Layout -/

/-- One step of a search, with the numbers of those after it. -/
inductive Step where
  | char (c : Char) (next : Nat)
  | set (s : CharSet) (next : Nat)
  | look (l : Look) (next : Nat)
  | fork (one other : Nat)
  | accept

/-- Some steps, and the number of the one to start with. -/
structure Layout where
  steps : Array Step
  start : Nat

namespace Layout

/-- With a step in front, which leads to the start so far. -/
def push : Layout → (Nat → Step) → Layout
  | ⟨steps, start⟩, step =>
    let number := steps.size
    ⟨steps.push (step start), number⟩

/-- With a fork in front, which leads to the start so far and to another step. -/
def orElse (l : Layout) (other : Nat) : Layout := l.push fun next => .fork next other

/-- Rounds of steps before the start so far. The fork after each round leads back to it or on. The
start is the fork if there may be no round, otherwise the first step of the round. -/
def loop : Layout → (atLeastOnce : Bool) → (round : Layout → Layout) → Layout
  | ⟨steps, next⟩, atLeastOnce, round =>
    let fork := steps.size
    match round ⟨steps.push (.fork fork next), fork⟩ with
    | ⟨steps, first⟩ => ⟨steps.set! fork (.fork first next), if atLeastOnce then first else fork⟩

end Layout

/-- So many rounds of a function. -/
def rounds (f : Layout → Layout) : Nat → Layout → Layout
  | 0, l => l
  | n + 1, l => rounds f n (f l)

mutual

/-- The steps of a pattern before those so far. -/
def link : Pattern → Layout → Layout
  | .empty, l => l
  | .literal chars, l => chars.foldr (fun c l => l.push (.char c)) l
  | .set s, l => l.push (.set s)
  | .look k, l => l.push (.look k)
  | .group _ p, l => link p l
  | .rep p least most, l =>
    match most with
    | none => rounds (link p) (least - 1) (l.loop (0 < least) (link p))
    | some most =>
      let optional := rounds (fun inner => (link p inner).orElse l.start) (most - least) l
      rounds (link p) least optional
  | .seq parts, l => linkAll parts l
  | .alt branches, l => linkBranches branches l

def linkAll : List Pattern → Layout → Layout
  | [], l => l
  | p :: rest, l => link p (linkAll rest l)

def linkBranches : List Pattern → Layout → Layout
  | [], l => l
  | [p], l => link p l
  | p :: rest, l =>
    let next := l.start
    match linkBranches rest l with
    | ⟨steps, others⟩ => (link p ⟨steps, next⟩).orElse others

end

/-- The steps of a whole pattern. -/
def layout (p : Pattern) : Layout := link p ⟨#[.accept], 0⟩

/-! ### Search -/

/-- What is reached at a place of the text. -/
structure Front where
  /-- For every step, the last place at which it was reached. -/
  marks : Array Nat
  /-- The steps that wait for the next character. -/
  waiting : List Nat
  accepted : Bool

/-- Follows the steps that take no character, those in `pending` first; `now` is the number of the
place. A step is followed once at a place and leads to two others at most, which bounds `fuel`. -/
def follow (steps : Array Step) (place : Place) (now : Nat) : Nat → List Nat → Front → Front
  | 0, _, front => front
  | _, [], front => front
  | fuel + 1, n :: pending, front =>
    if front.marks.getD n now = now then follow steps place now fuel pending front
    else
      let front := { front with marks := front.marks.set! n now }
      match steps[n]? with
      | some .accept => { front with accepted := true }
      | some (.fork one other) =>
        follow steps place now fuel (one :: other :: pending) front
      | some (.look l next) =>
        follow steps place now fuel (if place.sees l then next :: pending else pending) front
      | _ => follow steps place now fuel pending { front with waiting := n :: front.waiting }

/-- The step after one that takes a character. -/
def take? (steps : Array Step) (c : Char) (n : Nat) : Option Nat :=
  match steps[n]? with
  | some (.char d next) => if c = d then some next else none
  | some (.set s next) => if s.contains c then some next else none
  | _ => none

/-- Whether the last step is reached in a text, after a character and with some steps pending. -/
def reaches (l : Layout) (previous : Option Char) :
    List Char → (now : Nat) → (pending : List Nat) → (marks : Array Nat) → Bool
  | text, now, pending, marks =>
    let fuel := 2 * l.steps.size + pending.length + 2
    let front := follow l.steps ⟨previous, text⟩ now fuel (l.start :: pending) ⟨marks, [], false⟩
    if front.accepted then true
    else
      match text with
      | [] => false
      | c :: rest =>
        reaches l (some c) rest (now + 1) (front.waiting.filterMap (take? l.steps c)) front.marks

/-- Whether a pattern matches any part of a text. -/
def search (p : Pattern) (text : List Char) : Bool :=
  let l := p.layout
  reaches l none text 1 [] (.replicate l.steps.size 0)

end Pattern

end RowQuery
