/-
# The size of patterns

A pattern stands for an automaton over bytes, and is refused if that takes too
much memory. The automaton is built twice, to read texts forward and backward.
Every state takes 32 bytes, and more for what it leads to: 8 for every range of
bytes where there may be several, 4 for every way out of a fork. Within a set of
characters states that do the same are shared, as far as a table of states tells
that they do; the table is small, and a new state may drive out an old one.

Key definitions: `Pattern.Build`, `Pattern.Build.add`, `Pattern.isTooLarge`.
-/
import RowQuery.Pattern
import RowQuery.Pattern.ByteRanges

namespace RowQuery.Pattern

/-- An automaton so far. -/
structure Build where
  /-- The number of its states; a new state has this number. -/
  states : Nat
  /-- The bytes beside those that every state takes. -/
  bytes : Nat

namespace Build

/-- The memory in bytes. -/
def memory (b : Build) : Nat := 32 * b.states + b.bytes

/-- An automaton that takes more is refused. -/
def limit : Nat := 10 * 2 ^ 20

def isOver (b : Build) : Bool := limit < b.memory

/-- With more states, and more bytes for what they lead to. -/
def grow (b : Build) (states bytes : Nat) : Build :=
  { states := b.states + states, bytes := b.bytes + bytes }

/-- A step taken so many times, unless the automaton is too large before. -/
def copies (step : Build → Build) : Nat → Build → Build
  | 0, b => b
  | n + 1, b => if b.isOver then b else copies step n (step b)

/-! ### Sets of characters -/

/-- A number mixed into a hash. -/
def mix (hash : UInt64) (n : Nat) : UInt64 := (hash ^^^ UInt64.ofNat n) * 1099511628211

/-- The place of some numbers in a table. -/
def place (numbers : List Nat) (size : Nat) : Nat :=
  (numbers.foldl mix 14695981039346656037 % UInt64.ofNat size).toNat

/-- A range of bytes and the state it leads to. -/
structure Way where
  low : Nat
  high : Nat
  target : Nat
  deriving DecidableEq

/-- An automaton with a table of states: at each place the last state that belongs there. -/
structure Shared where
  build : Build
  table : Array (Option (List Way × Nat))

/-- With a new state, which has its place in the table. -/
def Shared.push : Shared → (place : Nat) → List Way → Nat × Shared
  | ⟨b, table⟩, place, ways =>
    (b.states, ⟨b.grow 1 (8 * ways.length), table.set! place (some (ways, b.states))⟩)

/-- A state with some ways out: a known one, or a new one. -/
def Shared.state (s : Shared) (ways : List Way) : Nat × Shared :=
  let place := place (ways.flatMap fun w => [w.low, w.high, w.target]) s.table.size
  match s.table.getD place none with
  | some (known, number) => if known = ways then (number, s) else s.push place ways
  | none => s.push place ways

/-- A state that is not complete: the ways whose targets are known, and the range of the last. -/
structure Pending where
  ways : List Way
  last : Option (Nat × Nat)

/-- The ways out of a state whose last one leads to `target`. -/
def Pending.close (p : Pending) (target : Nat) : List Way :=
  match p.last with
  | some (low, high) => p.ways ++ [⟨low, high, target⟩]
  | none => p.ways

/-- The first of some pending states, each of which leads to the next, and the last to `target`. -/
def Shared.closeAll (target : Nat) : List Pending → Shared → Nat × Shared
  | [], s => (target, s)
  | p :: rest, s =>
    let (next, s) := closeAll target rest s
    s.state (p.close next)

/-- The pending states with one more sequence, which comes after those so far. States that it
does not pass are complete. -/
def Shared.insert (target : Nat) :
    List Pending → List (Nat × Nat) → Shared → List Pending × Shared
  | p :: rest, r :: ranges, s =>
    if p.last = some r then
      let (rest, s) := insert target rest ranges s
      (p :: rest, s)
    else
      let (next, s) := closeAll target rest s
      (⟨p.close next, some r⟩ :: ranges.map fun r => ⟨[], some r⟩, s)
  | path, _, s => (path, s)

/-- A set of characters, read from their first bytes on. -/
def addForward (s : CharSet) (b : Build) : Build :=
  let target := b.states
  let start : List Pending × Shared := ([⟨[], none⟩], ⟨b.grow 1 0, .replicate 10000 none⟩)
  let (path, shared) := (byteSequences s).foldl
    (fun (path, shared) ranges => shared.insert target path ranges) start
  (shared.closeAll target path).2.build

/-- An automaton with a table of states that read one range of bytes. -/
structure Chained where
  build : Build
  table : Array (Option (Way × Nat))

/-- With a new state, which has its place in the table. -/
def Chained.push : Chained → (place : Nat) → Way → Nat × Chained
  | ⟨b, table⟩, place, way =>
    (b.states, ⟨b.grow 1 0, table.set! place (some (way, b.states))⟩)

/-- The state with one way out: a known one, or a new one. -/
def Chained.state (c : Chained) (way : Way) : Nat × Chained :=
  let place := place [way.target, way.low, way.high] c.table.size
  match c.table.getD place none with
  | some (known, number) => if known = way then (number, c) else c.push place way
  | none => c.push place way

/-- A set of characters, read from their last bytes on: a fork with a way to each sequence. -/
def addBackward (s : CharSet) (b : Build) : Build :=
  let last := b.states + 1
  let chain (c : Chained) (ranges : List (Nat × Nat)) : Chained :=
    (ranges.foldl (fun (target, c) (low, high) => Chained.state c ⟨low, high, target⟩) (last, c)).2
  let sequences := byteSequences s
  (sequences.foldl chain ⟨b.grow 2 0, .replicate 1000 none⟩).build.grow 0 (4 * sequences.length)

/-- A set of characters; for ASCII one state reads it. -/
def addSet (backward : Bool) (s : CharSet) (b : Build) : Build :=
  if s.isAscii then b.grow 2 (8 * s.ranges.length)
  else if backward then addBackward s b
  else addForward s b

/-! ### Alternative texts -/

/-- Texts that start alike, without their first bytes, for every first byte. -/
def byFirst (texts : List (List Nat)) : List (List (List Nat)) :=
  (texts.filterMap (·.head?)).eraseDups.map fun c =>
    (texts.filter fun t => t.head? == some c).map (·.drop 1)

/-- The states at a place of a tree of texts, with what is left of the texts that lead there. The
texts before, between and after those that end there are read by states of their own, and a fork
leads to them and to the end. Texts that end count once if no other text comes before them. -/
def addBranching : Nat → List (List Nat) → Build → Build
  | 0, _, b => b
  | n + 1, texts, b =>
    let later := texts.dropWhile (·.isEmpty)
    let ends := (later.filter (·.isEmpty)).length + if later.length < texts.length then 1 else 0
    let runs := (later.splitBy fun s t => !s.isEmpty && !t.isEmpty).filter (·.all (!·.isEmpty))
    let b := runs.foldl (fun b run =>
      let ways := byFirst run
      let b := ways.foldl (fun b way => if way.all (·.isEmpty) then b else addBranching n way b) b
      b.grow 1 (if ways.length = 1 then 0 else 8 * ways.length)) b
    b.grow 1 (4 * (runs.length + ends))

/-- Alternative texts as a tree, which leads to one state at the end. -/
def addTexts (backward : Bool) (texts : List (List Char)) (b : Build) : Build :=
  let texts := texts.map fun t => if backward then (utf8Text t).reverse else utf8Text t
  let longest := (texts.map List.length).foldl max 0
  addBranching (longest + 1) texts (b.grow 1 0)

/-! ### Patterns -/

mutual

/-- An automaton with a pattern added, read forward or backward. A fork has two ways, in a
repetition one for another round and one that leads on. -/
def add (backward : Bool) : Pattern → Build → Build
  | .empty, b => b.grow 1 0
  | .literal chars, b => b.grow (utf8Text chars).length 0
  | .set s, b => addSet backward s b
  | .look _, b => b.grow 1 0
  | .group _ p, b => if backward then add backward p b else (add backward p (b.grow 1 0)).grow 1 0
  | .rep p least most, b =>
    match least, most with
    | 0, some 1 => (add backward p (b.grow 1 8)).grow 1 0
    | 0, none =>
      if p.shortest?.getD 0 = 0 then (add backward p b).grow 3 16
      else add backward p (b.grow 1 8)
    | n, none => (copies (add backward p) n b).grow 1 8
    | n, some m =>
      let b := if n = 0 then b.grow 1 0 else copies (add backward p) n b
      if n = m then b
      else copies (fun b => add backward p (b.grow 1 8)) (m - n) (b.grow 1 0)
  | .seq parts, b => addAll backward parts b
  | .alt branches, b =>
    match branches.mapM literal? with
    | some texts => addTexts backward texts b
    | none => addBranches backward 0 branches b

/-- Patterns one after the other. -/
def addAll (backward : Bool) : List Pattern → Build → Build
  | [], b => b
  | p :: rest, b =>
    if backward then add backward p (addAll backward rest b)
    else addAll backward rest (add backward p b)

/-- Alternatives, after so many of them; the fork to them comes after the second one. -/
def addBranches (backward : Bool) (n : Nat) : List Pattern → Build → Build
  | [], b => b
  | p :: rest, b =>
    addBranches backward (n + 1) rest ((add backward p b).grow (if n = 1 then 2 else 0) 4)

end

/-- The automaton of a pattern. First it passes over any bytes, unless every match is at the end of
the text from which it is read. Forward it also marks where groups and the match start and end. -/
def ofPattern (backward : Bool) (p : Pattern) : Build :=
  let isFixed := if backward then p.seesLast .textEnd else p.seesFirst .textStart
  let start : Build := if isFixed then ⟨1, 0⟩ else ⟨3, 16⟩
  add backward (.group 0 p) start |>.grow 1 0

end Build

/-! ### The limit -/

/-- More than the automaton of a set can take: a state for every byte of every sequence. -/
def setCeiling (s : CharSet) : Nat :=
  if s.isAscii then 64 + 8 * s.ranges.length
  else (byteSequences s).foldl (fun total ranges => total + (40 * ranges.length + 4)) 96

mutual

/-- More than the automaton of a pattern can take, found without building it. -/
def ceiling : Pattern → Nat
  | .empty => 32
  | .literal chars => 320 * chars.length
  | .set s => setCeiling s
  | .look _ => 32
  | .group _ p => p.ceiling + 64
  | .rep p least most => (p.ceiling + 48) * max 1 (most.getD least) + 112
  | .seq parts => ceilingAll parts
  | .alt branches => ceilingAll branches + 64

def ceilingAll : List Pattern → Nat
  | [] => 0
  | p :: rest => p.ceiling + 8 + ceilingAll rest

end

/-- Alternatives that are all texts. So many of them are searched for without an automaton. -/
def isWordList : Pattern → Bool
  | .alt branches => 3000 ≤ branches.length && branches.all fun p => p.literal?.isSome
  | _ => false

/-- Whether the automata of a pattern are over the limit. -/
def isTooLarge (p : Pattern) : Bool :=
  if p.ceiling + 400 ≤ Build.limit || p.isWordList then false
  else (Build.ofPattern false p).isOver || (Build.ofPattern true p).isOver

end RowQuery.Pattern
