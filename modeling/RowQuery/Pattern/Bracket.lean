/-
# Classes in brackets

A class in brackets lists characters, ranges, and other classes. Between lists
there may be operations, which are applied from left to right. Classes are as
deep as their lists, operations and inner classes nest.

Key definitions: `Pattern.SetOperation`, `Pattern.Listed`, `Pattern.bracketClass?`.
-/
import RowQuery.Pattern.Escape

namespace RowQuery.Pattern

/-- An operation between lists. -/
inductive SetOperation where
  | intersection
  | difference
  | symmetric

def SetOperation.apply : SetOperation → CharSet → CharSet → CharSet
  | .intersection => .intersection
  | .difference => .difference
  | .symmetric => .symmetric

/-! ### Items -/

/-- What stands at one place of a list. -/
inductive ClassItem where
  | char (c : Char)
  | set (s : CharSet)

def ClassItem.toSet : ClassItem → CharSet
  | .char c => .single c
  | .set s => s

/-- A character or an escape in a class. Where classes are of ASCII, so are the characters. -/
def classItem? (flags : Flags) (text : List Char) : Option (ClassItem × List Char) :=
  let char (c : Char) (rest : List Char) : Option (ClassItem × List Char) :=
    if flags.allScripts || c.toNat < 128 then some (.char c, rest) else none
  match text with
  | '\\' :: rest =>
    match escape? flags rest with
    | some (.char c, rest) => char c rest
    | some (.set s, rest) => some (.set s, rest)
    | _ => none
  | c :: rest => char c rest
  | [] => none

/-- An item, or two characters as the ends of a range. A hyphen before another one, or before the
closing bracket, does not make a range. -/
def classRange? (flags : Flags) (text : List Char) : Option (CharSet × List Char) := do
  let (first, rest) ← classItem? flags text
  match flags.skip rest with
  | [] => none
  | '-' :: after =>
    if flags.peek? after = some ']' || flags.peek? after = some '-' then
      some (first.toSet, '-' :: after)
    else
      match first, ← classItem? flags (flags.skip after) with
      | .char low, (.char high, rest) => if low ≤ high then some (.range low high, rest) else none
      | _, _ => none
  | rest => some (first.toSet, rest)

/-- A named class of ASCII characters between brackets and colons, from its opening bracket on, and
whether it is written as negated. -/
def asciiClass? : List Char → Option ((CharSet × Bool) × List Char)
  | '[' :: ':' :: rest =>
    let (negated, rest) := match rest with
      | '^' :: rest => (true, rest)
      | _ => (false, rest)
    match rest.dropWhile (· != ':') with
    | ':' :: ']' :: after =>
      let name := String.ofList (rest.takeWhile (· != ':'))
      (CharSet.ascii? name).map fun s => ((s, negated), after)
    | _ => none
  | _ => none

/-! ### Lists -/

/-- What was read of a list. -/
structure Listed where
  set : CharSet
  /-- The number of its items. -/
  count : Nat
  /-- How deep its items are. -/
  inner : Nat

namespace Listed

def start : Listed := ⟨.empty, 0, 0⟩

def add (l : Listed) (s : CharSet) (depth : Nat) : Listed :=
  ⟨l.set.union s, l.count + 1, max l.inner depth⟩

/-- Several items are one level deeper than one. -/
def depth (l : Listed) : Nat := if l.count ≤ 1 then l.inner else l.inner + 1

end Listed

/-- An operation with what stands before it, and how deep that is. -/
structure LeftOperand where
  operation : SetOperation
  set : CharSet
  depth : Nat

/-- The set and the depth of what was read: a list, after the operation before it if there is
one. -/
def settle (flags : Flags) (left : Option LeftOperand) (l : Listed) : CharSet × Nat :=
  match left with
  | some left =>
    (left.operation.apply (foldCase flags left.set) (foldCase flags l.set),
      max left.depth l.depth + 1)
  | none => (l.set, l.depth)

/-- A class, or what is left of it, with its depth and the text after it. -/
abbrev ClassReader := List Char → Option ((CharSet × Nat) × List Char)

/-- The rest of a class up to its closing bracket; `inner` reads a class within it. -/
def classRest? (flags : Flags) (inner : ClassReader) :
    Nat → Option LeftOperand → Listed → ClassReader
  | 0, _, _, _ => none
  | fuel + 1, left, l, text =>
    let operation (o : SetOperation) (rest : List Char) : Option ((CharSet × Nat) × List Char) :=
      let (s, depth) := settle flags left l
      classRest? flags inner fuel (some ⟨o, s, depth⟩) .start rest
    match flags.skip text with
    | [] => none
    | ']' :: rest => some (settle flags left l, rest)
    | '&' :: '&' :: rest => operation .intersection rest
    | '-' :: '-' :: rest => operation .difference rest
    | '~' :: '~' :: rest => operation .symmetric rest
    | '[' :: rest =>
      match asciiClass? ('[' :: rest) with
      | some ((s, negated), rest) =>
        match finishSet? flags negated s with
        | some s => classRest? flags inner fuel left (l.add s 0) rest
        | none => none
      | none =>
        match inner rest with
        | some ((s, depth), rest) => classRest? flags inner fuel left (l.add s depth) rest
        | none => none
    | text =>
      match classRange? flags text with
      | some (s, rest) => classRest? flags inner fuel left (l.add s 0) rest
      | none => none

/-- Hyphens at the front of a class stand for themselves. -/
def leadingHyphens (flags : Flags) : Nat → Listed → List Char → Listed × List Char
  | 0, l, text => (l, text)
  | fuel + 1, l, text =>
    match flags.skip text with
    | '-' :: rest => leadingHyphens flags fuel (l.add (.single '-') 0) rest
    | text => (l, text)

/-- A class after its opening bracket; classes nest to at most so many levels. A closing bracket
at the front stands for itself. -/
def bracketClass? (flags : Flags) (fuel : Nat) : Nat → ClassReader
  | 0, _ => none
  | level + 1, text => do
    let (negated, text) := match flags.skip text with
      | '^' :: rest => (true, rest)
      | text => (false, text)
    let (l, text) := match leadingHyphens flags fuel .start text with
      | (⟨_, 0, _⟩, ']' :: rest) => (Listed.start.add (.single ']') 0, rest)
      | (l, text) => (l, text)
    let ((s, depth), rest) ← classRest? flags (bracketClass? flags fuel level) fuel none l text
    return ((← finishSet? flags negated s, depth + 1), rest)

end RowQuery.Pattern
