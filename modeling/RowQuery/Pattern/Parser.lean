/-
# Reading patterns

The notation of patterns: characters, escapes, classes in brackets, groups,
alternatives, repetitions, and flags that hold to the end of their group.
Patterns may not look ahead or behind and may not refer back to what a group
took. What is no pattern has none, and so has a pattern that is too large or is
written too deep.

Key definitions: `Pattern.Part`, `Pattern.State`, `Pattern.ofText?`.
-/
import RowQuery.Pattern.Bracket
import RowQuery.Pattern.Size
import RowQuery.Text.Letter

namespace RowQuery.Pattern

/-- What was read: a pattern, and how deep it is written. -/
structure Part where
  pattern : Pattern
  depth : Nat

/-- The text to be read, the flags that hold, the names of groups so far, and the number of
groups. -/
structure State where
  rest : List Char
  flags : Flags
  names : List String
  groups : Nat

/-- The text at which reading goes on. -/
def State.skip (s : State) : List Char := s.flags.skip s.rest

/-! ### Repetitions -/

/-- A natural below `2 ^ 32`, between blanks. -/
def bound? (flags : Flags) (text : List Char) : Option (Nat × List Char) :=
  match flags.digits (Text.trimStart text) with
  | ([], _) => none
  | (digits, rest) =>
    let n := Nat.ofDigitChars 10 digits 0
    if n < 2 ^ 32 then some (n, Text.trimStart rest) else none

/-- The bounds of a repetition after the opening brace. -/
def bounds? (flags : Flags) (text : List Char) : Option ((Nat × Option Nat) × List Char) := do
  let (least, rest) ← bound? flags (flags.skip text)
  match rest with
  | '\x7d' :: rest => some ((least, some least), rest)
  | ',' :: rest =>
    match flags.skip rest with
    | '\x7d' :: rest => some ((least, none), rest)
    | rest =>
      let (most, rest) ← bound? flags rest
      match rest with
      | '\x7d' :: rest => if least ≤ most then some ((least, some most), rest) else none
      | _ => none
  | _ => none

/-- The text after a question mark, which says that a repetition is to be short. -/
def dropLazy : List Char → List Char
  | '?' :: rest => rest
  | text => text

/-! ### Groups -/

/-- Flags up to the colon or parenthesis after them; `seen` are those before, the last one
first. -/
def flags? (flags : Flags) (value : Bool) (seen : List Char) :
    List Char → Option (Flags × List Char × List Char)
  | [] => none
  | c :: rest =>
    if c = ':' || c = ')' then
      if seen.head? = some '-' then none else some (flags, seen, c :: rest)
    else if seen.contains c then none
    else if c = '-' then flags? flags false ('-' :: seen) rest
    else
      match flags.set? value c with
      | some flags => flags? flags value (c :: seen) rest
      | none => none

/-- The name of a group, up to the angle bracket after it. -/
def groupName? (text : List Char) : Option (String × List Char) :=
  match text.takeWhile (· != '>'), text.dropWhile (· != '>') with
  | c :: more, _ :: rest =>
    let isFirst (c : Char) : Bool := c == '_' || Text.isAlphabetic c
    let isRest (c : Char) : Bool := c == '_' || c == '.' || c == '[' || c == ']' ||
      Text.isAlphanumeric c
    if isFirst c && more.all isRest then some (String.ofList (c :: more), rest) else none
  | _, _ => none

/-- What was read of a sequence: a part, which may be repeated, or flags, which may not. -/
inductive Item where
  | part (p : Part)
  | flags

/-- Reads a part up to the end of its group. -/
abbrev GroupReader := State → Option (Part × State)

/-- A group after its opening parenthesis, or flags for the rest of the group around it. -/
def group? (inner : GroupReader) (s : State) : Option (Item × State) :=
  let inside (make : Pattern → Pattern) (start : State) : Option (Item × State) := do
    let (p, after) ← inner start
    match after.rest with
    | ')' :: rest =>
      some (.part ⟨make p.pattern, p.depth + 1⟩, { after with rest, flags := s.flags })
    | _ => none
  let numbered (names : List String) (rest : List Char) : Option (Item × State) :=
    inside (.group s.groups) { s with rest, names, groups := s.groups + 1 }
  let named (rest : List Char) : Option (Item × State) := do
    let (name, rest) ← groupName? rest
    if s.names.contains name then none else numbered (name :: s.names) rest
  match s.skip with
  | '?' :: '=' :: _ => none
  | '?' :: '!' :: _ => none
  | '?' :: '<' :: '=' :: _ => none
  | '?' :: '<' :: '!' :: _ => none
  | '?' :: 'P' :: '<' :: rest => named rest
  | '?' :: '<' :: rest => named rest
  | '?' :: rest =>
    match flags? s.flags true [] rest with
    | some (flags, _, ':' :: rest) => inside id { s with rest, flags }
    | some (flags, _ :: _, _ :: rest) => some (.flags, { s with rest, flags })
    | _ => none
  | rest => numbered s.names rest

/-! ### Sequences -/

/-- A character that stands for itself. -/
def character (flags : Flags) (c : Char) : Pattern := ofSet (foldCase flags (.single c))

/-- What a point takes. -/
def dot? (flags : Flags) : Option Pattern :=
  if !flags.allScripts then none
  else if flags.dotAll then some (.set .any)
  else if flags.returns then some (.set (CharSet.ofChars [('\n', '\n'), ('\r', '\r')]).complement)
  else some (.set (CharSet.single '\n').complement)

/-- What a caret and a dollar sign look for. -/
def lineLook (flags : Flags) (text line returnLine : Look) : Pattern :=
  .look (if flags.multiline then (if flags.returns then returnLine else line) else text)

/-- Patterns are written to at most so many levels. -/
def depthLimit : Nat := 250

/-- One item at the front of a text that is not at its end. -/
def item? (fuel : Nat) (inner : GroupReader) (s : State) (c : Char) (rest : List Char) :
    Option (Item × State) :=
  let plain (p : Pattern) (rest : List Char) : Item × State := (.part ⟨p, 0⟩, { s with rest })
  match c with
  | '(' => group? inner { s with rest }
  | '[' =>
    (bracketClass? s.flags fuel depthLimit rest).map fun ((chars, depth), rest) =>
      (.part ⟨ofSet chars, depth⟩, { s with rest })
  | '.' => (dot? s.flags).map fun p => plain p rest
  | '^' => some (plain (lineLook s.flags .textStart .lineStart .returnLineStart) rest)
  | '$' => some (plain (lineLook s.flags .textEnd .lineEnd .returnLineEnd) rest)
  | '\\' =>
    (escape? s.flags rest).map fun (e, rest) =>
      match e with
      | .char c => plain (character s.flags c) rest
      | .set chars => plain (ofSet chars) rest
      | .look l => plain (.look l) rest
  | c => some (plain (character s.flags c) rest)

/-- Items one after the other, of which the last one comes first. Several items are one level
deeper than one. -/
def sequence (items : List Item) : Part :=
  let part : Item → Part := fun item => match item with
    | .part p => p
    | .flags => ⟨.empty, 0⟩
  let parts := items.reverse.map part
  let inner := (parts.map (·.depth)).foldl max 0
  ⟨concat (parts.map (·.pattern)), if parts.length ≤ 1 then inner else inner + 1⟩

/-- A sequence up to a bar, a closing parenthesis or the end; `items` are those so far. -/
def branch? (size : Nat) (inner : GroupReader) : Nat → List Item → GroupReader
  | 0, _, _ => none
  | fuel + 1, items, s =>
    let repeated (least : Nat) (most : Option Nat) (rest : List Char) : Option (Part × State) :=
      match items with
      | .part p :: others =>
        let p : Part := ⟨p.pattern.times least most, p.depth + 1⟩
        branch? size inner fuel (.part p :: others) { s with rest }
      | _ => none
    match s.skip with
    | [] => some (sequence items, { s with rest := [] })
    | '|' :: rest => some (sequence items, { s with rest := '|' :: rest })
    | ')' :: rest => some (sequence items, { s with rest := ')' :: rest })
    | '*' :: rest => repeated 0 none (dropLazy rest)
    | '+' :: rest => repeated 1 none (dropLazy rest)
    | '?' :: rest => repeated 0 (some 1) (dropLazy rest)
    | '\x7b' :: rest =>
      match bounds? s.flags rest with
      | some ((least, most), rest) => repeated least most (dropLazy (s.flags.skip rest))
      | none => none
    | c :: rest =>
      match item? size inner s c rest with
      | some (item, s) => branch? size inner fuel (item :: items) s
      | none => none

/-- Sequences with bars between them, of which those in `parts` come before, the last one first.
Alternatives are one level deeper than one sequence. -/
def alternatives? (size : Nat) (inner : GroupReader) : Nat → List Part → GroupReader
  | 0, _, _ => none
  | fuel + 1, parts, s =>
    match branch? size inner size [] s with
    | some (p, s) =>
      match s.rest, parts with
      | '|' :: rest, parts => alternatives? size inner fuel (p :: parts) { s with rest }
      | _, [] => some (p, s)
      | _, parts =>
        let parts := (p :: parts).reverse
        let inner := (parts.map (·.depth)).foldl max 0
        some (⟨alternation (parts.map (·.pattern)), inner + 1⟩, s)
    | none => none

/-- Reads a part whose groups nest to fewer than so many levels; `size` bounds the number of items
in a row. -/
def ofLevel (size : Nat) : Nat → GroupReader
  | 0, _ => none
  | level + 1, s => alternatives? size (ofLevel size level) size [] s

/-- The pattern that a whole text writes. -/
def ofText? (text : List Char) : Option Pattern :=
  match ofLevel (text.length + 2) (depthLimit + 1) ⟨text, {}, [], 1⟩ with
  | some (p, s) =>
    if s.rest.isEmpty && p.depth ≤ depthLimit && !p.pattern.isTooLarge then some p.pattern else none
  | none => none

end RowQuery.Pattern
