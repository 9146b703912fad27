/-
# Escapes in patterns

What a backslash may stand before: a character that has a meaning otherwise, the
number of a character, a letter for a class or for a look around, the name of a
property.

Key definitions: `Pattern.Escape`, `Pattern.escape?`.
-/
import RowQuery.CharSet.Variant
import RowQuery.Pattern
import RowQuery.Pattern.Flags
import RowQuery.Property

namespace RowQuery.Pattern

/-! ### Characters -/

def hexDigit? (c : Char) : Option Nat :=
  if c.isDigit then some (c.toNat - 48)
  else if 'a' ≤ c ∧ c ≤ 'f' then some (c.toNat - 87)
  else if 'A' ≤ c ∧ c ≤ 'F' then some (c.toNat - 55)
  else none

/-- Hexadecimal digits as a character. -/
def hexChar? (digits : List Char) : Option Char := do
  if digits.isEmpty then none
  let n ← digits.foldlM (fun n d => (hexDigit? d).map (n * 16 + ·)) 0
  if n < 0xD800 ∨ (0xE000 ≤ n ∧ n < 0x110000) then some (Char.ofNat n) else none

/-- So many characters that count. -/
def taken? (flags : Flags) : Nat → List Char → Option (List Char × List Char)
  | 0, text => some ([], text)
  | n + 1, text =>
    match flags.skip text with
    | c :: rest => (taken? flags n rest).map fun (more, rest) => (c :: more, rest)
    | [] => none

/-- A character by its number: so many hexadecimal digits, or any number of them in braces. -/
def hexEscape? (flags : Flags) (width : Nat) (text : List Char) : Option (Char × List Char) := do
  let (digits, rest) ← match flags.skip text with
    | '\x7b' :: rest => flags.braced? rest
    | text => taken? flags width text
  return (← hexChar? digits, rest)

/-- A character by two hexadecimal digits, or by any number of them in braces. Where classes are of
ASCII, two digits are a byte and must be of ASCII. -/
def byteEscape? (flags : Flags) (text : List Char) : Option (Char × List Char) := do
  let (c, rest) ← hexEscape? flags 2 text
  if flags.allScripts || c.toNat < 128 || (flags.skip text).head? = some '\x7b' then
    some (c, rest)
  else none

/-- A character that stands for itself after a backslash. -/
def isEscapable (c : Char) : Bool :=
  c.toNat < 128 && !c.isAlphanum && c != '<' && c != '>'

/-! ### Classes -/

/-- A set with the case variants of its members if the flags say so. -/
def foldCase (flags : Flags) (s : CharSet) : CharSet :=
  if !flags.caseless then s else if flags.allScripts then s.caseless else s.asciiCaseless

/-- A set without regard to case if the flags say so, and negated if it is written so. Where
classes are of ASCII none may be negated. -/
def finishSet? (flags : Flags) (negated : Bool) (s : CharSet) : Option CharSet :=
  if !negated then some (foldCase flags s)
  else if flags.allScripts then some (foldCase flags s).complement
  else none

/-- The class of a letter: digits, blanks or word characters, of all scripts or of ASCII. Where
classes are of ASCII none may be negated. -/
def classEscape? (flags : Flags) (c : Char) : Option CharSet :=
  let of (all ascii : CharSet) (negated : Bool) : Option CharSet :=
    if flags.allScripts then some (if negated then all.complement else all)
    else if negated then none
    else some ascii
  match c with
  | 'd' => of Property.decimalDigits CharSet.asciiDigits false
  | 'D' => of Property.decimalDigits CharSet.asciiDigits true
  | 's' => of Property.whiteSpace CharSet.asciiSpaces false
  | 'S' => of Property.whiteSpace CharSet.asciiSpaces true
  | 'w' => of Property.wordChars CharSet.asciiWordChars false
  | 'W' => of Property.wordChars CharSet.asciiWordChars true
  | _ => none

/-- A text in two parts, before and after the first `!=`. -/
def splitUnequal? : List Char → Option (List Char × List Char)
  | [] => none
  | '!' :: '=' :: rest => some ([], rest)
  | c :: rest => (splitUnequal? rest).map fun (key, value) => (c :: key, value)

/-- A text in two parts, before and after the first occurrence of a character. -/
def splitAt? (c : Char) (text : List Char) : Option (List Char × List Char) :=
  match text.dropWhile (· != c) with
  | _ :: value => some (text.takeWhile (· != c), value)
  | [] => none

/-- The property that is written between braces, and whether it is to be negated: a name, or a key
and a value, with an equals sign or a colon between them. -/
def property? (text : List Char) : Option (CharSet × Bool) :=
  let valued? (key value : List Char) : Option CharSet :=
    Property.valued? (Property.plainName key) (Property.plainName value)
  match splitUnequal? text with
  | some (key, value) => (valued? key value).map (·, true)
  | none =>
    match splitAt? ':' text <|> splitAt? '=' text with
    | some (key, value) => (valued? key value).map (·, false)
    | none => (Property.named? (Property.plainName text)).map (·, false)

/-- The property after `\p` or `\P`. Where classes are of ASCII there is none. -/
def propertyEscape? (flags : Flags) (negated : Bool) (text : List Char) :
    Option (CharSet × List Char) := do
  if !flags.allScripts then none
  let (name, rest) ← match flags.skip text with
    | '\x7b' :: rest => flags.braced? rest
    | '\\' :: _ => none
    | c :: rest => some ([c], rest)
    | [] => none
  let (s, unequal) ← property? name
  return (← finishSet? flags (negated != unequal) s, rest)

/-! ### Looks -/

/-- What a name in braces after `\b` looks for. -/
def lookNamed? (ascii : Bool) (name : List Char) : Option Look :=
  match String.ofList name with
  | "start" => some (.wordStart ascii)
  | "end" => some (.wordEnd ascii)
  | "start-half" => some (.wordStartHalf ascii)
  | "end-half" => some (.wordEndHalf ascii)
  | _ => none

/-- What `\b` looks for: a word boundary, or what a name in braces says. A brace that no letter
follows starts a repetition. -/
def boundary? (flags : Flags) (text : List Char) : Option (Look × List Char) :=
  let ascii := !flags.allScripts
  match text with
  | '\x7b' :: inside =>
    match flags.skip inside with
    | [] => none
    | c :: _ =>
      if c.isAlpha || c == '-' then do
        let (name, rest) ← flags.braced? inside
        return (← lookNamed? ascii name, rest)
      else some (.wordBoundary ascii, text)
  | _ => some (.wordBoundary ascii, text)

/-! ### All escapes -/

/-- What an escape stands for. -/
inductive Escape where
  | char (c : Char)
  | set (s : CharSet)
  | look (l : Look)

/-- An escape after its backslash. -/
def escape? (flags : Flags) : List Char → Option (Escape × List Char)
  | [] => none
  | c :: rest =>
    let ascii := !flags.allScripts
    match c with
    | 'x' => (byteEscape? flags rest).map fun (c, rest) => (.char c, rest)
    | 'u' => (hexEscape? flags 4 rest).map fun (c, rest) => (.char c, rest)
    | 'U' => (hexEscape? flags 8 rest).map fun (c, rest) => (.char c, rest)
    | 'p' => (propertyEscape? flags false rest).map fun (s, rest) => (.set s, rest)
    | 'P' => (propertyEscape? flags true rest).map fun (s, rest) => (.set s, rest)
    | 'a' => some (.char '\x07', rest)
    | 'f' => some (.char '\x0c', rest)
    | 't' => some (.char '\t', rest)
    | 'n' => some (.char '\n', rest)
    | 'r' => some (.char '\r', rest)
    | 'v' => some (.char '\x0b', rest)
    | 'A' => some (.look .textStart, rest)
    | 'z' => some (.look .textEnd, rest)
    | 'B' => some (.look (.noWordBoundary ascii), rest)
    | '<' => some (.look (.wordStart ascii), rest)
    | '>' => some (.look (.wordEnd ascii), rest)
    | 'b' => (boundary? flags rest).map fun (l, rest) => (.look l, rest)
    | _ =>
      match classEscape? flags c with
      | some s => some (.set s, rest)
      | none => if isEscapable c then some (.char c, rest) else none

end RowQuery.Pattern
