/-
# Reading JSON

The strict JSON grammar, with at most 127 levels of arrays and objects. A
number without point and exponent is an integer if it fits 64 bits, except for
the negative zero. Any other number is read as a significand of up to 64 bits
times a power of ten: digits beyond are dropped, and the power is applied by one
division or multiplication. A number that is too large is refused, and so is
half of a surrogate pair.

Key definitions: `Json.Document`, `Json.read?`, `Json.Document.toValue`,
`Json.Document.toRecord`, `Json.Document.toTable`.
-/
import RowQuery.Record

namespace RowQuery.Json

/-- What a JSON text says. The fields of an object are as they are written. -/
inductive Document where
  | null
  | boolean (b : Bool)
  | number (n : Number)
  | string (s : String)
  | array (items : List Document)
  | object (fields : List (String × Document))
  deriving Inhabited

/-! ### Numbers -/

/-- Significands are below this number. -/
def significandLimit : Nat := 2 ^ 64

/-- The digits that still fit the significand, appended to it, and those after them. -/
def appendDigits (significand : Nat) : List Char → Nat × List Char
  | [] => (significand, [])
  | d :: rest =>
    let longer := significand * 10 + (d.toNat - 48)
    if longer < significandLimit then appendDigits longer rest else (significand, d :: rest)

/-- A power of ten with a natural exponent of at most 308. -/
def powerOfTen (exponent : Nat) : Binary64 := .ofRatio false (10 ^ exponent) 1

/-- The number over ten to the `308 * steps + exponent`, divided in steps until it is zero. -/
def divideDown (exponent : Nat) : Nat → Binary64 → Binary64
  | 0, x => x / powerOfTen exponent
  | steps + 1, x => if x.isZero then x else divideDown exponent steps (x / powerOfTen 308)

/-- A significand times a power of ten. -/
def scale? (significand : Nat) (exponent : Int) : Option Binary64 :=
  let x := Binary64.ofRatio false significand 1
  if exponent < 0 then
    let n := (-exponent).toNat
    let steps := (n - 1) / 308
    some (divideDown (n - 308 * steps) steps x)
  else if significand = 0 then some x
  else if 308 < exponent then none
  else
    let scaled := x * powerOfTen exponent.toNat
    if scaled.isFinite then some scaled else none

/-- A number by its digits before and after the point and its exponent, if it has one. -/
def numberOf? (negative : Bool) (whole fraction : List Char) (exponent : Option Int) :
    Option Number :=
  let sign (x : Binary64) : Binary64 := if negative then -x else x
  let (significand, dropped) := appendDigits 0 whole
  if fraction.isEmpty && exponent.isNone && dropped.isEmpty then
    if negative && significand == 0 then some (.float (.zero true))
    else
      let n : Int := if negative then -(significand : Int) else significand
      match int64OfInt? n with
      | some i => some (.integer i)
      | none => some (.float (.ofInt n))
  else
    let (significand, unread) := appendDigits significand fraction
    let places : Int := dropped.length - (fraction.length - unread.length : Nat)
    (scale? significand (places + exponent.getD 0)).map fun x => .float (sign x)

/-- Digits at the front, one at least. -/
def digits? (text : List Char) : Option (List Char × List Char) :=
  match text.takeWhile Char.isDigit with
  | [] => none
  | digits => some (digits, text.dropWhile Char.isDigit)

/-- Digits with no zero in front of others. -/
def wholePart? (text : List Char) : Option (List Char × List Char) :=
  match digits? text with
  | some ('0' :: _ :: _, _) => none
  | other => other

/-- A point and digits, or nothing. -/
def fractionPart? : List Char → Option (List Char × List Char)
  | '.' :: rest => digits? rest
  | text => some ([], text)

/-- An exponent, or nothing. -/
def exponentPart? : List Char → Option (Option Int × List Char)
  | mark :: rest =>
    if mark = 'e' ∨ mark = 'E' then
      let (negative, body) := Numeral.splitSign rest
      (digits? body).map fun (digits, after) =>
        let n := Numeral.ofDigits digits
        (some (if negative then -(n : Int) else n), after)
    else some (none, mark :: rest)
  | [] => some (none, [])

/-- A number at the front of a text. -/
def number? (text : List Char) : Option (Number × List Char) := do
  let (negative, body) := match text with
    | '-' :: rest => (true, rest)
    | _ => (false, text)
  let (whole, rest) ← wholePart? body
  let (fraction, rest) ← fractionPart? rest
  let (exponent, rest) ← exponentPart? rest
  let n ← numberOf? negative whole fraction exponent
  pure (n, rest)

/-! ### Strings -/

/-- The value of a hexadecimal digit. -/
def hexDigit? (c : Char) : Option Nat :=
  let n := c.toNat
  if 48 ≤ n ∧ n ≤ 57 then some (n - 48)
  else if 65 ≤ n ∧ n ≤ 70 then some (n - 55)
  else if 97 ≤ n ∧ n ≤ 102 then some (n - 87)
  else none

/-- Four hexadecimal digits. -/
def unit? (a b c d : Char) : Option Nat := do
  pure ((← hexDigit? a) * 4096 + (← hexDigit? b) * 256 + (← hexDigit? c) * 16 + (← hexDigit? d))

/-- The character that an escape of one letter stands for. -/
def escaped? : Char → Option Char
  | '"' => some '"'
  | '\\' => some '\\'
  | '/' => some '/'
  | 'b' => some '\x08'
  | 'f' => some '\x0c'
  | 'n' => some '\n'
  | 'r' => some '\r'
  | 't' => some '\t'
  | _ => none

/-- The character of a surrogate pair. -/
def surrogatePair? (high low : Nat) : Option Char :=
  if 0xD800 ≤ high ∧ high < 0xDC00 ∧ 0xDC00 ≤ low ∧ low < 0xE000 then
    some (Char.ofNat (0x10000 + (high - 0xD800) * 1024 + (low - 0xDC00)))
  else none

/-- The character at the front of a string's body, possibly escaped. -/
def character? : List Char → Option (Char × List Char)
  | '\\' :: 'u' :: a :: b :: c :: d :: rest => do
    let unit ← unit? a b c d
    if unit < 0xD800 ∨ 0xE000 ≤ unit then pure (Char.ofNat unit, rest)
    else
      match rest with
      | '\\' :: 'u' :: e :: f :: g :: h :: rest =>
        pure (← surrogatePair? unit (← unit? e f g h), rest)
      | _ => none
  | '\\' :: c :: rest => (escaped? c).map (·, rest)
  | c :: rest => if c.toNat < 32 then none else some (c, rest)
  | [] => none

/-- The body of a string up to its closing quote. Every character takes one step of the bound. -/
def stringBody? : Nat → List Char → Option (List Char × List Char)
  | _, '"' :: rest => some ([], rest)
  | 0, _ => none
  | n + 1, text => do
    let (c, rest) ← character? text
    let (body, after) ← stringBody? n rest
    pure (c :: body, after)

/-- A string from its opening quote on. -/
def string? : List Char → Option (String × List Char)
  | '"' :: rest =>
    (stringBody? rest.length rest).map fun (body, after) => (String.ofList body, after)
  | _ => none

/-! ### Values -/

/-- The blanks of the grammar. -/
def isSpace (c : Char) : Bool := c == ' ' || c == '\n' || c == '\t' || c == '\r'

def skipSpace (text : List Char) : List Char := text.dropWhile isSpace

/-- The text after a word. -/
def afterWord? (word : List Char) (text : List Char) : Option (List Char) :=
  if word.isPrefixOf text then some (text.drop word.length) else none

/-- What is read from the front of a text, and the rest of the text. -/
abbrev Front (α : Type) := List Char → Option (α × List Char)

/-- Items with commas between them, up to a closing bracket. -/
def items? {α : Type} (closing : Char) (item : Front α) : Nat → Front (List α)
  | 0, _ => none
  | n + 1, text => do
    let (first, rest) ← item text
    match skipSpace rest with
    | c :: rest =>
      if c = closing then pure ([first], rest)
      else if c = ',' then
        let (others, after) ← items? closing item n (skipSpace rest)
        pure (first :: others, after)
      else none
    | [] => none

/-- Any number of items between brackets, after the opening one. -/
def bracketed? {α : Type} (closing : Char) (item : Front α) : Front (List α) := fun text =>
  match skipSpace text with
  | c :: rest =>
    if c = closing then some ([], rest) else items? closing item (rest.length + 1) (c :: rest)
  | [] => none

/-- A name, a colon and a value. -/
def field? {α : Type} (value : Front α) : Front (String × α) := fun text => do
  let (name, rest) ← string? text
  match skipSpace rest with
  | ':' :: rest =>
    let (v, after) ← value (skipSpace rest)
    pure ((name, v), after)
  | _ => none

/-- A value that is no array and no object. -/
def scalar? : Front Document := fun text =>
  match text with
  | 'n' :: _ => (afterWord? ['n', 'u', 'l', 'l'] text).map (.null, ·)
  | 't' :: _ => (afterWord? ['t', 'r', 'u', 'e'] text).map (.boolean true, ·)
  | 'f' :: _ => (afterWord? ['f', 'a', 'l', 's', 'e'] text).map (.boolean false, ·)
  | '"' :: _ => (string? text).map fun (s, rest) => (.string s, rest)
  | _ => (number? text).map fun (n, rest) => (.number n, rest)

/-- A value at the front of a text, with at most so many levels of arrays and objects. -/
def value? : Nat → Front Document
  | 0, text => scalar? text
  | depth + 1, text =>
    match text with
    | '[' :: rest =>
      (bracketed? ']' (value? depth) rest).map fun (items, rest) => (.array items, rest)
    | '\x7b' :: rest =>
      (bracketed? '\x7d' (field? (value? depth)) rest).map fun (fields, rest) =>
        (.object fields, rest)
    | _ => scalar? text

/-- The most levels of arrays and objects. -/
def depthLimit : Nat := 127

/-- What a whole text says. -/
def read? (text : List Char) : Option Document := do
  let (document, rest) ← value? depthLimit (skipSpace text)
  if (skipSpace rest).isEmpty then some document else none

/-! ### Data -/

namespace Document

mutual

/-- A document as a value: of several fields with one name the last. -/
def toValue : Document → Value
  | .null => .null
  | .boolean b => .boolean b
  | .number n => .number n
  | .string s => .string s
  | .array items => .array (itemValues items)
  | .object fields => .ofFields (fieldValues fields)

def itemValues : List Document → List Value
  | [] => []
  | d :: rest => d.toValue :: itemValues rest

def fieldValues : List (String × Document) → List (String × Value)
  | [] => []
  | (name, d) :: rest => (name, d.toValue) :: fieldValues rest

end

/-- A document as a record: an object by its fields, anything else as the column `value`. -/
def toRecord : Document → Record
  | .object fields => .ofFields (fieldValues fields)
  | d => .ofFields [("value", d.toValue)]

/-- A document as a table: the items of an array, or the one record that anything else is. -/
def toTable : Document → List Record
  | .array items => items.map toRecord
  | d => [d.toRecord]

end Document

end RowQuery.Json
