/-
# Letter case

Capital and small forms of a whole text, for every script. A capital form may
take several characters (`ß` becomes `SS`). A capital sigma at the end of a
word has the small form `ς`, elsewhere `σ`: it ends a word when the nearest
character before it that is no modifier is a cased letter, and the nearest one
after it is not.

Key definitions: `upper`, `lower`, `asciiUpper`, `asciiLower`.
-/
import RowQuery.Text.CaseTable

namespace RowQuery.Text

/-! ### The letters A to Z -/

/-- The capital form, for the letters a to z alone. -/
def asciiUpper (text : String) : String := String.ofList (text.toList.map Char.toUpper)

/-- The small form, for the letters A to Z alone. -/
def asciiLower (text : String) : String := String.ofList (text.toList.map Char.toLower)

/-! ### All scripts -/

/-- The capital form of a character. -/
def upperChar (c : Char) : List Char :=
  if c.toNat < 128 then [c.toUpper]
  else match upperSequences.lookup c.toNat with
    | some sequence => sequence.map Char.ofNat
    | none => [(upperTable.get? c).getD c]

/-- The capital form of a text. -/
def upper (text : List Char) : List Char := text.flatMap upperChar

/-- A cased letter, after any number of characters that are passed over. -/
def startsCased (text : List Char) : Bool :=
  match text.dropWhile caseIgnorableRuns.contains with
  | c :: _ => casedRuns.contains c
  | [] => false

/-- The small form of a character between the text before it, nearest first, and after it. -/
def lowerChar (before : List Char) (c : Char) (after : List Char) : List Char :=
  if c.toNat < 128 then [c.toLower]
  else if c = 'Σ' then [if startsCased before && !startsCased after then 'ς' else 'σ']
  else if c = 'İ' then ['i', Char.ofNat 0x307]
  else [(lowerTable.get? c).getD c]

/-- The small form of the text that follows `before`, which is in reverse. -/
def lowerFrom (before : List Char) : List Char → List Char
  | [] => []
  | c :: rest => lowerChar before c rest ++ lowerFrom (c :: before) rest

/-- The small form of a text. -/
def lower (text : List Char) : List Char := lowerFrom [] text

end RowQuery.Text
