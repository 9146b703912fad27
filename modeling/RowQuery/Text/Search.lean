/-
# Texts within texts

Key definitions: `contains`, `replace`, `split`.
-/

namespace RowQuery.Text

/-- Whether `part` occurs in a text; the empty text occurs everywhere. -/
def contains (part : List Char) : List Char → Bool
  | [] => part.isEmpty
  | c :: rest => part.isPrefixOf (c :: rest) || contains part rest

/-- The text after its first `skip` characters, with every occurrence of `part` replaced, from
left to right. -/
def replaceFrom (part new : List Char) : Nat → List Char → List Char
  | _, [] => []
  | skip + 1, _ :: rest => replaceFrom part new skip rest
  | 0, c :: rest =>
    if part.isPrefixOf (c :: rest) then new ++ replaceFrom part new (part.length - 1) rest
    else c :: replaceFrom part new 0 rest

/-- Every occurrence of a nonempty `part` replaced by `new`, from left to right. -/
def replace (part new text : List Char) : List Char := replaceFrom part new 0 text

/-- The parts of a text with one more character in front, which may be a separator. -/
def prepend (separator c : Char) : List (List Char) → List (List Char)
  | [] => [[c]]
  | part :: parts => if c = separator then [] :: part :: parts else (c :: part) :: parts

/-- A text in parts, with a separator between them. -/
def split (separator : Char) (text : List Char) : List (List Char) :=
  text.foldr (prepend separator) [[]]

end RowQuery.Text
