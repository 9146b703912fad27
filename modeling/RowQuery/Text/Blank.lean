/-
# Blanks

The blank characters are those with the white-space property: tab to carriage
return, the space, the next-line and no-break characters, and the spaces and
line breaks of other scripts. Trimming removes them from the ends of a text.

Key definitions: `isBlank`, `trimStart`, `trimEnd`, `trim`.
-/

namespace RowQuery.Text

/-- A white-space character of any script. -/
def isBlank (c : Char) : Bool :=
  let n := c.toNat
  (9 ≤ n && n ≤ 13) || n == 0x20 || n == 0x85 || n == 0xA0 || n == 0x1680 ||
    (0x2000 ≤ n && n ≤ 0x200A) || n == 0x2028 || n == 0x2029 || n == 0x202F || n == 0x205F ||
    n == 0x3000

def trimStart (text : List Char) : List Char := text.dropWhile isBlank

def trimEnd (text : List Char) : List Char := (text.reverse.dropWhile isBlank).reverse

def trim (text : List Char) : List Char := trimEnd (trimStart text)

end RowQuery.Text
