/-
# Text from bytes

Key definitions: `decode?`.
-/

namespace RowQuery.Text

/-- The text that bytes encode in UTF-8, if they do. -/
def decode? (bytes : List UInt8) : Option String := String.fromUTF8? ⟨bytes.toArray⟩

end RowQuery.Text
