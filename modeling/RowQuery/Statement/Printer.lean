/-
# Text of expressions

The text of an expression, and the name of the column that a select item makes:
its alias, the name of a column or function, or else the text. Parentheses are
not written: the tree of an expression that needs none is read back from its
text.

Key definitions: `Expr.text`, `SelectItem.columnName`, `SelectItem.text`.
-/
import RowQuery.Statement
import RowQuery.Value.Order

namespace RowQuery

/-- An operator as it is written. -/
def BinaryOp.symbol : BinaryOp → String
  | .add => "+"
  | .subtract => "-"
  | .multiply => "*"
  | .divide => "/"
  | .equal => "="
  | .notEqual => "!="
  | .less => "<"
  | .greater => ">"
  | .lessEqual => "<="
  | .greaterEqual => ">="
  | .and => "AND"

namespace Expr

/-- The characters of a string literal between its quotes: a quote is written twice. -/
def doubleQuotes : List Char → List Char
  | [] => []
  | c :: rest => if c = '\'' then '\'' :: '\'' :: doubleQuotes rest else c :: doubleQuotes rest

/-- A literal as it is written. -/
def literalText : Value → String
  | .string s => String.ofList ('\'' :: (doubleQuotes s.toList ++ ['\'']))
  | .null => "NULL"
  | v => v.text

/-- The word NOT in front of an operator. -/
def negation (negated : Bool) : String := if negated then "NOT " else ""

/-- What is written between two clauses, if both are there. -/
def between (first second : Bool) : String := if first && second then " " else ""

mutual

/-- The text of an expression. -/
def text : Expr → String
  | .identifier name => name
  | .literal value => literalText value
  | .binary left op right => left.text ++ " " ++ op.symbol ++ " " ++ right.text
  | .isNull operand negated => operand.text ++ " IS " ++ negation negated ++ "NULL"
  | .inList left candidates negated =>
    left.text ++ " " ++ negation negated ++ "IN (" ++ listText candidates ++ ")"
  | .like left pattern negated => left.text ++ " " ++ negation negated ++ "LIKE " ++ pattern.text
  | .call name args => name ++ "(" ++ listText args ++ ")"
  | .window name args partitionBy orderBy =>
    name ++ "(" ++ listText args ++ ") OVER (" ++
      (if partitionBy.isEmpty then "" else "PARTITION BY ") ++ listText partitionBy ++
      between (!partitionBy.isEmpty) (!orderBy.isEmpty) ++
      (if orderBy.isEmpty then "" else "ORDER BY ") ++ keysText orderBy ++ ")"
  | .case branches otherwise => "CASE" ++ branchesText branches ++ otherwiseText otherwise ++ " END"
  | .star => "*"
  | .subquery _ => "(subquery)"

/-- Expressions with commas between them. -/
def listText : List Expr → String
  | [] => ""
  | [e] => e.text
  | e :: rest => e.text ++ ", " ++ listText rest

/-- Sort keys with commas between them; only the descending direction is written. -/
def keysText : List SortKey → String
  | [] => ""
  | [⟨e, direction⟩] => e.text ++ directionText direction
  | ⟨e, direction⟩ :: rest => e.text ++ directionText direction ++ ", " ++ keysText rest

def directionText : Direction → String
  | .ascending => ""
  | .descending => " DESC"

def branchesText : List Branch → String
  | [] => ""
  | ⟨condition, result⟩ :: rest =>
    " WHEN " ++ condition.text ++ " THEN " ++ result.text ++ branchesText rest

def otherwiseText : Option Expr → String
  | none => ""
  | some e => " ELSE " ++ e.text

end

/-- The name of the column of an expression without an alias. -/
def columnName : Expr → String
  | .identifier name => name
  | .call name _ => Text.asciiLower name
  | .window name .. => Text.asciiLower name
  | e => e.text

end Expr

namespace SelectItem

/-- The name of the column that an item makes. -/
def columnName (item : SelectItem) : String := item.aliasName.getD item.expr.columnName

/-- The text of an item. -/
def text (item : SelectItem) : String :=
  match item.aliasName with
  | some name => item.expr.text ++ " AS " ++ name
  | none => item.expr.text

/-- An item that stands for all columns. -/
def isStar (item : SelectItem) : Bool :=
  match item.aliasName, item.expr with
  | none, .star => true
  | _, _ => false

end SelectItem

end RowQuery
