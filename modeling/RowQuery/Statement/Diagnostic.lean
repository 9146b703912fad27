/-
# What is wrong with a text

The causes for which a text is no statement, each with the position where it
was noticed, and the wording of all of them.

Key definitions: `Expectation`, `Cause`, `Diagnostic`, `Diagnostic.message`.
-/
import RowQuery.Token

namespace RowQuery

/-- What a text should have had at a place. -/
inductive Expectation where
  | word (keyword : Keyword)
  /-- One keyword after another. -/
  | wordAfter (keyword previous : Keyword)
  | openParen
  | openParenAfter (previous : Keyword)
  | closeParen
  | closeOfList
  | closeOfCall
  | closeOfWindow
  | endOfCase
  | tableExprName
  | tableName
  | columnAlias
  | tableAlias
  | rowCount
  | negatable
  deriving DecidableEq, Repr

def Expectation.describe : Expectation → String
  | .word keyword => keyword.spelling
  | .wordAfter keyword previous => keyword.spelling ++ " after " ++ previous.spelling
  | .openParen => "'('"
  | .openParenAfter previous => "'(' after " ++ previous.spelling
  | .closeParen => "')'"
  | .closeOfList => "')' to close IN list"
  | .closeOfCall => "')' to close function call"
  | .closeOfWindow => "')' to close window"
  | .endOfCase => "END to close CASE"
  | .tableExprName => "common table expression name"
  | .tableName => "table name"
  | .columnAlias => "alias after AS"
  | .tableAlias => "table alias after AS"
  | .rowCount => "a row count"
  | .negatable => "IN or LIKE after NOT"

/-- Why a text is no statement. -/
inductive Cause where
  | expected (what : Expectation) (found : Token)
  | joinWithoutCondition (table : String)
  /-- Something follows a whole statement. -/
  | trailing (found : Token)
  | secondSetOperator
  | disjunction
  | unterminatedString
  | strayCharacter (text : String)
  | endOfInput
  /-- No expression starts with this token. -/
  | notAnExpression (found : Token)
  deriving DecidableEq, Repr

def Cause.message : Cause → String
  | .expected what found => "expected " ++ what.describe ++ ", found " ++ found.describe
  | .joinWithoutCondition table => "JOIN " ++ table ++ " requires an ON condition"
  | .trailing found => "unexpected " ++ found.describe ++ " after end of statement"
  | .secondSetOperator => "only one set operation per statement is supported"
  | .disjunction => "OR is not supported; combine conditions with IN, CASE or UNION"
  | .unterminatedString => "unterminated string literal"
  | .strayCharacter text => "unexpected character '" ++ text ++ "'"
  | .endOfInput => "unexpected end of input"
  | .notAnExpression found => "unexpected " ++ found.describe ++ " in expression"

/-- A cause and the position where it was noticed. -/
structure Diagnostic where
  cause : Cause
  position : Nat
  deriving DecidableEq, Repr

def Diagnostic.message (d : Diagnostic) : String :=
  d.cause.message ++ " at position " ++ toString d.position

end RowQuery
