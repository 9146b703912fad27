/-
# Tokens

A token is a piece of query text: what kind of piece it is, its literal text,
and the position of its first character. A string's literal is its content; a
keyword keeps the spelling it was written in.

Key definitions: `Keyword`, `TokenKind`, `Token`, `Token.describe`.
-/
import RowQuery.Text.Case

namespace RowQuery

/-- The reserved words. -/
inductive Keyword where
  | SELECT | DISTINCT | FROM | WHERE | AS | JOIN | INNER | LEFT | RIGHT | FULL | OUTER |
  CROSS | ON | GROUP | BY | HAVING | ORDER | ASC | DESC | LIMIT | OFFSET | UNION | INTERSECT
  | EXCEPT | ALL | WITH | OVER | PARTITION | CASE | WHEN | THEN | ELSE | END | IN | LIKE |
  NOT | IS | NULL | AND | TRUE | FALSE
  deriving DecidableEq, Repr

namespace Keyword

/-- A keyword in capitals. -/
def spelling : Keyword → String
  | .SELECT => "SELECT"
  | .DISTINCT => "DISTINCT"
  | .FROM => "FROM"
  | .WHERE => "WHERE"
  | .AS => "AS"
  | .JOIN => "JOIN"
  | .INNER => "INNER"
  | .LEFT => "LEFT"
  | .RIGHT => "RIGHT"
  | .FULL => "FULL"
  | .OUTER => "OUTER"
  | .CROSS => "CROSS"
  | .ON => "ON"
  | .GROUP => "GROUP"
  | .BY => "BY"
  | .HAVING => "HAVING"
  | .ORDER => "ORDER"
  | .ASC => "ASC"
  | .DESC => "DESC"
  | .LIMIT => "LIMIT"
  | .OFFSET => "OFFSET"
  | .UNION => "UNION"
  | .INTERSECT => "INTERSECT"
  | .EXCEPT => "EXCEPT"
  | .ALL => "ALL"
  | .WITH => "WITH"
  | .OVER => "OVER"
  | .PARTITION => "PARTITION"
  | .CASE => "CASE"
  | .WHEN => "WHEN"
  | .THEN => "THEN"
  | .ELSE => "ELSE"
  | .END => "END"
  | .IN => "IN"
  | .LIKE => "LIKE"
  | .NOT => "NOT"
  | .IS => "IS"
  | .NULL => "NULL"
  | .AND => "AND"
  | .TRUE => "TRUE"
  | .FALSE => "FALSE"

/-- All keywords. -/
def all : List Keyword :=
  [.SELECT, .DISTINCT, .FROM, .WHERE, .AS, .JOIN, .INNER, .LEFT, .RIGHT, .FULL, .OUTER,
   .CROSS, .ON, .GROUP, .BY, .HAVING, .ORDER, .ASC, .DESC, .LIMIT, .OFFSET, .UNION,
   .INTERSECT, .EXCEPT, .ALL, .WITH, .OVER, .PARTITION, .CASE, .WHEN, .THEN, .ELSE, .END,
   .IN, .LIKE, .NOT, .IS, .NULL, .AND, .TRUE, .FALSE]

/-- The keyword that a name is, whatever its case. -/
def ofName? (name : String) : Option Keyword :=
  all.find? fun word => word.spelling == Text.asciiUpper name

end Keyword

/-- What a piece of query text is. -/
inductive TokenKind where
  /-- A character that starts no token, or a string without an end. -/
  | illegal
  | endOfInput
  | identifier
  | integer
  /-- Digits, a point, and digits. -/
  | decimal
  | string
  | equal
  /-- Written in either of two ways. -/
  | notEqual
  | less
  | greater
  | lessEqual
  | greaterEqual
  | plus
  | minus
  | asterisk
  | slash
  | comma
  | semicolon
  | leftParen
  | rightParen
  | keyword (word : Keyword)
  deriving DecidableEq, Repr

/-- A piece of query text. -/
structure Token where
  kind : TokenKind
  literal : String
  position : Nat
  deriving DecidableEq, Repr

/-- How a message names a token. -/
def Token.describe (t : Token) : String :=
  match t.kind with
  | .endOfInput => "end of input"
  | .string => "string '" ++ t.literal ++ "'"
  | _ => "'" ++ t.literal ++ "'"

end RowQuery
