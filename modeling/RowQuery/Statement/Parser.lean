/-
# From tokens to statements

The grammar, level by level. An expression is a conjunction of comparisons of
sums of products of signed primaries; nested expressions and statements stand
in parentheses or between words. Every level is a reader that is given the
readers for what is nested, so that no level calls itself: nesting is tied into
a knot once, with a bound on its depth, and each time around takes a token.

A text that is no statement still has a tree, the best that could be made of
it, and diagnostics in the order in which they were noted.

Key definitions: `Grammar`, `Grammar.next`, `Grammar.ofDepth`,
`Statement.read`, `Statement.ofText`, `Expr.ofText`.
-/
import RowQuery.Statement
import RowQuery.Statement.Reading
import RowQuery.Token.Lexer

namespace RowQuery

/-- The readers for what may be nested in an expression. -/
structure Grammar where
  expression : Reader Expr
  body : Reader Statement

namespace Grammar

open Reader

/-! ### Lists and orders -/

/-- Whether the next token is the word OR, which is no keyword. -/
def seesOr : Reader Bool := do
  let token ← current
  pure (token.kind == .identifier && Text.asciiLower token.literal == "or")

/-- A sort key: an expression and the word for a direction, if any. -/
def sortKey (expression : Reader Expr) : Reader SortKey := do
  let expr ← expression
  if ← eat (.keyword .DESC) then pure ⟨expr, .descending⟩
  else
    let _ ← eat (.keyword .ASC)
    pure ⟨expr, .ascending⟩

/-- Sort keys after the word ORDER. -/
def orderBy (expression : Reader Expr) : Reader (List SortKey) := do
  if ← eat (.keyword .ORDER) then
    let _ ← expect (.keyword .BY) (.wordAfter .BY .ORDER)
    commaList (sortKey expression)
  else pure []

/-! ### Primaries -/

/-- The value of digits: a 64-bit integer, or the nearest floating-point number beyond. -/
def integerLiteral (digits : String) : Value :=
  match Numeral.int64? digits.toList with
  | some n => .integer n
  | none => .float ((Numeral.binary64? digits.toList).getD .notANumber)

/-- The value of digits with a point. -/
def decimalLiteral (digits : String) : Value :=
  .float ((Numeral.binary64? digits.toList).getD .notANumber)

/-- A statement if the next word starts one, else an expression. -/
def nested (g : Grammar) : Reader Expr := do
  if (← sees (.keyword .SELECT)) || (← sees (.keyword .WITH)) then
    return .subquery (← g.body)
  else g.expression

/-- The partition and the order of a window, after its call. -/
def window (g : Grammar) (name : String) (args : List Expr) : Reader Expr := do
  let _ ← advance
  let _ ← expect .leftParen (.openParenAfter .OVER)
  let partitionBy ← do
    if ← eat (.keyword .PARTITION) then
      let _ ← expect (.keyword .BY) (.wordAfter .BY .PARTITION)
      commaList g.expression
    else pure []
  let keys ← orderBy g.expression
  let _ ← expect .rightParen .closeOfWindow
  pure (.window name args partitionBy keys)

/-- The arguments of a call, from its parenthesis on, and its window if it has one. -/
def call (g : Grammar) (name : String) : Reader Expr := do
  let _ ← advance
  let args ← do
    if ← sees .rightParen then pure [] else commaList g.expression
  let _ ← expect .rightParen .closeOfCall
  if ← sees (.keyword .OVER) then window g (Text.asciiUpper name) args
  else pure (.call (Text.asciiUpper name) args)

/-- The branches of a case. -/
def branches (g : Grammar) : Nat → Reader (List Branch)
  | 0 => pure []
  | n + 1 => do
    if ← eat (.keyword .WHEN) then
      let condition ← g.expression
      let _ ← expect (.keyword .THEN) (.word .THEN)
      let result ← g.expression
      let rest ← branches g n
      pure (⟨condition, result⟩ :: rest)
    else pure []

/-- A case, from its first word on. -/
def caseExpr (g : Grammar) : Reader Expr := do
  let _ ← advance
  let list ← bounded (branches g)
  if list.isEmpty then reportExpected (.wordAfter .WHEN .CASE)
  let otherwise ← do
    if ← eat (.keyword .ELSE) then
      let e ← g.expression
      pure (some e)
    else pure none
  let _ ← expect (.keyword .END) .endOfCase
  pure (.case list otherwise)

/-- A token that starts no expression. -/
def stray (token : Token) : Reader Expr := do
  let _ ← advance
  reportAt (if token.literal.toList.head? = some '\'' then .unterminatedString
    else .strayCharacter token.literal) token.position
  pure (.literal .null)

/-- An expression without operators. -/
def primary (g : Grammar) : Reader Expr := do
  let token ← current
  match token.kind with
  | .integer => let _ ← advance; pure (.literal (integerLiteral token.literal))
  | .decimal => let _ ← advance; pure (.literal (decimalLiteral token.literal))
  | .string => let _ ← advance; pure (.literal (.string token.literal))
  | .keyword .TRUE => let _ ← advance; pure (.literal (.boolean true))
  | .keyword .FALSE => let _ ← advance; pure (.literal (.boolean false))
  | .keyword .NULL => let _ ← advance; pure (.literal .null)
  | .asterisk => let _ ← advance; pure .star
  | .leftParen =>
    let _ ← advance
    let inner ← nested g
    let _ ← expect .rightParen .closeParen
    pure inner
  | .keyword .CASE => caseExpr g
  | .identifier =>
    let _ ← advance
    if ← sees .leftParen then call g token.literal else pure (.identifier token.literal)
  | .illegal => stray token
  | .endOfInput => report .endOfInput; pure (.literal .null)
  | _ =>
    report (.notAnExpression token)
    let _ ← advance
    pure (.literal .null)

/-! ### Operators -/

/-- The opposite of an operand: of a literal number its own, else its difference from zero. -/
def negate : Expr → Expr
  | .literal (.integer n) => .literal (.integer (-n))
  | .literal (.float x) => .literal (.float (-x))
  | operand => .binary (.literal (.integer 0)) .subtract operand

/-- A primary after any number of minus signs. -/
def signed (g : Grammar) : Nat → Reader Expr
  | 0 => primary g
  | n + 1 => do
    if ← eat .minus then
      let operand ← signed g n
      pure (negate operand)
    else primary g

/-- Operands with operators between them, from left to right. -/
def chain (operator? : TokenKind → Option BinaryOp) (operand : Reader Expr) :
    Nat → Expr → Reader Expr
  | 0, left => pure left
  | n + 1, left => do
    match operator? (← kind) with
    | some op =>
      let _ ← advance
      let right ← operand
      chain operator? operand n (.binary left op right)
    | none => pure left

/-- An operand, and further ones after operators. -/
def leftAssociative (operator? : TokenKind → Option BinaryOp) (operand : Reader Expr) :
    Reader Expr := do
  let first ← operand
  bounded fun n => chain operator? operand n first

def productOperator? : TokenKind → Option BinaryOp
  | .asterisk => some .multiply
  | .slash => some .divide
  | _ => none

def sumOperator? : TokenKind → Option BinaryOp
  | .plus => some .add
  | .minus => some .subtract
  | _ => none

def comparisonOperator? : TokenKind → Option BinaryOp
  | .equal => some .equal
  | .notEqual => some .notEqual
  | .less => some .less
  | .greater => some .greater
  | .lessEqual => some .lessEqual
  | .greaterEqual => some .greaterEqual
  | _ => none

def andOperator? : TokenKind → Option BinaryOp
  | .keyword .AND => some .and
  | _ => none

/-- A product of signed primaries. -/
def product (g : Grammar) : Reader Expr := leftAssociative productOperator? (bounded (signed g))

/-- A sum of products. -/
def sum (g : Grammar) : Reader Expr := leftAssociative sumOperator? (product g)

/-- The list after the word IN, or the statement in its place. -/
def inList (g : Grammar) (left : Expr) (negated : Bool) : Reader Expr := do
  let _ ← advance
  let _ ← expect .leftParen (.openParenAfter .IN)
  let candidates ← do
    if (← sees (.keyword .SELECT)) || (← sees (.keyword .WITH)) then
      let statement ← g.body
      pure [.subquery statement]
    else commaList g.expression
  let _ ← expect .rightParen .closeOfList
  pure (.inList left candidates negated)

/-- The pattern after the word LIKE. -/
def like (g : Grammar) (left : Expr) (negated : Bool) : Reader Expr := do
  let _ ← advance
  let pattern ← sum g
  pure (.like left pattern negated)

/-- A sum, possibly compared with another one, with null, a list or a pattern. -/
def comparison (g : Grammar) : Reader Expr := do
  let left ← sum g
  let k ← kind
  match comparisonOperator? k with
  | some op =>
    let _ ← advance
    let right ← sum g
    pure (.binary left op right)
  | none =>
    match k with
    | .keyword .IS =>
      let _ ← advance
      let negated ← eat (.keyword .NOT)
      let _ ← expect (.keyword .NULL) (.wordAfter .NULL .IS)
      pure (.isNull left negated)
    | .keyword .NOT =>
      let _ ← advance
      match ← kind with
      | .keyword .IN => inList g left true
      | .keyword .LIKE => like g left true
      | _ => reportExpected .negatable; pure left
    | .keyword .IN => inList g left false
    | .keyword .LIKE => like g left false
    | _ => pure left

/-- A conjunction of comparisons. What follows the word OR is read and dropped. -/
def disjunction (g : Grammar) : Reader Expr := do
  let conjunction := leftAssociative andOperator? (comparison g)
  let e ← conjunction
  if ← seesOr then
    report .disjunction
    let _ ← advance
    let _ ← conjunction
  pure e

/-! ### Clauses -/

/-- An alias: a name after the word AS, or an identifier that is not the word OR. -/
def optionalAlias (accepts : TokenKind → Bool) (what : Expectation) : Reader (Option String) := do
  if ← eat (.keyword .AS) then
    if accepts (← kind) then
      let token ← advance
      pure (some token.literal)
    else
      reportExpected what
      pure none
  else if (← sees .identifier) && !(← seesOr) then
    let token ← advance
    pure (some token.literal)
  else pure none

/-- A token that names a table. -/
def isName (k : TokenKind) : Bool := k == .identifier || k == .string

/-- An item of a select list. -/
def selectItem (expression : Reader Expr) : Reader SelectItem := do
  if ← eat .asterisk then pure ⟨.star, none⟩
  else
    let expr ← expression
    let name ← optionalAlias isName .columnAlias
    pure ⟨expr, name⟩

/-- The word for a kind of source, if a name follows it. -/
def sourceKind : Reader (Option SourceKind) := do
  let token ← current
  match token.kind, isName (← secondKind), SourceKind.ofWord? token.literal with
  | .identifier, true, some k =>
    let _ ← advance
    pure (some k)
  | _, _, _ => pure none

/-- A table. -/
def tableRef : Reader TableRef := do
  let k ← sourceKind
  let name ← do
    if isName (← kind) then
      let token ← advance
      pure token.literal
    else
      reportExpected .tableName
      pure ""
  let other ← optionalAlias (· == .identifier) .tableAlias
  pure ⟨k, name, other⟩

/-- The word that a join starts with, apart from JOIN itself. -/
def joinWord? : TokenKind → Option JoinKind
  | .keyword .INNER => some .inner
  | .keyword .LEFT => some .left
  | .keyword .RIGHT => some .right
  | .keyword .FULL => some .full
  | .keyword .OUTER => some .full
  | .keyword .CROSS => some .cross
  | _ => none

/-- Whether the word OUTER may follow. -/
def takesOuter (k : TokenKind) : Bool :=
  k == .keyword .LEFT || k == .keyword .RIGHT || k == .keyword .FULL

/-- The words of a join. -/
def joinKind? : Reader (Option JoinKind) := do
  let k ← kind
  if k == .keyword .JOIN then
    let _ ← advance
    pure (some .inner)
  else
    match joinWord? k with
    | none => pure none
    | some join =>
      let _ ← advance
      if takesOuter k then
        let _ ← eat (.keyword .OUTER)
      let _ ← expect (.keyword .JOIN) (.word .JOIN)
      pure (some join)

/-- The joins of a query. -/
def joins (expression : Reader Expr) : Nat → Reader (List Join)
  | 0 => pure []
  | n + 1 => do
    match ← joinKind? with
    | none => pure []
    | some join =>
      let table ← tableRef
      let condition ← do
        if ← eat (.keyword .ON) then
          let e ← expression
          pure (some e)
        else
          if join != .cross then report (.joinWithoutCondition table.name)
          pure none
      let rest ← joins expression n
      pure (⟨join, table, condition⟩ :: rest)

/-- An expression after a word, if the word is there. -/
def clause (word : Keyword) (expression : Reader Expr) : Reader (Option Expr) := do
  if ← eat (.keyword word) then
    let e ← expression
    pure (some e)
  else pure none

/-- Expressions after the words GROUP BY. -/
def groupBy (expression : Reader Expr) : Reader (List Expr) := do
  if ← eat (.keyword .GROUP) then
    let _ ← expect (.keyword .BY) (.wordAfter .BY .GROUP)
    commaList expression
  else pure []

/-- Row counts are below `2 ^ 64`. -/
def rowCountOf? (token : Token) : Option Nat :=
  if token.kind == .integer then
    (Numeral.natural? token.literal.toList).filter (· < 2 ^ 64)
  else none

/-- A count of rows. What stands in its place is dropped. -/
def rowCount : Reader Nat := do
  let token ← current
  match rowCountOf? token with
  | some n =>
    let _ ← advance
    pure n
  | none =>
    reportExpected .rowCount
    if token.kind != .endOfInput then
      let _ ← advance
    pure 0

/-- The limit of a query: a count, an offset, or both in this order. -/
def limit : Reader (Option Limit) := do
  if ← eat (.keyword .LIMIT) then
    let count ← rowCount
    if ← eat (.keyword .OFFSET) then
      let offset ← rowCount
      pure (some ⟨some count, offset⟩)
    else pure (some ⟨some count, 0⟩)
  else if ← eat (.keyword .OFFSET) then
    let offset ← rowCount
    pure (some ⟨none, offset⟩)
  else pure none

/-- A select query. -/
def query (expression : Reader Expr) : Reader Query := do
  let _ ← expect (.keyword .SELECT) (.word .SELECT)
  let distinct ← eat (.keyword .DISTINCT)
  let items ← commaList (selectItem expression)
  let source ← do
    if ← expect (.keyword .FROM) (.word .FROM) then tableRef else pure ⟨none, "", none⟩
  let joins ← bounded (joins expression)
  let condition ← clause .WHERE expression
  let groupBy ← groupBy expression
  let having ← clause .HAVING expression
  let orderBy ← orderBy expression
  let limit ← limit
  pure { distinct, items, source, joins, condition, groupBy, having, orderBy, limit }

/-! ### Statements -/

/-- The word for a set operation. -/
def setOperator? : Reader (Option SetOperator) := do
  match ← kind with
  | .keyword .UNION =>
    let _ ← advance
    if ← eat (.keyword .ALL) then pure (some .unionAll) else pure (some .union)
  | .keyword .INTERSECT => let _ ← advance; pure (some .intersect)
  | .keyword .EXCEPT => let _ ← advance; pure (some .except)
  | _ => pure none

/-- A table expression: a name and a statement in parentheses. -/
def tableExpr (body : Reader Statement) : Reader TableExpr := do
  let name ← do
    if ← sees .identifier then
      let token ← advance
      pure token.literal
    else
      reportExpected .tableExprName
      pure ""
  let _ ← expect (.keyword .AS) (.word .AS)
  let _ ← expect .leftParen .openParen
  let statement ← body
  let _ ← expect .rightParen .closeParen
  pure ⟨name, statement⟩

/-- The second query of a statement. What follows one more set operation is read and dropped. -/
def compound (expression : Reader Expr) : Reader (Option Compound) := do
  match ← setOperator? with
  | none => pure none
  | some op =>
    let right ← query expression
    if (← setOperator?).isSome then
      report .secondSetOperator
      let _ ← query expression
    pure (some ⟨op, right⟩)

/-- A statement, up to where nothing more of it follows. -/
def statement (expression : Reader Expr) (body : Reader Statement) : Reader Statement := do
  let tables ← do
    if ← eat (.keyword .WITH) then commaList (tableExpr body) else pure []
  let primary ← query expression
  let second ← compound expression
  pure ⟨tables, primary, second⟩

/-! ### Nesting -/

/-- The grammar in which a given one is nested. -/
def next (g : Grammar) : Grammar :=
  let expression := disjunction g
  ⟨expression, statement expression g.body⟩

/-- A query of nothing. -/
def noQuery : Query := ⟨false, [], ⟨none, "", none⟩, [], none, [], none, [], none⟩

/-- No tokens are left for what is nested deeper than there are tokens. -/
def exhausted : Grammar where
  expression := do report .endOfInput; pure (.literal .null)
  body := do report .endOfInput; pure ⟨[], noQuery, none⟩

/-- The grammar with at most so many levels of nesting. -/
def ofDepth : Nat → Grammar
  | 0 => exhausted
  | n + 1 => (ofDepth n).next

end Grammar

/-! ### Whole texts -/

namespace Reading

/-- The reading of a text from its start. -/
def ofText (text : String) : Reading := ⟨Token.ofText text, []⟩

end Reading

open Reader in
/-- A whole statement, with semicolons after it. -/
def Statement.read (g : Grammar) : Reader Statement := do
  let statement ← g.body
  bounded (skipAll .semicolon)
  let token ← current
  if token.kind != .endOfInput then report (.trailing token)
  pure statement

/-- The tree of a text, the best that can be made of it, and what is wrong with the text. -/
def Statement.readText (text : String) : Statement × List Diagnostic :=
  let start := Reading.ofText text
  let (statement, final) := Statement.read (Grammar.ofDepth start.rest.length) start
  (statement, final.diagnostics)

/-- The statement that a text is, or what is wrong with it. -/
def Statement.ofText (text : String) : Except (List Diagnostic) Statement :=
  match Statement.readText text with
  | (statement, []) => .ok statement
  | (_, diagnostics) => .error diagnostics

/-- The expression that a text starts with, and what is wrong with it. -/
def Expr.readText (text : String) : Expr × List Diagnostic :=
  let start := Reading.ofText text
  let (e, final) := (Grammar.ofDepth start.rest.length).expression start
  (e, final.diagnostics)

end RowQuery
