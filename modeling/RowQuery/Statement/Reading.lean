/-
# Reading tokens

A reading is the tokens that are still to be read, the end of input among them,
and the diagnostics so far. A reader takes something from its front. Readers do
not fail: what they miss becomes a diagnostic, noted where the reading stands.

Key definitions: `Reading`, `Reader`, `Reader.advance`, `Reader.eat`,
`Reader.expect`, `Reader.commaList`, `Reader.bounded`.
-/
import RowQuery.Statement.Diagnostic

namespace RowQuery

/-- The tokens to be read and the diagnostics so far. -/
structure Reading where
  rest : List Token
  diagnostics : List Diagnostic

/-- The next token; the end of input is never read. -/
def Reading.current (s : Reading) : Token := s.rest.headD ⟨.endOfInput, "", 0⟩

/-- Takes something from the front of a reading. -/
abbrev Reader := StateM Reading

namespace Reader

/-! ### Looking -/

/-- The next token. -/
def current : Reader Token := fun s => (s.current, s)

/-- The kind of the next token. -/
def kind : Reader TokenKind := fun s => (s.current.kind, s)

/-- The kind of the token after the next. -/
def secondKind : Reader TokenKind := fun s => ((Reading.current ⟨s.rest.tail, []⟩).kind, s)

/-- Whether the next token is of a kind. -/
def sees (k : TokenKind) : Reader Bool := fun s => (s.current.kind == k, s)

/-! ### Taking -/

/-- Take the next token. -/
def advance : Reader Token := fun s => (s.current, { s with rest := s.rest.tail })

/-- Take the next token if it is of a kind. -/
def eat (k : TokenKind) : Reader Bool := fun s =>
  if s.current.kind == k then (true, { s with rest := s.rest.tail }) else (false, s)

/-- Note a cause at a position. -/
def reportAt (cause : Cause) (position : Nat) : Reader Unit := fun s =>
  ((), { s with diagnostics := s.diagnostics ++ [⟨cause, position⟩] })

/-- Note a cause at the next token. -/
def report (cause : Cause) : Reader Unit := fun s => reportAt cause s.current.position s

/-- Note that the next token is not what it should be. -/
def reportExpected (what : Expectation) : Reader Unit := fun s =>
  report (.expected what s.current) s

/-- Take a token of a kind, or note that it is not there. -/
def expect (k : TokenKind) (what : Expectation) : Reader Bool := do
  if ← eat k then pure true
  else
    reportExpected what
    pure false

/-! ### Repeating -/

/-- A reader that repeats itself, with a bound that the tokens left do not exceed. -/
def bounded {α : Type} (reader : Nat → Reader α) : Reader α := fun s => reader s.rest.length s

/-- Items after a comma each. -/
def commaRest {α : Type} (item : Reader α) : Nat → Reader (List α)
  | 0 => pure []
  | n + 1 => do
    if ← eat .comma then
      let first ← item
      let rest ← commaRest item n
      pure (first :: rest)
    else pure []

/-- One item or more with commas between them. -/
def commaList {α : Type} (item : Reader α) : Reader (List α) := do
  let first ← item
  let rest ← bounded (commaRest item)
  pure (first :: rest)

/-- Take all tokens of a kind at the front. -/
def skipAll (k : TokenKind) : Nat → Reader Unit
  | 0 => pure ()
  | n + 1 => do if ← eat k then skipAll k n

end Reader

end RowQuery
