/-
# From text to tokens

A text is cut into tokens from left to right; blanks and comments between them
are skipped. Cutting never fails: a character that starts no token is a token
of its own, and so is all that follows a quote that nothing closes. The last
token stands for the end of the text.

Key definitions: `Token.skipBlanks`, `Token.lexeme`, `Token.ofText`.
Key theorems: `Token.skipBlanks_length_le`, `Token.lexeme_length_le`,
`Token.scan_induction`.
-/
import RowQuery.Token
import RowQuery.Text.Blank
import RowQuery.Text.Letter

namespace RowQuery.Token

/-! ### Blanks and comments -/

/-- The text after its leading blanks and comments. A comment runs from two hyphens to the end of
the line; the flag says that one has begun. -/
def skipFrom : Bool → List Char → List Char
  | _, [] => []
  | true, c :: rest => if c = '\n' then skipFrom false rest else skipFrom true rest
  | false, c :: rest =>
    if Text.isBlank c then skipFrom false rest
    else if c = '-' ∧ rest.head? = some '-' then skipFrom true rest
    else c :: rest

/-- The text after its leading blanks and comments. -/
def skipBlanks (text : List Char) : List Char := skipFrom false text

theorem skipFrom_length_le (comment : Bool) (text : List Char) :
    (skipFrom comment text).length ≤ text.length := by
  induction text generalizing comment with
  | nil => cases comment <;> simp [skipFrom]
  | cons c rest ih =>
    cases comment <;> simp only [skipFrom, List.length_cons]
    · split
      · have := ih false; omega
      · split
        · have := ih true; omega
        · simp
    · split
      · have := ih false; omega
      · have := ih true; omega

theorem skipBlanks_length_le (text : List Char) : (skipBlanks text).length ≤ text.length :=
  skipFrom_length_le false text

/-! ### One token -/

/-- The content of a string and the text after its closing quote; a doubled quote stands for one.
None if no quote closes it. -/
def stringBody : List Char → Option (List Char × List Char)
  | [] => none
  | '\'' :: '\'' :: rest => (stringBody rest).map fun (body, after) => ('\'' :: body, after)
  | '\'' :: rest => some ([], rest)
  | c :: rest => (stringBody rest).map fun (body, after) => (c :: body, after)

/-- A character that may follow the first one of an identifier. -/
def isIdentifierRest (c : Char) : Bool := Text.isAlphanumeric c || c == '_' || c == '.'

/-- Digits, and after a point more digits if there is one at least. -/
def number (text : List Char) : TokenKind × List Char × List Char :=
  let whole := text.takeWhile Char.isDigit
  let rest := text.dropWhile Char.isDigit
  match rest with
  | '.' :: d :: more =>
    if d.isDigit then
      (.decimal, whole ++ '.' :: d :: more.takeWhile Char.isDigit, more.dropWhile Char.isDigit)
    else (.integer, whole, rest)
  | _ => (.integer, whole, rest)

/-- The kind of an identifier: a keyword if it is one. -/
def identifierKind (name : List Char) : TokenKind :=
  match Keyword.ofName? (String.ofList name) with
  | some word => .keyword word
  | none => .identifier

/-- The kind and the literal of the token that starts with `c`, and the text after it. -/
def lexeme (c : Char) (rest : List Char) : TokenKind × List Char × List Char :=
  match c, rest with
  | '=', _ => (.equal, [c], rest)
  | '!', '=' :: after => (.notEqual, ['!', '='], after)
  | '<', '=' :: after => (.lessEqual, ['<', '='], after)
  | '<', '>' :: after => (.notEqual, ['<', '>'], after)
  | '<', _ => (.less, [c], rest)
  | '>', '=' :: after => (.greaterEqual, ['>', '='], after)
  | '>', _ => (.greater, [c], rest)
  | '+', _ => (.plus, [c], rest)
  | '-', _ => (.minus, [c], rest)
  | '*', _ => (.asterisk, [c], rest)
  | '/', _ => (.slash, [c], rest)
  | ',', _ => (.comma, [c], rest)
  | ';', _ => (.semicolon, [c], rest)
  | '(', _ => (.leftParen, [c], rest)
  | ')', _ => (.rightParen, [c], rest)
  | '\'', _ =>
    match stringBody rest with
    | some (body, after) => (.string, body, after)
    | none => (.illegal, c :: rest, [])
  | _, _ =>
    if Text.isAlphabetic c || c == '_' then
      let name := c :: rest.takeWhile isIdentifierRest
      (identifierKind name, name, rest.dropWhile isIdentifierRest)
    else if c.isDigit then number (c :: rest)
    else (.illegal, [c], rest)

theorem stringBody_length_le {text body after : List Char}
    (h : stringBody text = some (body, after)) : after.length ≤ text.length := by
  fun_induction stringBody text generalizing body after with
  | case1 => simp at h
  | case2 rest ih =>
    obtain ⟨⟨b, a⟩, hb, he⟩ := Option.map_eq_some_iff.1 h
    cases he
    have := ih hb
    simp; omega
  | case3 rest => cases h; simp
  | case4 c rest _ _ ih =>
    obtain ⟨⟨b, a⟩, hb, he⟩ := Option.map_eq_some_iff.1 h
    cases he
    have := ih hb
    simp; omega

theorem dropWhile_length_le (p : Char → Bool) (text : List Char) :
    (text.dropWhile p).length ≤ text.length :=
  (List.dropWhile_sublist p).length_le

theorem number_length_le {c : Char} (hc : c.isDigit) (rest : List Char) :
    (number (c :: rest)).2.2.length ≤ rest.length := by
  have h : ((c :: rest).dropWhile Char.isDigit).length ≤ rest.length := by
    rw [List.dropWhile_cons, if_pos hc]
    exact dropWhile_length_le _ _
  simp only [number]
  split
  · rename_i d more heq
    rw [heq] at h
    split
    · have := dropWhile_length_le Char.isDigit more
      simp only [List.length_cons] at h this ⊢
      omega
    · simpa [heq] using h
  · exact h

/-- A token takes at least its first character. -/
theorem lexeme_length_le (c : Char) (rest : List Char) :
    (lexeme c rest).2.2.length ≤ rest.length := by
  unfold lexeme
  split <;> try simp
  · split
    · rename_i h; exact stringBody_length_le h
    · simp
  · split
    · exact dropWhile_length_le _ _
    · split
      · rename_i h; exact number_length_le h rest
      · simp

theorem rest_length_lt {text rest : List Char} {c : Char} (h : skipBlanks text = c :: rest) :
    (lexeme c rest).2.2.length < text.length := by
  have hblanks := skipBlanks_length_le text
  have hlexeme := lexeme_length_le c rest
  rw [h, List.length_cons] at hblanks
  omega

/-! ### All tokens -/

/-- The tokens of a text whose first character has the given position. -/
def scan (position : Nat) (text : List Char) : List Token :=
  match _h : skipBlanks text with
  | [] => [⟨.endOfInput, "", position + text.length⟩]
  | c :: rest =>
    let start := position + (text.length - (c :: rest).length)
    ⟨(lexeme c rest).1, String.ofList (lexeme c rest).2.1, start⟩ ::
      scan (position + (text.length - (lexeme c rest).2.2.length)) (lexeme c rest).2.2
termination_by text.length
decreasing_by
  have := skipBlanks_length_le text
  have := lexeme_length_le c rest
  simp only [_h, List.length_cons] at *
  omega

/-- What holds of the end of input, and with any tokens also of a lexeme in front of them, holds of
the tokens of a text. -/
theorem scan_induction {P : List Token → Prop}
    (hend : ∀ position, P [⟨.endOfInput, "", position⟩])
    (hcons : ∀ (c : Char) (rest : List Char) (position : Nat) (ts : List Token), P ts →
      P (⟨(lexeme c rest).1, String.ofList (lexeme c rest).2.1, position⟩ :: ts))
    (position : Nat) (text : List Char) : P (scan position text) := by
  rw [scan]
  split
  · exact hend _
  · rename_i c rest h
    have hshorter := rest_length_lt h
    exact hcons c rest _ _ (scan_induction hend hcons _ _)
termination_by text.length

/-- The tokens of a text, the end of input last. -/
def ofText (text : String) : List Token := scan 0 text.toList

end RowQuery.Token
