/-
# The pieces that a text is cut into

Where a token stands does not matter for what it is: tokens without their
positions are pieces, and the pieces of a text do not depend on what is before
it. They depend on what follows it only at its end, where a word, a number or a
string may go on. It does not if nothing follows, or a blank, a comma or a
parenthesis.

Key definitions: `Token.pieces`, `Token.Apart`, `Token.Cuts`, `Token.isName`.
Key theorems: `Token.Cuts.append`, `Token.cuts_keyword`, `Token.cuts_natural`,
`Token.cuts_string`.
-/
import RowQuery.Proofs.Token.Numeral
import RowQuery.Statement.Printer
import RowQuery.Token.Lexer

namespace RowQuery.Token

open List

/-- A token without its position. -/
abbrev Piece := TokenKind × String

/-- A token as a piece. -/
def piece (t : Token) : Piece := (t.kind, t.literal)

/-- A keyword in capitals. -/
abbrev word (w : Keyword) : Piece := (.keyword w, w.spelling)

abbrev leftParen : Piece := (.leftParen, "(")

abbrev rightParen : Piece := (.rightParen, ")")

abbrev comma : Piece := (.comma, ",")

abbrev asterisk : Piece := (.asterisk, "*")

abbrev minus : Piece := (.minus, "-")

/-- The digits of a natural. -/
def digits (n : Nat) : Piece := (.integer, String.ofList (Nat.toDigits 10 n))

/-- The pieces of a text, the end of input last. -/
def pieces (text : List Char) : List Piece := (scan 0 text).map piece

/-! ### Cutting one piece -/

theorem map_piece_scan (position position' : Nat) (text : List Char) :
    (scan position text).map piece = (scan position' text).map piece := by
  rw [scan, scan]
  split
  · rfl
  · rename_i c rest h
    have hshorter := rest_length_lt h
    rw [map_cons, map_cons, map_piece_scan _ (position' + (text.length - (lexeme c rest).2.2.length))]
    rfl
termination_by text.length

theorem pieces_of_skipBlanks {text rest : List Char} {c : Char} (h : skipBlanks text = c :: rest) :
    pieces text =
      ((lexeme c rest).1, String.ofList (lexeme c rest).2.1) :: pieces (lexeme c rest).2.2 := by
  unfold pieces
  rw [scan]
  split
  · rename_i hnil
    rw [h] at hnil
    exact nomatch hnil
  · rename_i hcons
    rw [h] at hcons
    obtain ⟨rfl, rfl⟩ := cons.inj hcons
    rw [map_cons, map_piece_scan _ 0]
    rfl

theorem pieces_of_skipBlanks_nil {text : List Char} (h : skipBlanks text = []) :
    pieces text = [(.endOfInput, "")] := by
  unfold pieces
  rw [scan]
  split
  · rfl
  · rename_i hcons
    rw [h] at hcons
    exact nomatch hcons

theorem pieces_congr {text text' : List Char} (h : skipBlanks text = skipBlanks text') :
    pieces text = pieces text' := by
  cases htext : skipBlanks text with
  | nil => rw [pieces_of_skipBlanks_nil htext, pieces_of_skipBlanks_nil (h ▸ htext)]
  | cons c rest => rw [pieces_of_skipBlanks htext, ← pieces_of_skipBlanks (h ▸ htext)]

theorem pieces_nil : pieces [] = [(.endOfInput, "")] := pieces_of_skipBlanks_nil rfl

/-- A blank in front of a text is skipped. -/
theorem pieces_blank (text : List Char) : pieces (' ' :: text) = pieces text := pieces_congr rfl

theorem skipBlanks_cons {c : Char} {rest : List Char} (hblank : Text.isBlank c = false)
    (hcomment : c ≠ '-' ∨ rest.head? ≠ some '-') : skipBlanks (c :: rest) = c :: rest := by
  unfold skipBlanks
  rw [skipFrom, hblank]
  simp only [Bool.false_eq_true, ↓reduceIte]
  exact if_neg fun h => hcomment.elim (· h.1) (· h.2)

/-- A text that starts with a piece: the piece and those of the text after it. -/
theorem pieces_cons {c : Char} {rest literal after : List Char} {kind : TokenKind}
    (hblank : Text.isBlank c = false) (hcomment : c ≠ '-' ∨ rest.head? ≠ some '-')
    (h : lexeme c rest = (kind, literal, after)) :
    pieces (c :: rest) = (kind, String.ofList literal) :: pieces after := by
  rw [pieces_of_skipBlanks (skipBlanks_cons hblank hcomment), h]

/-! ### Texts that are cut into given pieces -/

/-- A blank, a comma and the parentheses. -/
def delimiters : List Char := [' ', ',', '(', ')']

/-- What may follow a piece that could go on: nothing, or a blank, a comma or a parenthesis. -/
def Apart (rest : List Char) : Prop := ∀ c ∈ rest.head?, c ∈ delimiters

/-- Any text at all. -/
def Anything : List Char → Prop := fun _ => True

/-- A text is cut into pieces, in front of what may follow it. -/
def Cuts (follow : List Char → Prop) (text : String) (ps : List Piece) : Prop :=
  ∀ rest, follow rest → pieces (text.toList ++ rest) = ps ++ pieces rest

theorem apart_nil : Apart [] := nofun

theorem apart_cons {c : Char} (h : c ∈ delimiters) (rest : List Char) : Apart (c :: rest) := by
  rintro _ ⟨⟩
  exact h

/-- What a text starts with that is apart has all properties of delimiters. -/
theorem Apart.head {rest : List Char} (h : Apart rest) {P : Char → Prop}
    (hP : P ' ' ∧ P ',' ∧ P '(' ∧ P ')') : ∀ c ∈ rest.head?, P c := by
  intro c hc
  have hmem := h c hc
  simp only [delimiters, mem_cons, not_mem_nil, or_false] at hmem
  obtain ⟨hblank, hcomma, hleft, hright⟩ := hP
  rcases hmem with rfl | rfl | rfl | rfl
  · exact hblank
  · exact hcomma
  · exact hleft
  · exact hright

namespace Cuts

variable {F G : List Char → Prop} {text text' : String} {ps qs : List Piece}

theorem empty : Cuts F "" [] := fun _ _ => rfl

theorem mono (h : Cuts F text ps) (hFG : ∀ rest, G rest → F rest) : Cuts G text ps :=
  fun rest hrest => h rest (hFG rest hrest)

/-- Two texts, one after the other. -/
theorem append (h : Cuts F text ps) (h' : Cuts G text' qs)
    (hfollow : ∀ rest, G rest → F (text'.toList ++ rest)) :
    Cuts G (text ++ text') (ps ++ qs) := by
  intro rest hrest
  rw [String.toList_append, append_assoc, h _ (hfollow rest hrest), h' rest hrest, append_assoc]

/-- A text whose pieces end where it ends, and another one. -/
theorem before (h : Cuts Anything text ps) (h' : Cuts G text' qs) :
    Cuts G (text ++ text') (ps ++ qs) :=
  h.append h' fun _ _ => trivial

/-- The whole text. -/
theorem whole (h : Cuts Apart text ps) : pieces text.toList = ps ++ [(.endOfInput, "")] := by
  have hall := h [] apart_nil
  rwa [append_nil, pieces_nil] at hall

end Cuts

theorem cuts_blank : Cuts Anything " " [] := fun rest _ => pieces_blank rest

/-! ### Words -/

/-- The characters of an identifier or a keyword. -/
def isWord : List Char → Bool
  | [] => false
  | c :: rest =>
    !Text.isBlank c && (Text.isAlphabetic c || c == '_') && rest.all isIdentifierRest

theorem isWord_cons {c : Char} {rest : List Char} : isWord (c :: rest) = true ↔
    Text.isBlank c = false ∧ (Text.isAlphabetic c || c == '_') = true ∧
      ∀ d ∈ rest, isIdentifierRest d = true := by
  simp only [isWord, Bool.and_eq_true, Bool.not_eq_true', all_eq_true, and_assoc]

theorem lexeme_of_isAlphabetic {c : Char} (h : (Text.isAlphabetic c || c == '_') = true)
    (rest : List Char) :
    lexeme c rest = (identifierKind (c :: rest.takeWhile isIdentifierRest),
      c :: rest.takeWhile isIdentifierRest, rest.dropWhile isIdentifierRest) := by
  unfold lexeme
  split
  case h_17 => exact if_pos h
  all_goals exact absurd h (by decide)

theorem cuts_word {word : List Char} (h : isWord word = true) :
    Cuts Apart (String.ofList word) [(identifierKind word, String.ofList word)] := by
  intro rest hrest
  rw [String.toList_ofList]
  cases word with
  | nil => exact absurd h (by decide)
  | cons c tail =>
    obtain ⟨hblank, hc, htail⟩ := isWord_cons.1 h
    have hne : c ≠ '-' := by
      rintro rfl
      exact absurd hc (by decide)
    have hsplit := splits_append htail (hrest.head (by decide))
    rw [cons_append, pieces_cons hblank (.inl hne) (lexeme_of_isAlphabetic hc _), hsplit.1, hsplit.2]
    rfl

theorem cuts_keyword (w : Keyword) : Cuts Apart w.spelling [word w] := by
  have hword : isWord w.spelling.toList = true := by cases w <;> decide
  have hkind : identifierKind w.spelling.toList = .keyword w := by cases w <;> rfl
  have hcuts := cuts_word hword
  rwa [hkind, String.ofList_toList] at hcuts

/-! ### Names -/

/-- A word that is no keyword. -/
def isName (name : String) : Bool := isWord name.toList && (Keyword.ofName? name).isNone

theorem cuts_name {name : String} (h : isName name = true) :
    Cuts Apart name [(.identifier, name)] := by
  obtain ⟨hword, hkeyword⟩ := Bool.and_eq_true_iff.1 h
  have hkind : identifierKind name.toList = .identifier := by
    unfold identifierKind
    rw [String.ofList_toList, Option.isNone_iff_eq_none.1 hkeyword]
  have hcuts := cuts_word hword
  rwa [hkind, String.ofList_toList] at hcuts

theorem isBlank_of_skipFrom {comment : Bool} {text rest : List Char} {c : Char}
    (h : skipFrom comment text = c :: rest) : Text.isBlank c = false := by
  induction text generalizing comment with
  | nil => cases comment <;> exact nomatch h
  | cons d text ih =>
    cases comment with
    | true =>
      rw [skipFrom] at h
      split at h
      · exact ih h
      · exact ih h
    | false =>
      rw [skipFrom] at h
      split at h
      · exact ih h
      · split at h
        · exact ih h
        · rename_i hblank _
          obtain ⟨rfl, -⟩ := cons.inj h
          exact Bool.eq_false_iff.2 hblank

/-! ### Numbers and strings -/

theorem lexeme_of_isDigit {c : Char} (h : c.isDigit = true) (rest : List Char) :
    lexeme c rest = number (c :: rest) := by
  have hletters : ∀ n ∈ range' 48 10,
      (Text.isAlphabetic (Char.ofNat n) || Char.ofNat n == '_') = false := by decide
  have hmem : c.toNat ∈ range' 48 10 := by
    simp only [Char.isDigit, Bool.and_eq_true, decide_eq_true_eq, ge_iff_le] at h
    have hbounds : 48 ≤ c.toNat ∧ c.toNat ≤ 57 := h
    simp only [mem_range'_1]
    omega
  have hletter := hletters _ hmem
  rw [Char.ofNat_toNat] at hletter
  unfold lexeme
  split
  case h_17 =>
    rw [if_neg (Bool.eq_false_iff.1 hletter), if_pos h]
  all_goals exact absurd h (by decide)

/-- Decimal digits of a natural, without a sign. -/
theorem cuts_natural (n : Nat) :
    Cuts Apart (String.ofList (Nat.toDigits 10 n)) [digits n] := by
  intro rest hrest
  rw [String.toList_ofList]
  unfold digits
  have hdigits : ∀ c ∈ Nat.toDigits 10 n, c.isDigit = true := fun _ h => Numeral.isDigit_toDigits h
  have hend : ∀ c ∈ rest.head?, c.isDigit = false ∧ c ≠ '.' := hrest.head (by decide)
  cases hn : Nat.toDigits 10 n with
  | nil => exact absurd hn Nat.toDigits_ne_nil
  | cons c tail =>
    have hc : c.isDigit = true := Numeral.isDigit_toDigits (hn ▸ mem_cons_self)
    have hne : c ≠ '-' := by
      rintro rfl
      exact absurd hc (by decide)
    have hsplit := splits_append (hn ▸ hdigits) fun d hd => (hend d hd).1
    have hnumber : number (c :: (tail ++ rest)) = (.integer, c :: tail, rest) := by
      unfold number
      rw [← cons_append, hsplit.1, hsplit.2]
      cases rest with
      | nil => rfl
      | cons d more =>
        have hpoint := (hend d rfl).2
        dsimp only
        split
        · rename_i heq
          exact absurd (cons.inj heq).1 hpoint
        · rfl
    have hlexeme := lexeme_of_isDigit hc (tail ++ rest)
    rw [hnumber] at hlexeme
    rw [cons_append, pieces_cons (not_isBlank_of_isDigit hc) (.inl hne) hlexeme]
    rfl

theorem stringBody_doubleQuotes {rest : List Char} (hrest : rest.head? ≠ some '\'') :
    ∀ text : List Char,
    stringBody (Expr.doubleQuotes text ++ '\'' :: rest) = some (text, rest)
  | [] => by
    cases rest with
    | nil => rfl
    | cons c rest =>
      have hc : c ≠ '\'' := fun h => hrest (h ▸ rfl)
      show stringBody ('\'' :: c :: rest) = _
      unfold stringBody
      split
      · rename_i heq
        exact nomatch heq
      · rename_i heq
        obtain ⟨-, heq⟩ := cons.inj heq
        exact absurd (cons.inj heq).1 hc
      · rename_i heq
        obtain ⟨-, rfl⟩ := cons.inj heq
        rfl
      · rename_i hquote heq
        obtain ⟨rfl, -⟩ := cons.inj heq
        exact absurd rfl hquote
  | c :: text => by
    have ih := stringBody_doubleQuotes hrest text
    unfold Expr.doubleQuotes
    by_cases hc : c = '\''
    · rw [if_pos hc, hc, cons_append, cons_append, stringBody, ih]
      rfl
    · rw [if_neg hc, cons_append, stringBody, ih]
      · rfl
      · exact fun _ h => absurd h hc
      · exact fun h => absurd h hc

/-- A string between quotes, with the quotes in it doubled. -/
theorem cuts_string (text : String) :
    Cuts Apart (String.ofList ('\'' :: (Expr.doubleQuotes text.toList ++ ['\''])))
      [(.string, text)] := by
  intro rest hrest
  have hquote : rest.head? ≠ some '\'' := fun h => absurd (hrest _ h) (by decide)
  have hbody := stringBody_doubleQuotes hquote text.toList
  have hlexeme : lexeme '\'' (Expr.doubleQuotes text.toList ++ '\'' :: rest) =
      (.string, text.toList, rest) := by
    unfold lexeme
    rw [hbody]
    rfl
  rw [String.toList_ofList, cons_append, append_assoc]
  show pieces ('\'' :: (Expr.doubleQuotes text.toList ++ '\'' :: rest)) = _
  rw [pieces_cons (by decide) (.inl (by decide)) hlexeme, String.ofList_toList]
  rfl

end RowQuery.Token
