/-
# Tokens of numbers write numbers

A token of a number is digits, with or without a point among them, and no sign.
Without a point it is an integer of 64 bits as far as these go. In any case it
writes a number that is not not-a-number: it may be beyond the format, but then
it is infinite.

Key definitions: `Numeral.IsDigits`, `Token.Digital`, `Token.Numeric`.
Key theorems: `Numeral.binary64?_of_digits`, `Numeral.int64?_of_digits`,
`Token.digital_ofText`, `Token.numeric_ofText`.
-/
import RowQuery.Proofs.Number.Finite
import RowQuery.Proofs.Number.Numeral
import RowQuery.Token.Lexer

namespace RowQuery

attribute [local irreducible] Binary64.one Binary64.limit

/-- The characters of a kind at the front of a text are those before one of another kind. -/
theorem splits_append {p : Char → Bool} {front tail : List Char} (h : ∀ c ∈ front, p c = true)
    (htail : ∀ c ∈ tail.head?, p c = false) :
    (front ++ tail).takeWhile p = front ∧ (front ++ tail).dropWhile p = tail := by
  have hnone : tail.takeWhile p = [] ∧ tail.dropWhile p = tail := by
    cases tail with
    | nil => exact ⟨rfl, rfl⟩
    | cons c rest =>
      have hc := htail c rfl
      simp [hc]
  rw [List.takeWhile_append_of_pos h, List.dropWhile_append_of_pos h, hnone.1, hnone.2,
    List.append_nil]
  exact ⟨rfl, rfl⟩

/-! ### Decimal notation -/

theorem Binary64.ofDecimal_ne_notANumber (negative : Bool) (digits : Nat) (exponent : Int) :
    ofDecimal negative digits exponent ≠ .notANumber := by
  unfold ofDecimal
  split
  · nofun
  · dsimp only
    split
    · nofun
    · split
      · nofun
      · exact Number.ofUnits_ne_notANumber _ _

namespace Numeral

theorem takeWhile_digits {digits tail : List Char} (h : ∀ c ∈ digits, c.isDigit = true)
    (htail : ∀ c ∈ tail.head?, c.isDigit = false) : splitDigits (digits ++ tail) = (digits, tail) := by
  obtain ⟨htake, hdrop⟩ := splits_append h htail
  unfold splitDigits
  rw [htake, hdrop]

/-- One digit or more. -/
def IsDigits (text : List Char) : Prop := text ≠ [] ∧ ∀ c ∈ text, c.isDigit = true

namespace IsDigits

variable {text : List Char} (h : IsDigits text)

include h

theorem isEmpty : text.isEmpty = false := List.isEmpty_eq_false_iff.2 h.1

theorem splitSign (tail : List Char) :
    Numeral.splitSign (text ++ tail) = (false, text ++ tail) := by
  obtain ⟨hne, hdigits⟩ := h
  cases text with
  | nil => exact absurd rfl hne
  | cons c rest => exact splitSign_of_isDigit (hdigits c List.mem_cons_self)

end IsDigits

/-- **Digits, with a point and more digits after them or not, write a number.** -/
theorem binary64?_of_digits {whole tail : List Char} (hwhole : IsDigits whole)
    {fraction : List Char} (hfraction : ∀ c ∈ fraction, c.isDigit = true)
    (htail : tail = [] ∧ fraction = [] ∨ tail = '.' :: fraction) :
    ∃ x, binary64? (whole ++ tail) = some x ∧ x ≠ .notANumber := by
  have hhead : ∀ c ∈ tail.head?, c.isDigit = false := by
    rcases htail with ⟨rfl, -⟩ | rfl
    · nofun
    · rintro _ ⟨⟩
      decide
  have hsplit : splitFraction tail = (fraction, []) := by
    rcases htail with ⟨rfl, rfl⟩ | rfl
    · rfl
    · show splitDigits fraction = _
      rw [← List.append_nil fraction, takeWhile_digits hfraction (by nofun), List.append_nil]
  refine ⟨.ofDecimal false (ofDigits (whole ++ fraction)) (0 - fraction.length), ?_,
    Binary64.ofDecimal_ne_notANumber _ _ _⟩
  unfold binary64?
  simp only [hwhole.splitSign, takeWhile_digits hwhole.2 hhead, hsplit, hwhole.isEmpty]
  rfl

theorem IsDigits.binary64? {text : List Char} (h : IsDigits text) :
    ∃ x, Numeral.binary64? text = some x ∧ x ≠ .notANumber := by
  have hread := binary64?_of_digits h (List.forall_mem_nil _) (.inl ⟨rfl, rfl⟩)
  rwa [List.append_nil] at hread

/-- **Digits are an integer of 64 bits unless they are beyond.** -/
theorem int64?_of_digits {text : List Char} (h : IsDigits text) :
    int64? text = int64OfInt? (ofDigits text) := by
  have hsign := h.splitSign []
  rw [List.append_nil] at hsign
  have hinteger : integer? text = some (ofDigits text : Int) := by
    unfold integer?
    simp only [hsign, natural?, h.isEmpty, List.all_eq_true.2 h.2]
    rfl
  rw [int64?, hinteger, Option.bind_some]

end Numeral

namespace Token

/-- A token of a number writes one. -/
def Numeric (t : Token) : Prop :=
  t.kind = .integer ∨ t.kind = .decimal →
    ∃ x, Numeral.binary64? t.literal.toList = some x ∧ x ≠ .notANumber

/-- A token of a number is digits, or digits around a point. -/
structure Digital (t : Token) : Prop where
  integer : t.kind = .integer → Numeral.IsDigits t.literal.toList
  decimal : t.kind = .decimal → ∃ whole fraction, Numeral.IsDigits whole ∧
    Numeral.IsDigits fraction ∧ t.literal.toList = whole ++ '.' :: fraction

theorem Digital.of_ne {t : Token} (hinteger : t.kind ≠ .integer) (hdecimal : t.kind ≠ .decimal) :
    t.Digital :=
  ⟨fun h => absurd h hinteger, fun h => absurd h hdecimal⟩

theorem Digital.numeric {t : Token} (h : t.Digital) : t.Numeric := by
  rintro (hkind | hkind)
  · exact (h.integer hkind).binary64?
  · obtain ⟨whole, fraction, hwhole, hfraction, heq⟩ := h.decimal hkind
    rw [heq]
    exact Numeral.binary64?_of_digits hwhole hfraction.2 (.inr rfl)

/-- What is cut off as a number is digits, or digits around a point. -/
theorem digital_number {c : Char} (hc : c.isDigit = true) (rest : List Char) (position : Nat) :
    Digital ⟨(number (c :: rest)).1, String.ofList (number (c :: rest)).2.1, position⟩ := by
  have htakes : ∀ text : List Char, ∀ d ∈ text.takeWhile Char.isDigit, d.isDigit = true :=
    fun _ => List.all_eq_true.1 List.all_takeWhile
  have hwhole : Numeral.IsDigits ((c :: rest).takeWhile Char.isDigit) := by
    refine ⟨?_, htakes _⟩
    rw [List.takeWhile_cons, hc]
    nofun
  have hinteger :
      Digital ⟨.integer, String.ofList ((c :: rest).takeWhile Char.isDigit), position⟩ := by
    refine ⟨fun _ => ?_, nofun⟩
    rwa [String.toList_ofList]
  unfold number
  dsimp only
  split
  · rename_i d more _
    split
    · rename_i hd
      have hfraction : Numeral.IsDigits (d :: more.takeWhile Char.isDigit) :=
        ⟨nofun, List.forall_mem_cons.2 ⟨hd, htakes more⟩⟩
      exact ⟨nofun, fun _ => ⟨_, _, hwhole, hfraction, String.toList_ofList⟩⟩
    · exact hinteger
  · exact hinteger

theorem identifierKind_ne (name : List Char) :
    identifierKind name ≠ .integer ∧ identifierKind name ≠ .decimal := by
  unfold identifierKind
  split
  · exact ⟨nofun, nofun⟩
  · exact ⟨nofun, nofun⟩

/-- What is cut off is no number, or is cut off as one where a digit is. -/
theorem lexeme_cases (c : Char) (rest : List Char) :
    ((lexeme c rest).1 ≠ .integer ∧ (lexeme c rest).1 ≠ .decimal) ∨
      c.isDigit = true ∧ lexeme c rest = number (c :: rest) := by
  unfold lexeme
  split
  case h_16 =>
    split
    · exact .inl ⟨nofun, nofun⟩
    · exact .inl ⟨nofun, nofun⟩
  case h_17 =>
    split
    · dsimp only
      exact .inl (identifierKind_ne _)
    · split
      · rename_i hdigit
        exact .inr ⟨hdigit, rfl⟩
      · exact .inl ⟨nofun, nofun⟩
  all_goals exact .inl ⟨nofun, nofun⟩

theorem digital_lexeme (c : Char) (rest : List Char) (position : Nat) :
    Digital ⟨(lexeme c rest).1, String.ofList (lexeme c rest).2.1, position⟩ := by
  rcases lexeme_cases c rest with ⟨hinteger, hdecimal⟩ | ⟨hdigit, heq⟩
  · exact .of_ne hinteger hdecimal
  · rw [heq]
    exact digital_number hdigit rest position

/-- **The tokens of numbers in a text are digits**, with a point among them or not. -/
theorem digital_ofText (text : String) : ∀ t ∈ ofText text, t.Digital := by
  refine scan_induction (P := (∀ t ∈ ·, t.Digital)) (fun position => ?_)
    (fun c rest position ts h => ?_) 0 text.toList
  · exact List.forall_mem_singleton.2 (.of_ne nofun nofun)
  · exact List.forall_mem_cons.2 ⟨digital_lexeme c rest position, h⟩

/-- **The tokens of numbers in a text write numbers.** -/
theorem numeric_ofText (text : String) : ∀ t ∈ ofText text, t.Numeric :=
  fun t ht => (digital_ofText text t ht).numeric

end Token

end RowQuery
