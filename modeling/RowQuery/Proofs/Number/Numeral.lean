/-
# Integers in text read back

The decimal text of an integer is made of digits, with a minus sign in front of
a negative one; so there are no blanks to trim, it is not empty, and it reads as
the integer. The least integer of 64 bits is no exception: its digits are read
before they are counted as negative.

What a numeral cannot start with starts no number either.

Key definition: `Numeral.isStart`.
Key theorems: `Numeral.integer?_ofInt`, `Numeral.int64?_ofInt`,
`Value.numberOfString?_ofInt`, `Value.numberOfString?_of_not_isStart`.
-/
import RowQuery.Value

namespace RowQuery

/-! ### Digits -/

theorem not_isBlank_of_isDigit {c : Char} (h : c.isDigit = true) : Text.isBlank c = false := by
  simp only [Char.isDigit, Bool.and_eq_true, decide_eq_true_eq, ge_iff_le] at h
  have hn : 48 ≤ c.toNat ∧ c.toNat ≤ 57 := h
  obtain ⟨hlow, hhigh⟩ := hn
  unfold Text.isBlank
  generalize c.toNat = n at hlow hhigh
  simp only [Bool.or_eq_false_iff, Bool.and_eq_false_iff, decide_eq_false_iff_not, beq_eq_false_iff_ne]
  omega

theorem toLower_of_isDigit {c : Char} (h : c.isDigit = true) : c.toLower = c := by
  simp only [Char.isDigit, Bool.and_eq_true, decide_eq_true_eq, ge_iff_le] at h
  have hhigh : c.toNat ≤ 57 := h.2
  unfold Char.toLower
  refine dif_neg fun hupper => ?_
  have hlow : 65 ≤ c.toNat := hupper.1
  omega

namespace Numeral

theorem isDigit_toDigits {n : Nat} {c : Char} (h : c ∈ Nat.toDigits 10 n) : c.isDigit = true :=
  Nat.isDigit_of_mem_toDigits (by decide) (by decide) h

theorem natural?_toDigits (n : Nat) : natural? (Nat.toDigits 10 n) = some n := by
  have hempty : (Nat.toDigits 10 n).isEmpty = false := by
    rw [List.isEmpty_eq_false_iff]
    exact Nat.toDigits_ne_nil
  have hdigits : (Nat.toDigits 10 n).all Char.isDigit = true :=
    List.all_eq_true.2 fun _ h => isDigit_toDigits h
  unfold natural? ofDigits
  rw [hempty, hdigits, Nat.ofDigitChars_ten_toDigits]
  rfl

theorem splitSign_of_isDigit {c : Char} {rest : List Char} (h : c.isDigit = true) :
    splitSign (c :: rest) = (false, c :: rest) := by
  unfold splitSign
  split
  · rename_i heq
    obtain ⟨rfl, -⟩ := List.cons.inj heq
    exact absurd h (by decide)
  · rename_i heq
    obtain ⟨rfl, -⟩ := List.cons.inj heq
    exact absurd h (by decide)
  · rfl

theorem splitSign_toDigits (n : Nat) :
    splitSign (Nat.toDigits 10 n) = (false, Nat.toDigits 10 n) := by
  cases h : Nat.toDigits 10 n with
  | nil => exact absurd h Nat.toDigits_ne_nil
  | cons c rest => exact splitSign_of_isDigit (isDigit_toDigits (h ▸ List.mem_cons_self))

/-! ### Integers -/

/-- **The text of an integer reads as the integer.** -/
theorem integer?_ofInt (n : Int) : integer? (ofInt n) = some n := by
  unfold ofInt
  by_cases hn : n < 0
  · rw [if_pos hn]
    simp only [integer?, splitSign, natural?_toDigits]
    show some (-(n.natAbs : Int)) = some n
    congr 1
    omega
  · rw [if_neg hn]
    simp only [integer?, splitSign_toDigits, natural?_toDigits]
    show some (n.natAbs : Int) = some n
    congr 1
    omega

theorem int64OfInt?_toInt (n : Int64) : int64OfInt? n.toInt = some n := by
  unfold int64OfInt?
  rw [if_pos ⟨n.le_toInt, n.toInt_lt⟩, Int64.ofInt_toInt]

theorem int64?_ofInt (n : Int64) : int64? (ofInt n.toInt) = some n := by
  unfold int64?
  rw [integer?_ofInt, Option.bind_some, int64OfInt?_toInt]

theorem ofInt_ne_nil (n : Int) : ofInt n ≠ [] := by
  unfold ofInt
  split
  · nofun
  · exact Nat.toDigits_ne_nil

/-- The characters of an integer's text. -/
theorem mem_ofInt {n : Int} {c : Char} (h : c ∈ ofInt n) : c = '-' ∨ c.isDigit = true := by
  unfold ofInt at h
  split at h
  · exact (List.mem_cons.1 h).imp_right isDigit_toDigits
  · exact .inr (isDigit_toDigits h)

theorem trim_ofInt (n : Int) : Text.trim (ofInt n) = ofInt n := by
  have hblank : ∀ c ∈ ofInt n, Text.isBlank c = false := by
    intro c hc
    rcases mem_ofInt hc with rfl | h
    · decide
    · exact not_isBlank_of_isDigit h
  have hdrop : ∀ text : List Char, (∀ c ∈ text, Text.isBlank c = false) →
      text.dropWhile Text.isBlank = text := by
    intro text htext
    cases text with
    | nil => rfl
    | cons c rest => rw [List.dropWhile_cons, htext c List.mem_cons_self]; rfl
  unfold Text.trim Text.trimEnd Text.trimStart
  rw [hdrop _ hblank, hdrop _ fun c hc => hblank c (List.mem_reverse.1 hc), List.reverse_reverse]

/-! ### Texts that are no numerals -/

/-- A character that a numeral may start with. -/
def isStart (c : Char) : Bool :=
  c.isDigit || c == '-' || c == '+' || c == '.' || c.toLower == 'i' || c.toLower == 'n'

/-- A text that starts with something else keeps its first character when it is trimmed. -/
theorem trim_cons {c : Char} (hc : Text.isBlank c = false) (rest : List Char) :
    ∃ rest', Text.trim (c :: rest) = c :: rest' := by
  unfold Text.trim Text.trimEnd Text.trimStart
  rw [List.dropWhile_cons, hc, if_neg (by decide), List.reverse_cons, List.dropWhile_append]
  split
  · refine ⟨[], ?_⟩
    rw [List.dropWhile_cons, hc]
    rfl
  · exact ⟨_, List.reverse_concat⟩

section NoStart

variable {c : Char} (hc : isStart c = false) (rest : List Char)

include hc

theorem not_isStart : c.isDigit = false ∧ c ≠ '-' ∧ c ≠ '+' ∧ c ≠ '.' ∧ c.toLower ≠ 'i' ∧
    c.toLower ≠ 'n' := by
  simpa [isStart, and_assoc] using hc

theorem splitSign_of_not_isStart : splitSign (c :: rest) = (false, c :: rest) := by
  obtain ⟨-, hminus, hplus, -⟩ := not_isStart hc
  unfold splitSign
  split
  · rename_i h
    exact absurd (List.cons.inj h).1 hminus
  · rename_i h
    exact absurd (List.cons.inj h).1 hplus
  · rfl

theorem int64?_of_not_isStart : int64? (c :: rest) = none := by
  have hnatural : natural? (c :: rest) = none := by
    simp [natural?, (not_isStart hc).1]
  unfold int64? integer?
  simp only [splitSign_of_not_isStart hc, hnatural]
  rfl

theorem special?_of_not_isStart (negative : Bool) : special? negative (c :: rest) = none := by
  obtain ⟨-, -, -, -, hi, hn⟩ := not_isStart hc
  have hword : ∀ (d : Char) (word : List Char), c.toLower ≠ d →
      String.ofList ((c :: rest).map Char.toLower) ≠ String.ofList (d :: word) := by
    intro d word hd h
    have hlist := String.ofList_inj.1 h
    exact hd (List.cons.inj hlist).1
  unfold special?
  dsimp only
  rw [if_neg (not_or.2 ⟨hword 'i' ['n', 'f'] hi, hword 'i' ['n', 'f', 'i', 'n', 'i', 't', 'y'] hi⟩),
    if_neg (hword 'n' ['a', 'n'] hn)]

theorem binary64?_of_not_isStart : binary64? (c :: rest) = none := by
  obtain ⟨hdigit, -, -, hpoint, -⟩ := not_isStart hc
  have hdigits : splitDigits (c :: rest) = ([], c :: rest) := by simp [splitDigits, hdigit]
  have hfraction : splitFraction (c :: rest) = ([], c :: rest) := by
    unfold splitFraction
    split
    · rename_i h
      exact absurd (List.cons.inj h).1 hpoint
    · rfl
  unfold binary64?
  simp only [splitSign_of_not_isStart hc, hdigits, hfraction, special?_of_not_isStart hc]
  rfl

end NoStart

end Numeral

theorem int64OfInt?_eq_some_iff {n : Int} {r : Int64} : int64OfInt? n = some r ↔ n = r.toInt := by
  constructor
  · intro h
    unfold int64OfInt? at h
    split at h
    · rename_i hbounds
      rw [← Option.some.inj h, Int64.toInt_ofInt_of_le hbounds.1 hbounds.2]
    · cases h
  · rintro rfl
    exact Numeral.int64OfInt?_toInt r

namespace Value

/-- **The text of an integer, as a string, has the integer for its number.** -/
theorem numberOfString?_ofInt (n : Int64) :
    numberOfString? (String.ofList (Numeral.ofInt n.toInt)) = some (.integer n) := by
  unfold numberOfString?
  simp only [String.toList_ofList, Numeral.trim_ofInt, Numeral.int64?_ofInt]

theorem numberOfString?_of_not_isStart {c : Char} (hblank : Text.isBlank c = false)
    (hc : Numeral.isStart c = false) (rest : List Char) :
    numberOfString? (String.ofList (c :: rest)) = none := by
  obtain ⟨rest', htrim⟩ := Numeral.trim_cons hblank rest
  unfold numberOfString?
  simp only [String.toList_ofList, htrim, Numeral.int64?_of_not_isStart hc,
    Numeral.binary64?_of_not_isStart hc]
  rfl

theorem numberOfString?_empty : numberOfString? "" = none := rfl

end Value

end RowQuery
