/-
# Strings and integers read back from JSON

Every character of a string is written as itself or as an escape, and one
reading step takes either. The digits of a 64-bit integer fit the significand,
so none is dropped. Where a number ends is seen by what follows it, which must
not be part of a number.

Key definition: `Json.Stops`.
Key theorems: `Json.character?_escapeChar`, `Json.string?_quote`,
`Json.number?_ofInt`.
-/
import RowQuery.Json.Reader
import RowQuery.Json.Writer
import RowQuery.Proofs.Number.Numeral

namespace RowQuery.Json

open List

/-! ### Strings -/

theorem hexDigit?_digitChar : ∀ n < 16, hexDigit? (Nat.digitChar n) = some n := by decide

/-- Four hexadecimal digits read as the number that they write. -/
theorem unit?_hex4 {n : Nat} (h : n < 65536) :
    unit? (n / 4096 % 16).digitChar (n / 256 % 16).digitChar (n / 16 % 16).digitChar
      (n % 16).digitChar = some n := by
  have hdigit : ∀ m : Nat, hexDigit? (m % 16).digitChar = some (m % 16) := fun m =>
    hexDigit?_digitChar _ (Nat.mod_lt _ (by decide))
  have hsum : n / 4096 % 16 * 4096 + n / 256 % 16 * 256 + n / 16 % 16 * 16 + n % 16 = n := by omega
  unfold unit?
  simp only [hdigit, Option.bind_eq_bind, Option.bind_some, hsum]
  rfl

/-- A control character reads back from its code. -/
theorem character?_control {c : Char} (h : c.toNat < 0xD800) (rest : List Char) :
    character? ('\\' :: 'u' :: hex4 c.toNat ++ rest) = some (c, rest) := by
  show character? ('\\' :: 'u' :: (c.toNat / 4096 % 16).digitChar :: (c.toNat / 256 % 16).digitChar ::
    (c.toNat / 16 % 16).digitChar :: (c.toNat % 16).digitChar :: rest) = _
  have hunit := unit?_hex4 (n := c.toNat) (by omega)
  rw [character?, hunit, Option.bind_eq_bind, Option.bind_some, if_pos (Or.inl h), Char.ofNat_toNat]
  rfl

/-- A character that needs no escape reads as itself. -/
theorem character?_plain {c : Char} (hescape : c ≠ '\\') (hcontrol : isControl c = false)
    (rest : List Char) : character? (c :: rest) = some (c, rest) := by
  have hprintable : ¬c.toNat < 32 := by
    intro h
    simp [isControl, h] at hcontrol
  rw [character?, if_neg hprintable]
  · rintro _ _ _ _ _ rfl
    exact absurd rfl hescape
  · rintro _ _ rfl
    exact absurd rfl hescape

/-- **What a character is written as reads back as the character.** -/
theorem character?_escapeChar (c : Char) (rest : List Char) :
    character? (escapeChar c ++ rest) = some (c, rest) := by
  unfold escapeChar
  by_cases hquote : c = '"'
  · subst hquote
    rfl
  rw [if_neg hquote]
  by_cases hescape : c = '\\'
  · subst hescape
    rfl
  rw [if_neg hescape]
  by_cases hnewline : c = '\n'
  · subst hnewline
    rfl
  rw [if_neg hnewline]
  by_cases hreturn : c = '\r'
  · subst hreturn
    rfl
  rw [if_neg hreturn]
  by_cases htab : c = '\t'
  · subst htab
    rfl
  rw [if_neg htab]
  cases hcontrol : isControl c with
  | true =>
    rw [if_pos rfl]
    refine character?_control ?_ rest
    simp only [isControl, Bool.or_eq_true, Bool.and_eq_true, decide_eq_true_eq] at hcontrol
    omega
  | false =>
    rw [if_neg (by decide)]
    exact character?_plain hescape hcontrol rest

/-- No character is written with a quote in front, so none ends the string. -/
theorem escapeChar_cons (c : Char) : ∃ d rest, escapeChar c = d :: rest ∧ d ≠ '"' := by
  unfold escapeChar
  by_cases hquote : c = '"'
  · rw [if_pos hquote]
    exact ⟨_, _, rfl, by decide⟩
  · rw [if_neg hquote]
    repeat' split
    all_goals first
      | exact ⟨_, _, rfl, by decide⟩
      | exact ⟨_, _, rfl, hquote⟩

theorem stringBody?_escaped (rest : List Char) : ∀ (text : List Char) {n : Nat}, text.length ≤ n →
    stringBody? n (text.flatMap escapeChar ++ '"' :: rest) = some (text, rest)
  | [], n, _ => by
    cases n with
    | zero => rfl
    | succ n => rfl
  | c :: text, 0, h => absurd h (by simp)
  | c :: text, n + 1, h => by
    have htext : text.length ≤ n := Nat.le_of_succ_le_succ h
    obtain ⟨d, more, hescaped, hd⟩ := escapeChar_cons c
    rw [flatMap_cons, append_assoc]
    have hcharacter := character?_escapeChar c (text.flatMap escapeChar ++ '"' :: rest)
    rw [hescaped, cons_append] at hcharacter ⊢
    have hbody := stringBody?_escaped rest text htext
    rw [stringBody?, hcharacter]
    · simp [hbody]
    · intro _ heq
      exact hd (List.cons.inj heq).1

theorem length_flatMap_escapeChar : ∀ text : List Char,
    text.length ≤ (text.flatMap escapeChar).length
  | [] => Nat.le_refl _
  | c :: text => by
    obtain ⟨d, more, hescaped, -⟩ := escapeChar_cons c
    have htext := length_flatMap_escapeChar text
    rw [flatMap_cons, length_append, hescaped, length_cons, length_cons]
    omega

/-- **A string reads back**, whatever characters it has. -/
theorem string?_quote (s : String) (rest : List Char) : string? (quote s ++ rest) = some (s, rest) := by
  have hquote : quote s ++ rest = '"' :: (s.toList.flatMap escapeChar ++ '"' :: rest) := by
    simp [quote]
  have hlength : s.toList.length ≤ (s.toList.flatMap escapeChar ++ '"' :: rest).length := by
    have hescaped := length_flatMap_escapeChar s.toList
    rw [length_append]
    omega
  rw [hquote, string?, stringBody?_escaped rest s.toList hlength, Option.map_some]
  dsimp only
  rw [String.ofList_toList]

/-! ### Integers -/

/-- What follows a number must not go on with it. -/
def Stops (rest : List Char) : Prop :=
  ∀ c ∈ rest.head?, c.isDigit = false ∧ c ≠ '.' ∧ c ≠ 'e' ∧ c ≠ 'E'

theorem stops_nil : Stops [] := nofun

theorem stops_cons {c : Char} (h : c.isDigit = false ∧ c ≠ '.' ∧ c ≠ 'e' ∧ c ≠ 'E')
    (rest : List Char) : Stops (c :: rest) := by
  intro d hd
  obtain rfl := Option.some.inj hd
  exact h

namespace Stops

variable {rest : List Char} (h : Stops rest)

include h

theorem takeDigits : rest.takeWhile Char.isDigit = [] := by
  cases rest with
  | nil => rfl
  | cons c rest => rw [takeWhile_cons, (h c rfl).1, if_neg (by decide)]

theorem dropDigits : rest.dropWhile Char.isDigit = rest := by
  cases rest with
  | nil => rfl
  | cons c rest => rw [dropWhile_cons, (h c rfl).1, if_neg (by decide)]

theorem fraction : fractionPart? rest = some ([], rest) := by
  cases rest with
  | nil => rfl
  | cons c rest =>
    rw [fractionPart?]
    intro _ heq
    exact (h c rfl).2.1 (List.cons.inj heq).1

theorem exponent : exponentPart? rest = some (none, rest) := by
  cases rest with
  | nil => rfl
  | cons c rest =>
    obtain ⟨-, -, he, hE⟩ := h c rfl
    rw [exponentPart?, if_neg (not_or.2 ⟨he, hE⟩)]

end Stops

/-- Digits read up to where they stop. -/
theorem digits?_append {digits rest : List Char} (hdigits : ∀ c ∈ digits, c.isDigit = true)
    (hne : digits ≠ []) (hrest : Stops rest) : digits? (digits ++ rest) = some (digits, rest) := by
  unfold digits?
  rw [takeWhile_append_of_pos hdigits, dropWhile_append_of_pos hdigits, hrest.takeDigits,
    hrest.dropDigits, append_nil]
  cases digits with
  | nil => exact absurd rfl hne
  | cons c digits => rfl

theorem head_toDigits {n : Nat} (h : 0 < n) : (Nat.toDigits 10 n).head? ≠ some '0' := by
  induction n using Nat.strongRecOn with
  | ind n ih =>
    by_cases hn : n < 10
    · rw [Nat.toDigits_of_lt_base hn]
      have hdigit : ∀ m < 10, 0 < m → Nat.digitChar m ≠ '0' := by decide
      simpa using hdigit n hn h
    · have hquotient := ih (n / 10) (by omega) (by omega)
      rw [Nat.toDigits_of_base_le (by decide) (by omega)]
      cases hdigits : Nat.toDigits 10 (n / 10) with
      | nil => exact absurd hdigits Nat.toDigits_ne_nil
      | cons c rest =>
        rw [hdigits] at hquotient
        exact hquotient

/-- Only zero is written with a zero in front. -/
theorem toDigits_ne_zero_cons (n : Nat) (c : Char) (rest : List Char) :
    Nat.toDigits 10 n ≠ '0' :: c :: rest := by
  intro h
  rcases Nat.eq_zero_or_pos n with rfl | hn
  · rw [Nat.toDigits_of_lt_base (by decide)] at h
    cases (List.cons.inj h).2
  · exact head_toDigits hn (by rw [h]; rfl)

theorem wholePart?_toDigits (n : Nat) {rest : List Char} (hrest : Stops rest) :
    wholePart? (Nat.toDigits 10 n ++ rest) = some (Nat.toDigits 10 n, rest) := by
  have hdigits := digits?_append (fun c hc => Numeral.isDigit_toDigits (n := n) hc)
    Nat.toDigits_ne_nil hrest
  unfold wholePart?
  rw [hdigits]
  split
  · rename_i c more _ heq
    exact absurd (Prod.mk.inj (Option.some.inj heq)).1 (toDigits_ne_zero_cons n c more)
  · rfl

/-- Digits of a number that fits are all appended. -/
theorem appendDigits_of_lt : ∀ (digits : List Char) (significand : Nat),
    Nat.ofDigitChars 10 digits significand < significandLimit →
    appendDigits significand digits = (Nat.ofDigitChars 10 digits significand, [])
  | [], significand, _ => rfl
  | d :: digits, significand, h => by
    have hzero : '0'.toNat = 48 := rfl
    rw [Nat.ofDigitChars_cons, hzero, Nat.mul_comm 10] at h ⊢
    have hlonger : significand * 10 + (d.toNat - 48) < significandLimit := by
      rw [Nat.ofDigitChars_eq_ofDigitChars_zero] at h
      have hpower : 0 < 10 ^ digits.length := Nat.pow_pos (by decide)
      have hle := Nat.le_mul_of_pos_left (significand * 10 + (d.toNat - 48)) hpower
      omega
    unfold appendDigits
    dsimp only
    rw [if_pos hlonger, appendDigits_of_lt digits _ h]

theorem appendDigits_toDigits {n : Nat} (h : n < significandLimit) :
    appendDigits 0 (Nat.toDigits 10 n) = (n, []) := by
  have hvalue : Nat.ofDigitChars 10 (Nat.toDigits 10 n) 0 = n := Nat.ofDigitChars_ten_toDigits
  rw [appendDigits_of_lt _ 0 (hvalue.symm ▸ h), hvalue]

/-- The digits of the magnitude of a 64-bit integer, with a sign for a negative one. -/
theorem numberOf?_toDigits (n : Int64) (negative : Bool) (hsign : negative = true ↔ n.toInt < 0) :
    numberOf? negative (Nat.toDigits 10 n.toInt.natAbs) [] none = some (.integer n) := by
  have hlow := n.le_toInt
  have hhigh := n.toInt_lt
  have hfits : n.toInt.natAbs < significandLimit := by
    simp only [significandLimit]
    omega
  have hvalue : (if negative then -(n.toInt.natAbs : Int) else n.toInt.natAbs) = n.toInt := by
    split
    · have hneg := hsign.1 ‹_›
      omega
    · have hnonneg := mt hsign.2 ‹_›
      omega
  have hzero : (negative && n.toInt.natAbs == 0) = false := by
    cases negative with
    | false => rfl
    | true =>
      have hneg := hsign.1 rfl
      simp only [Bool.true_and, beq_eq_false_iff_ne]
      omega
  unfold numberOf?
  simp only [appendDigits_toDigits hfits, hvalue, hzero, Numeral.int64OfInt?_toInt]
  rfl

/-- **An integer reads back**, where its text stops. -/
theorem number?_ofInt (n : Int64) {rest : List Char} (hrest : Stops rest) :
    number? (Numeral.ofInt n.toInt ++ rest) = some (.integer n, rest) := by
  have hwhole := wholePart?_toDigits n.toInt.natAbs hrest
  unfold Numeral.ofInt
  by_cases hnegative : n.toInt < 0
  · have hnumber := numberOf?_toDigits n true (by simp [hnegative])
    rw [if_pos hnegative, cons_append]
    unfold number?
    simp [hwhole, hrest.fraction, hrest.exponent, hnumber]
  · have hnumber := numberOf?_toDigits n false (by simpa using hnegative)
    rw [if_neg hnegative]
    cases hdigits : Nat.toDigits 10 n.toInt.natAbs with
    | nil => exact absurd hdigits Nat.toDigits_ne_nil
    | cons c more =>
      have hdigit : c.isDigit = true := Numeral.isDigit_toDigits (hdigits ▸ mem_cons_self)
      have hminus : c ≠ '-' := by
        rintro rfl
        exact absurd hdigit (by decide)
      rw [hdigits, cons_append] at hwhole
      rw [hdigits] at hnumber
      unfold number?
      simp [hminus, hwhole, hrest.fraction, hrest.exponent, hnumber]

end RowQuery.Json
