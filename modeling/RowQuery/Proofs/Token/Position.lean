/-
# Where tokens stand

The tokens of a text stand in order, none after the end of the text. The last of
them is the end of input, and no other one is.

Key definitions: `Token.Ends`, `Token.Ordered`.
Key theorems: `Token.scan_ends`, `Token.ordered_scan`.
-/
import RowQuery.Token.Lexer

namespace RowQuery.Token

open List

/-! ### The end of input -/

theorem lexeme_ne_endOfInput (c : Char) (rest : List Char) : (lexeme c rest).1 ≠ .endOfInput := by
  unfold lexeme
  split
  case h_16 =>
    split
    · nofun
    · nofun
  case h_17 =>
    split
    · dsimp only
      unfold identifierKind
      split
      · nofun
      · nofun
    · split
      · unfold number
        dsimp only
        split
        · split
          · nofun
          · nofun
        · nofun
      · nofun
  all_goals nofun

/-- Tokens of which the last one, and no other, is the end of input. -/
def Ends (ts : List Token) : Prop :=
  ∃ tokens last, ts = tokens ++ [last] ∧ last.kind = .endOfInput ∧
    ∀ t ∈ tokens, t.kind ≠ .endOfInput

namespace Ends

variable {t : Token} {ts : List Token}

theorem cons (ht : t.kind ≠ .endOfInput) (h : Ends ts) : Ends (t :: ts) := by
  obtain ⟨tokens, last, rfl, hlast, htokens⟩ := h
  exact ⟨t :: tokens, last, rfl, hlast, forall_mem_cons.2 ⟨ht, htokens⟩⟩

theorem ne_nil (h : Ends ts) : ts ≠ [] := by
  obtain ⟨tokens, last, rfl, -⟩ := h
  exact append_ne_nil_of_right_ne_nil tokens (cons_ne_nil last [])

/-- After a token that is not the end of input there are others. -/
theorem tail (h : Ends (t :: ts)) (ht : t.kind ≠ .endOfInput) : Ends ts := by
  obtain ⟨tokens, last, htokens, hlast, hinner⟩ := h
  cases tokens with
  | nil =>
    obtain rfl : t = last := (cons.inj htokens).1
    exact absurd hlast ht
  | cons u tokens =>
    exact ⟨tokens, last, (cons.inj htokens).2, hlast, fun v hv => hinner v (mem_cons_of_mem u hv)⟩

/-- What stands in front of tokens that end with the end of input has it nowhere. -/
theorem front {front : List Token} (h : Ends (front ++ ts)) (hts : ts ≠ []) :
    ∀ t ∈ front, t.kind ≠ .endOfInput := by
  obtain ⟨tokens, last, htokens, -, hinner⟩ := h
  obtain rfl | ⟨init, final, rfl⟩ := eq_nil_or_concat ts
  · exact absurd rfl hts
  · rw [concat_eq_append, ← append_assoc] at htokens
    obtain ⟨hfront, -⟩ := append_inj' htokens rfl
    exact fun t ht => hinner t (hfront ▸ mem_append_left init ht)

end Ends

theorem scan_ends (position : Nat) (text : List Char) : Ends (scan position text) := by
  refine scan_induction (fun position => ?_) (fun c rest position ts h => ?_) _ _
  · exact ⟨[], _, rfl, rfl, forall_mem_nil _⟩
  · exact h.cons (lexeme_ne_endOfInput c rest)

/-! ### Order -/

/-- Positions that stand in order between two bounds. -/
structure Ordered (low high : Nat) (positions : List Nat) : Prop where
  sorted : positions.Pairwise (· ≤ ·)
  above : ∀ p ∈ positions, low ≤ p
  below : ∀ p ∈ positions, p ≤ high

theorem Ordered.cons {low low' high p : Nat} {positions : List Nat} (h : Ordered low' high positions)
    (hlow : low ≤ p) (hp : p ≤ low') (hhigh : p ≤ high) : Ordered low high (p :: positions) where
  sorted := pairwise_cons.2 ⟨fun q hq => Nat.le_trans hp (h.above q hq), h.sorted⟩
  above := forall_mem_cons.2 ⟨hlow, fun q hq => by have := h.above q hq; omega⟩
  below := forall_mem_cons.2 ⟨hhigh, h.below⟩

/-- **Tokens stand in order**, between the start and the end of their text. -/
theorem ordered_scan (position : Nat) (text : List Char) :
    Ordered position (position + text.length) ((scan position text).map (·.position)) := by
  rw [scan]
  split
  · exact ⟨pairwise_singleton _ _, by simp, by simp⟩
  · rename_i c rest h
    have hshorter := rest_length_lt h
    have hblanks := skipBlanks_length_le text
    have hlexeme := lexeme_length_le c rest
    rw [h, length_cons] at hblanks
    have hrest := ordered_scan (position + (text.length - (lexeme c rest).2.2.length))
      (lexeme c rest).2.2
    have hend : position + (text.length - (lexeme c rest).2.2.length) +
        (lexeme c rest).2.2.length = position + text.length := by omega
    rw [hend] at hrest
    refine hrest.cons ?_ ?_ ?_
    · exact Nat.le_add_right _ _
    · simp only [length_cons]
      omega
    · simp only [length_cons]
      omega
termination_by text.length

end RowQuery.Token
