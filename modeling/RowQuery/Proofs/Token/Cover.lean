/-
# Every character belongs to a token or to a gap

A text is its tokens as they are written, one after the other, with blanks and
comments between them. Nothing is skipped but these, and nothing is read twice:
each token stands where the gap in front of it ends, and the next gap starts
where the token ends.

A token is written as its literal, a string with a quote on each side and the
quotes in it doubled. What is written determines the token: alone it is cut into
that one token.

Key definitions: `Token.Gap`, `Token.sliceOf`, `Token.Slice`, `Token.Covers`.
Key theorems: `Token.gap_skipBlanks`, `Token.lexeme_slice`, `Token.covers_scan`,
`Token.Covers.pairwise`, `Token.characters_accounted`.
-/
import RowQuery.Proofs.Token.Piece
import RowQuery.Proofs.Token.Position
import Mathlib.Data.List.TakeWhile

namespace RowQuery.Token

open List

/-! ### Gaps -/

/-- Blanks and comments in front of some text. A comment runs from two hyphens up to a line feed or
the end of the text. -/
inductive Gap (after : List Char) : List Char → Prop
  | nil : Gap after []
  | blank {c : Char} {rest : List Char} (hc : Text.isBlank c = true) (h : Gap after rest) :
      Gap after (c :: rest)
  | comment {body rest : List Char} (hbody : '\n' ∉ body)
      (hend : ∀ c ∈ (rest ++ after).head?, c = '\n') (h : Gap after rest) :
      Gap after ('-' :: '-' :: (body ++ rest))

/-- What is skipped is a gap, or goes on with one after the rest of a comment. -/
theorem gap_skipFrom (text : List Char) :
    (∃ gap, text = gap ++ skipFrom false text ∧ Gap (skipFrom false text) gap) ∧
      ∃ body gap, '\n' ∉ body ∧ text = body ++ (gap ++ skipFrom true text) ∧
        (∀ c ∈ (gap ++ skipFrom true text).head?, c = '\n') ∧ Gap (skipFrom true text) gap := by
  induction text with
  | nil => exact ⟨⟨[], rfl, .nil⟩, [], [], not_mem_nil, rfl, nofun, .nil⟩
  | cons c rest ih =>
    obtain ⟨⟨gap, hrest, hgap⟩, body, tail, hbody, hcomment, hend, htail⟩ := ih
    constructor
    · rw [skipFrom]
      split
      · rename_i hblank
        exact ⟨c :: gap, congrArg (c :: ·) hrest, .blank hblank hgap⟩
      · split
        · rename_i hhyphens
          obtain ⟨rfl, hhead⟩ := hhyphens
          -- The second hyphen is the first character of the comment that is skipped.
          cases body with
          | nil =>
            rw [nil_append] at hcomment
            rw [← hcomment, hhead] at hend
            exact absurd (hend _ rfl) (by decide)
          | cons d body =>
            have hd : d = '-' := by
              rw [hcomment, cons_append, head?_cons] at hhead
              exact Option.some.inj hhead
            refine ⟨'-' :: '-' :: (body ++ tail), ?_,
              .comment (fun h => hbody (mem_cons_of_mem d h)) hend htail⟩
            rw [cons_append, cons_append, append_assoc, ← hd, ← cons_append, ← hcomment, hd]
        · exact ⟨[], rfl, .nil⟩
    · rw [skipFrom]
      split
      · rename_i hline
        subst hline
        exact ⟨[], '\n' :: gap, not_mem_nil, congrArg ('\n' :: ·) hrest, by rintro _ ⟨⟩; rfl,
          .blank (by decide) hgap⟩
      · rename_i hline
        refine ⟨c :: body, tail, ?_, congrArg (c :: ·) hcomment, hend, htail⟩
        rw [mem_cons, not_or]
        exact ⟨fun h => hline h.symm, hbody⟩

/-- **What is skipped in front of a token, or of the end of a text, is blanks and comments.** -/
theorem gap_skipBlanks (text : List Char) :
    ∃ gap, text = gap ++ skipBlanks text ∧ Gap (skipBlanks text) gap :=
  (gap_skipFrom text).1

/-! ### Slices -/

/-- How a token is written: as its literal, which for a string stands between quotes and has its
quotes doubled. -/
def sliceOf (kind : TokenKind) (literal : List Char) : List Char :=
  match kind with
  | .string => '\'' :: (Expr.doubleQuotes literal ++ ['\''])
  | _ => literal

theorem sliceOf_of_ne {kind : TokenKind} (h : kind ≠ .string) (literal : List Char) :
    sliceOf kind literal = literal := by
  unfold sliceOf
  split
  · exact absurd rfl h
  · rfl

theorem eq_of_stringBody {text body after : List Char} (h : stringBody text = some (body, after)) :
    text = Expr.doubleQuotes body ++ '\'' :: after := by
  fun_induction stringBody text generalizing body after with
  | case1 => cases h
  | case2 rest ih =>
    obtain ⟨⟨b, a⟩, hb, heq⟩ := Option.map_eq_some_iff.1 h
    cases heq
    rw [ih hb, Expr.doubleQuotes, if_pos rfl]
    rfl
  | case3 rest =>
    cases h
    rfl
  | case4 c rest _ hquote ih =>
    obtain ⟨⟨b, a⟩, hb, heq⟩ := Option.map_eq_some_iff.1 h
    cases heq
    rw [ih hb, Expr.doubleQuotes, if_neg hquote]
    rfl

theorem eq_of_stringBody_none {text : List Char} (h : stringBody text = none) :
    ∃ content, text = Expr.doubleQuotes content := by
  fun_induction stringBody text with
  | case1 => exact ⟨[], rfl⟩
  | case2 rest ih =>
    obtain ⟨content, rfl⟩ := ih (Option.map_eq_none_iff.1 h)
    exact ⟨'\'' :: content, rfl⟩
  | case3 => cases h
  | case4 c rest _ hquote ih =>
    obtain ⟨content, rfl⟩ := ih (Option.map_eq_none_iff.1 h)
    exact ⟨c :: content, by rw [Expr.doubleQuotes, if_neg hquote]⟩

/-- Digits alone are a number. -/
theorem number_of_digits {whole : List Char} (h : ∀ d ∈ whole, d.isDigit = true) :
    number whole = (.integer, whole, []) := by
  unfold number
  rw [takeWhile_eq_self_iff.2 h, dropWhile_eq_nil_iff.2 h]

/-- Digits around a point alone are a number. -/
theorem number_of_point {whole fraction : List Char} {d : Char}
    (hwhole : ∀ d ∈ whole, d.isDigit = true) (hd : d.isDigit = true)
    (hfraction : ∀ d ∈ fraction, d.isDigit = true) :
    number (whole ++ '.' :: d :: fraction) = (.decimal, whole ++ '.' :: d :: fraction, []) := by
  have hpoint : ∀ e ∈ ('.' :: d :: fraction).head?, e.isDigit = false := by
    rintro _ ⟨⟩
    decide
  obtain ⟨htake, hdrop⟩ := splits_append hwhole hpoint
  unfold number
  rw [htake, hdrop]
  show (if d.isDigit = true then _ else _) = _
  rw [if_pos hd, takeWhile_eq_self_iff.2 hfraction, dropWhile_eq_nil_iff.2 hfraction]

/-- A number is digits, or digits around a point. -/
theorem number_slice {c : Char} (hc : c.isDigit = true) {rest literal after : List Char}
    {kind : TokenKind} (h : number (c :: rest) = (kind, literal, after)) :
    ∃ slice, sliceOf kind literal = c :: slice ∧ rest = slice ++ after ∧
      number (c :: slice) = (kind, literal, []) := by
  have htakes : ∀ text : List Char, ∀ d ∈ text.takeWhile Char.isDigit, d.isDigit = true :=
    fun _ => all_eq_true.1 all_takeWhile
  have hwhole : ∀ d ∈ c :: rest.takeWhile Char.isDigit, d.isDigit = true :=
    forall_mem_cons.2 ⟨hc, htakes rest⟩
  unfold number at h
  rw [takeWhile_cons, dropWhile_cons, if_pos hc, if_pos hc] at h
  dsimp only at h
  split at h
  · rename_i d more hrest
    split at h
    · rename_i hd
      cases h
      refine ⟨rest.takeWhile Char.isDigit ++ '.' :: d :: more.takeWhile Char.isDigit, rfl, ?_,
        number_of_point hwhole hd (htakes more)⟩
      rw [append_assoc, cons_append, cons_append, takeWhile_append_dropWhile, ← hrest,
        takeWhile_append_dropWhile]
    · cases h
      exact ⟨_, rfl, takeWhile_append_dropWhile.symm, number_of_digits hwhole⟩
  · cases h
    exact ⟨_, rfl, takeWhile_append_dropWhile.symm, number_of_digits hwhole⟩

/-- **A lexeme is the first part of its text, and what is cut off from this part alone.** -/
theorem lexeme_slice {c : Char} {rest literal after : List Char} {kind : TokenKind}
    (h : lexeme c rest = (kind, literal, after)) :
    ∃ slice, sliceOf kind literal = c :: slice ∧ rest = slice ++ after ∧
      lexeme c slice = (kind, literal, []) := by
  by_cases hword : (Text.isAlphabetic c || c == '_') = true
  · have hkind : identifierKind (c :: rest.takeWhile isIdentifierRest) ≠ .string := by
      unfold identifierKind
      split
      · nofun
      · nofun
    have hname : ∀ d ∈ rest.takeWhile isIdentifierRest, isIdentifierRest d = true :=
      all_eq_true.1 all_takeWhile
    rw [lexeme_of_isAlphabetic hword] at h
    cases h
    refine ⟨rest.takeWhile isIdentifierRest, sliceOf_of_ne hkind _,
      takeWhile_append_dropWhile.symm, ?_⟩
    rw [lexeme_of_isAlphabetic hword, takeWhile_eq_self_iff.2 hname, dropWhile_eq_nil_iff.2 hname]
  · by_cases hdigit : c.isDigit = true
    · rw [lexeme_of_isDigit hdigit] at h
      simp only [lexeme_of_isDigit hdigit]
      exact number_slice hdigit h
    · unfold lexeme at h
      split at h
      case h_16 =>
        split at h
        · rename_i hbody
          cases h
          refine ⟨_, rfl, ?_, ?_⟩
          · rw [append_assoc]
            exact eq_of_stringBody hbody
          · have hnothing : ([] : List Char).head? ≠ some '\'' := nofun
            have halone : stringBody (Expr.doubleQuotes literal ++ ['\'']) = some (literal, []) :=
              stringBody_doubleQuotes hnothing literal
            unfold lexeme
            rw [halone]
            rfl
        · rename_i hnone
          cases h
          refine ⟨rest, rfl, (append_nil rest).symm, ?_⟩
          unfold lexeme
          rw [hnone]
          rfl
      case h_17 =>
        rw [if_neg hword, if_neg hdigit] at h
        cases h
        refine ⟨[], rfl, rfl, ?_⟩
        unfold lexeme
        split
        case h_17 =>
          rw [if_neg hword, if_neg hdigit]
        all_goals contradiction
      all_goals
        cases h
        exact ⟨_, rfl, rfl, rfl⟩

/-- What starts no token is one character, or a quote that nothing closes up to the end. -/
theorem lexeme_illegal {c : Char} {rest literal after : List Char}
    (h : lexeme c rest = (.illegal, literal, after)) :
    literal = [c] ∨ after = [] ∧ ∃ content, literal = '\'' :: Expr.doubleQuotes content := by
  by_cases hword : (Text.isAlphabetic c || c == '_') = true
  · rw [lexeme_of_isAlphabetic hword] at h
    obtain ⟨hkind, -⟩ := Prod.mk.inj h
    unfold identifierKind at hkind
    split at hkind <;> cases hkind
  · by_cases hdigit : c.isDigit = true
    · rw [lexeme_of_isDigit hdigit] at h
      unfold number at h
      dsimp only at h
      split at h
      · split at h <;> cases h
      · cases h
    · unfold lexeme at h
      split at h
      case h_16 =>
        split at h
        · cases h
        · rename_i hnone
          cases h
          obtain ⟨content, rfl⟩ := eq_of_stringBody_none hnone
          exact .inr ⟨rfl, content, rfl⟩
      case h_17 =>
        rw [if_neg hword, if_neg hdigit] at h
        cases h
        exact .inl rfl
      all_goals cases h

/-- A token is written in some way in front of some text. -/
structure Slice (t : Token) (slice after : List Char) : Prop where
  written : slice = sliceOf t.kind t.literal.toList
  /-- What starts no token is one character, or a string up to the end of the text in which there
  are quotes in pairs only. -/
  stray : t.kind = .illegal →
    (∃ c, slice = [c]) ∨ after = [] ∧ ∃ content, slice = '\'' :: Expr.doubleQuotes content
  /-- What is written determines the token. -/
  alone : scan 0 slice = [⟨t.kind, t.literal, 0⟩, ⟨.endOfInput, "", slice.length⟩]

namespace Slice

variable {t : Token} {slice after : List Char}

theorem kind_ne (h : Slice t slice after) : t.kind ≠ .endOfInput := by
  have hends : Ends ([⟨t.kind, t.literal, 0⟩] ++ [⟨.endOfInput, "", slice.length⟩]) := by
    rw [singleton_append, ← h.alone]
    exact scan_ends 0 slice
  exact hends.front (cons_ne_nil _ _) ⟨t.kind, t.literal, 0⟩ mem_cons_self

theorem length_pos (h : Slice t slice after) : 0 < slice.length := by
  cases slice with
  | nil =>
    have halone := congrArg length h.alone
    rw [scan] at halone
    cases halone
  | cons c slice => exact Nat.succ_pos _

end Slice

theorem scan_of_skipBlanks_nil (position : Nat) {text : List Char} (h : skipBlanks text = []) :
    scan position text = [⟨.endOfInput, "", position + text.length⟩] := by
  rw [scan]
  split
  · rfl
  · rename_i hcons
    rw [h] at hcons
    cases hcons

/-- The tokens of a text: the first one, where the blanks in front of it end, and those of the text
after it. -/
theorem scan_of_skipBlanks (position : Nat) {text rest literal after : List Char} {c : Char}
    {kind : TokenKind} (hskip : skipBlanks text = c :: rest)
    (h : lexeme c rest = (kind, literal, after)) :
    scan position text =
      ⟨kind, String.ofList literal, position + (text.length - (c :: rest).length)⟩ ::
        scan (position + (text.length - after.length)) after := by
  rw [scan]
  split
  · rename_i hnil
    rw [hskip] at hnil
    cases hnil
  · rename_i hcons
    rw [hskip] at hcons
    obtain ⟨rfl, rfl⟩ := cons.inj hcons
    rw [h]

/-- A lexeme is a slice of its text. -/
theorem slice_of_lexeme {c : Char} {rest literal after : List Char} {kind : TokenKind}
    (hblank : Text.isBlank c = false) (h : lexeme c rest = (kind, literal, after)) :
    ∃ slice, rest = slice ++ after ∧
      ∀ position, Slice ⟨kind, String.ofList literal, position⟩ (c :: slice) after := by
  obtain ⟨slice, hslice, rfl, halone⟩ := lexeme_slice h
  refine ⟨slice, rfl, fun position => ⟨?_, fun hkind => ?_, ?_⟩⟩
  · rw [String.toList_ofList, hslice]
  · obtain rfl : kind = .illegal := hkind
    rw [sliceOf_of_ne (by decide)] at hslice
    rw [← hslice]
    exact (lexeme_illegal h).imp_left fun h => ⟨c, h⟩
  · have hcomment : c ≠ '-' ∨ slice.head? ≠ some '-' := by
      by_cases hc : c = '-'
      · subst hc
        cases halone
        exact .inr nofun
      · exact .inl hc
    rw [scan_of_skipBlanks 0 (skipBlanks_cons hblank hcomment) halone,
      scan_of_skipBlanks_nil _ rfl]
    simp

/-! ### Texts -/

/-- A text from some position on is tokens, each written where it stands, with gaps in front of them
and of the end. -/
inductive Covers : Nat → List Char → List Token → Prop
  | ending {position : Nat} {gap : List Char} (hgap : Gap [] gap) :
      Covers position gap [⟨.endOfInput, "", position + gap.length⟩]
  | token {position : Nat} {gap slice after : List Char} {t : Token} {ts : List Token}
      (hgap : Gap (slice ++ after) gap) (hposition : t.position = position + gap.length)
      (hslice : Slice t slice after) (rest : Covers (t.position + slice.length) after ts) :
      Covers position (gap ++ (slice ++ after)) (t :: ts)

namespace Covers

variable {position : Nat} {text : List Char} {ts : List Token}

/-- The end of input is the last token, at the end of the text, and no other one is. -/
theorem ends (h : Covers position text ts) :
    ∃ front, ts = front ++ [⟨.endOfInput, "", position + text.length⟩] ∧
      ∀ t ∈ front, t.kind ≠ .endOfInput := by
  induction h with
  | ending => exact ⟨[], rfl, forall_mem_nil _⟩
  | @token position gap slice after t ts hgap hposition hslice _ ih =>
    obtain ⟨front, hts, hfront⟩ := ih
    have hend : t.position + slice.length + after.length =
        position + (gap ++ (slice ++ after)).length := by
      rw [hposition, length_append, length_append]
      omega
    exact ⟨t :: front, by rw [hts, hend, cons_append], forall_mem_cons.2 ⟨hslice.kind_ne, hfront⟩⟩

theorem position_le (h : Covers position text ts) : ∀ t ∈ ts, position ≤ t.position := by
  induction h with
  | ending => exact forall_mem_singleton.2 (Nat.le_add_right _ _)
  | token _ hposition _ _ ih =>
    refine forall_mem_cons.2 ⟨by omega, fun t ht => ?_⟩
    have := ih t ht
    omega

/-- **Each token stands behind those in front of it.** -/
theorem pairwise (h : Covers position text ts) : (ts.map (·.position)).Pairwise (· < ·) := by
  induction h with
  | ending => exact pairwise_singleton _ _
  | token _ _ hslice hrest ih =>
    refine pairwise_cons.2 ⟨forall_mem_map.2 fun t ht => ?_, ih⟩
    have hpos := hslice.length_pos
    have hle := hrest.position_le t ht
    dsimp only
    omega

end Covers

/-- **The tokens of a text cover it**: whatever is in no token is in a gap. -/
theorem covers_scan (position : Nat) (text : List Char) :
    Covers position text (scan position text) := by
  obtain ⟨gap, htext, hgap⟩ := gap_skipBlanks text
  cases hskip : skipBlanks text with
  | nil =>
    rw [hskip, append_nil] at htext
    rw [hskip, ← htext] at hgap
    rw [scan_of_skipBlanks_nil position hskip]
    exact .ending hgap
  | cons c rest =>
    rcases hlexeme : lexeme c rest with ⟨kind, literal, after⟩
    have hshorter : after.length < text.length := by
      have hrest := rest_length_lt hskip
      rwa [hlexeme] at hrest
    obtain ⟨slice, rfl, hslice⟩ := slice_of_lexeme (isBlank_of_skipFrom hskip) hlexeme
    rw [hskip] at htext hgap
    rw [scan_of_skipBlanks position hskip hlexeme]
    have hstart : text.length - (c :: (slice ++ after)).length = gap.length := by
      rw [htext, length_append]
      omega
    have hend : position + (text.length - after.length) =
        position + gap.length + (c :: slice).length := by
      rw [htext, length_append, length_cons, length_cons, length_append]
      omega
    rw [hstart, hend]
    have hcovers := Covers.token hgap rfl (hslice (position + gap.length))
      (covers_scan (position + gap.length + (c :: slice).length) after)
    rwa [cons_append, ← htext] at hcovers
termination_by text.length

/-- **Every character of a text is accounted for.** The tokens of a text are written one after the
other, each where it stands, and between them, in front of them and behind them there is nothing but
blanks and comments that run up to a line feed or the end. The last token, and no other one, is the
end of input; it stands at the end of the text. Every token stands behind those in front of it. -/
theorem characters_accounted (text : String) :
    Covers 0 text.toList (ofText text) ∧
      (∃ front, ofText text = front ++ [⟨.endOfInput, "", text.length⟩] ∧
        ∀ t ∈ front, t.kind ≠ .endOfInput) ∧
      ((ofText text).map (·.position)).Pairwise (· < ·) := by
  have hcovers : Covers 0 text.toList (ofText text) := covers_scan 0 text.toList
  obtain ⟨front, htokens, hfront⟩ := hcovers.ends
  rw [Nat.zero_add, String.length_toList] at htokens
  exact ⟨hcovers, ⟨front, htokens, hfront⟩, hcovers.pairwise⟩

end RowQuery.Token
