/-
# Reading ends

The grammar, level by level, advances: whatever the text is, an expression takes
a token if one is left, each loop takes a token each time around, the end of
input is never taken, and what is nested is read after a token. So neither the
bound on nesting nor that of a loop is ever reached, and what is noted is noted
in the order of the text.

Key definitions: `Grammar.Alike`, `Grammar.ItemsConsume`, `Grammar.LoopsRepeat`.
Key theorems: `Grammar.Alike.next`, `Statement.read_progress`.
-/
import RowQuery.Proofs.Statement.Progress
import RowQuery.Statement.Parser
import Mathlib.Logic.Function.Iterate

namespace RowQuery

open List Reader

variable {tokens : List Token} {n : Nat}

namespace Grammar

/-- Two grammars do the same from where at most `n` tokens are left. -/
structure Alike (tokens : List Token) (n : Nat) (g g' : Grammar) : Prop where
  expression : Goes tokens n g.expression g'.expression
  body : Goes tokens n g.body g'.body

section Expressions

variable {expression expression' : Reader Expr} {taking : Bool}

theorem steps_sortKey (h : Steps tokens n taking (fun _ => True) expression expression') :
    Steps tokens n taking (fun _ => True) (sortKey expression) (sortKey expression') :=
  .bind h fun _ => .eating (by decide) fun _ => .ite (fun _ => .pure) fun _ =>
    .eating (by decide) fun _ => .pure

theorem goes_orderBy (h : Goes tokens n expression expression') :
    Goes tokens n (orderBy expression) (orderBy expression') := by
  refine .eating (by decide) fun _ => .ite (fun _ => ?_) fun _ => .pure
  exact .expect (by decide) _ fun _ => .commaList (steps_sortKey h)

end Expressions

/-! ### Primaries -/

section Nested

variable {g g' : Grammar} (hg : Alike tokens n g g')

include hg

theorem goes_nested : Goes tokens n (nested g) (nested g') :=
  .seeing _ fun _ => .seeing _ fun _ => .ite (fun _ => .bind hg.body fun _ => .pure) fun _ =>
    hg.expression

theorem steps_window {taking : Bool} {P : Token → Prop} (hP : ∀ t, P t → t.kind ≠ .endOfInput)
    (name : String) (args : List Expr) :
    Steps tokens n taking P (window g name args) (window g' name args) := by
  refine .advancing hP fun _ => .expect (by decide) _ fun _ => .eating (by decide) fun _ => ?_
  refine .ite (fun _ => .expect (by decide) _ fun _ => .bind (.commaList hg.expression) fun _ => ?_)
    fun _ => .given ?_
  all_goals exact .bind (goes_orderBy hg.expression) fun _ => .expect (by decide) _ fun _ => .pure

theorem steps_call {taking : Bool} {P : Token → Prop} (hP : ∀ t, P t → t.kind ≠ .endOfInput)
    (name : String) : Steps tokens n taking P (call g name) (call g' name) := by
  refine .advancing hP fun _ => .seeing _ fun _ => ?_
  refine .ite (fun _ => .given ?_) fun _ => .bind (.commaList hg.expression) fun _ => ?_
  all_goals
    refine .expect (by decide) _ fun _ => .sees _ fun b => .ite (fun hb => ?_) fun _ => .pure
    refine steps_window hg (fun t ht => ?_) _ _
    exact ht.2 hb ▸ by decide

/-- A branch of a case, after its first word. -/
def branch (g : Grammar) : Reader Branch := do
  let condition ← g.expression
  let _ ← expect (.keyword .THEN) (.word .THEN)
  let result ← g.expression
  pure ⟨condition, result⟩

theorem goes_branch : Goes tokens n (branch g) (branch g') :=
  .bind hg.expression fun _ => .expect (by decide) _ fun _ => .bind hg.expression fun _ => .pure

omit hg in
theorem branches_succ (g : Grammar) (b : Nat) : branches g (b + 1) = (do
    if ← eat (.keyword .WHEN) then
      let first ← branch g
      let rest ← branches g b
      pure (first :: rest)
    else branches g 0) :=
  rfl

theorem goes_branches : ∀ b, Goes tokens n (branches g b) (branches g' b)
  | 0 => .pure
  | b + 1 => by
    rw [branches_succ, branches_succ]
    refine .eating (by decide) fun _ => .ite (fun _ => ?_) fun _ => .pure
    exact .bind (goes_branch hg) fun _ => .bind (goes_branches b) fun _ => .pure

theorem steps_caseExpr {taking : Bool} {P : Token → Prop} (hP : ∀ t, P t → t.kind ≠ .endOfInput) :
    Steps tokens (n + 1) taking P (caseExpr g) (caseExpr g') := by
  refine .advance hP fun _ => .bind (.bounded (goes_branches hg)) fun list => ?_
  refine .ite (fun _ => .reportExpected _ ?_) fun _ => ?_
  all_goals
    refine .eating (by decide) fun _ => ?_
    refine .ite (fun _ => .bind hg.expression fun _ => .given ?_) fun _ => .given ?_
    all_goals exact .expect (by decide) _ fun _ => .pure

omit hg in
/-- A stray token is noted after it is taken, at its own position. -/
theorem steps_stray {taking : Bool} {P : Token → Prop} (hP : ∀ t, P t → t.kind ≠ .endOfInput)
    {token : Token} (htoken : ∀ t, P t → t = token) :
    Steps tokens n taking P (stray token) (stray token) := by
  intro s hs hlength hcurrent
  obtain rfl := htoken _ hcurrent
  have htail := hs.length_tail
  have hlt : s.rest.tail.length < s.rest.length := by omega
  refine ⟨rfl, ?_, Nat.le_of_lt hlt, fun _ _ => hlt⟩
  refine (hs.take (hP _ hcurrent)).note _ hs.position_le_current fun t ht => ?_
  exact hs.current_le_position t (mem_of_mem_tail ht)

/-- **A primary advances**, and what is nested in it is read after a token. -/
theorem advances_primary : Advances tokens (n + 1) (primary g) (primary g') := by
  refine .current fun token => ?_
  -- Only the end of input is noted without being taken; whatever else is next is taken.
  by_cases hend : token.kind = .endOfInput
  · rw [hend]
    refine .atEnd (fun t h => h.2 ▸ hend) ?_
    exact .report _ .pure
  · have hP : ∀ t, True ∧ t = token → t.kind ≠ .endOfInput := fun t h => h.2 ▸ hend
    split
    any_goals exact .advance hP fun _ => .pure
    · exact .advance hP fun _ => .bind (goes_nested hg) fun _ => .expect (by decide) _ fun _ => .pure
    · exact steps_caseExpr hg hP
    · refine .advance hP fun _ => .sees _ fun b => .ite (fun hb => ?_) fun _ => .pure
      refine steps_call hg (fun t ht => ?_) _
      exact ht.2 hb ▸ by decide
    · exact steps_stray hP fun t h => h.2
    · exact absurd ‹_› hend
    · exact .report _ (.advance hP fun _ => .pure)

/-! ### Operators -/

theorem advances_signed : ∀ b, Advances tokens (n + 1) (signed g b) (signed g' b)
  | 0 => advances_primary hg
  | b + 1 => by
    refine .eat (by decide) ?_ ?_
    · exact .bind ((advances_signed b).goes.mono (Nat.le_succ n)) fun _ => .pure
    · exact advances_primary hg

omit hg in
theorem goes_chain {operator? : TokenKind → Option BinaryOp}
    (hend : operator? .endOfInput = none) {operand operand' : Reader Expr}
    (hoperand : Goes tokens n operand operand') : ∀ (b : Nat) (left : Expr),
    Goes tokens n (chain operator? operand b left) (chain operator? operand' b left)
  | 0, _ => .pure
  | b + 1, left => by
    refine .kind fun κ => ?_
    cases hop : operator? κ with
    | none => exact .pure
    | some op =>
      refine .advancing (fun t ht hkind => ?_) fun _ => .bind hoperand fun right => ?_
      · rw [← ht.2, hkind, hend] at hop
        cases hop
      · exact goes_chain hend hoperand b (.binary left op right)

omit hg in
theorem advances_leftAssociative {operator? : TokenKind → Option BinaryOp}
    (hend : operator? .endOfInput = none) {operand operand' : Reader Expr}
    (hoperand : Advances tokens n operand operand') :
    Advances tokens n (leftAssociative operator? operand) (leftAssociative operator? operand') :=
  .bind hoperand fun first => .bounded fun b => goes_chain hend hoperand.goes b first

theorem advances_product : Advances tokens (n + 1) (product g) (product g') :=
  advances_leftAssociative rfl (.bounded (advances_signed hg))

theorem advances_sum : Advances tokens (n + 1) (sum g) (sum g') :=
  advances_leftAssociative rfl (advances_product hg)

theorem steps_inList {taking : Bool} {P : Token → Prop} (hP : ∀ t, P t → t.kind ≠ .endOfInput)
    (left : Expr) (negated : Bool) :
    Steps tokens (n + 1) taking P (inList g left negated) (inList g' left negated) := by
  refine .advance hP fun _ => .expect (by decide) _ fun _ => .seeing _ fun _ => .seeing _ fun _ => ?_
  refine .ite (fun _ => .bind hg.body fun _ => .given ?_) fun _ =>
    .bind (.commaList hg.expression) fun _ => ?_
  all_goals exact .expect (by decide) _ fun _ => .pure

theorem steps_like {taking : Bool} {P : Token → Prop} (hP : ∀ t, P t → t.kind ≠ .endOfInput)
    (left : Expr) (negated : Bool) :
    Steps tokens (n + 1) taking P (like g left negated) (like g' left negated) :=
  .advancing hP fun _ => .bind (advances_sum hg).goes fun _ => .pure

/-- **A comparison advances** with its left operand. -/
theorem advances_comparison : Advances tokens (n + 1) (comparison g) (comparison g') := by
  refine .bind (advances_sum hg) fun left => .kind fun κ => ?_
  have hP : ∀ {κ : TokenKind}, κ ≠ .endOfInput → ∀ t : Token, True ∧ t.kind = κ →
      t.kind ≠ .endOfInput := fun hκ t ht => ht.2 ▸ hκ
  cases hop : comparisonOperator? κ with
  | some op =>
    refine .advancing (hP fun hκ => ?_) fun _ => .bind (advances_sum hg).goes fun _ => .pure
    rw [hκ] at hop
    cases hop
  | none =>
    dsimp only
    split
    · refine .advancing (hP (by decide)) fun _ => .eating (by decide) fun _ => ?_
      exact .expect (by decide) _ fun _ => .pure
    · refine .advancing (hP (by decide)) fun _ => .kind fun κ => ?_
      split
      · exact steps_inList hg (hP (by decide)) left true
      · exact steps_like hg (hP (by decide)) left true
      · exact .reportExpected _ .pure
    · exact steps_inList hg (hP (by decide)) left false
    · exact steps_like hg (hP (by decide)) left false
    · exact .pure

omit hg in
theorem steps_seesOr {α : Type} {taking : Bool} {P : Token → Prop} {k k' : Bool → Reader α}
    (hk : ∀ b, Steps tokens n taking (fun t => P t ∧ (b = true → t.kind = .identifier)) (k b) (k' b)) :
    Steps tokens n taking P (seesOr >>= k) (seesOr >>= k') := by
  refine .look (fun t => t.kind == .identifier && Text.asciiLower t.literal == "or") fun b => ?_
  refine (hk b).before fun t ht => ⟨ht.1, fun hb => ?_⟩
  exact eq_of_beq (Bool.and_eq_true_iff.1 (ht.2.trans hb)).1

/-- **An expression advances.** -/
theorem advances_disjunction : Advances tokens (n + 1) (disjunction g) (disjunction g') := by
  have hend : andOperator? .endOfInput = none := rfl
  have hconjunction := advances_leftAssociative hend (advances_comparison hg)
  refine .bind hconjunction fun e => steps_seesOr fun b => .ite (fun hb => ?_) fun _ => .pure
  refine .report _ (.advancing (fun t ht => ht.2 hb ▸ by decide) fun _ => ?_)
  exact .bind hconjunction.goes fun _ => .pure

end Nested

/-! ### Clauses -/

theorem goes_optionalAlias {accepts : TokenKind → Bool} (haccepts : accepts .endOfInput = false)
    (what : Expectation) :
    Goes tokens n (optionalAlias accepts what) (optionalAlias accepts what) := by
  refine .eating (by decide) fun _ => .ite (fun _ => ?_) fun _ => ?_
  · refine .kind fun κ => .ite (fun hκ => ?_) fun _ => .reportExpected _ .pure
    refine .advance (fun t ht hend => ?_) fun _ => .pure
    rw [← ht.2, hend, haccepts] at hκ
    cases hκ
  · refine .sees _ fun b => steps_seesOr fun o => .ite (fun hb => ?_) fun _ => .pure
    exact .advance (fun t ht => ht.1.2 (Bool.and_eq_true_iff.1 hb).1 ▸ by decide) fun _ => .pure

theorem goes_sourceKind : Goes tokens n sourceKind sourceKind := by
  refine .current fun token => .secondKind fun κ => ?_
  split
  · rename_i hkind _ _
    exact .advance (fun t ht => ht.2 ▸ hkind ▸ by decide) fun _ => .pure
  · exact .pure

theorem goes_tableRef : Goes tokens n tableRef tableRef := by
  refine .bind goes_sourceKind fun k => .kind fun κ => .ite (fun hκ => ?_) fun _ => ?_
  · refine .advance (fun t ht hend => ?_) fun _ => .given ?_
    · rw [← ht.2, hend] at hκ
      cases hκ
    · exact .bind (goes_optionalAlias rfl _) fun _ => .pure
  · refine .reportExpected _ (.given (.before ?_ fun _ _ => trivial))
    exact .bind (goes_optionalAlias rfl _) fun _ => .pure

/-- The word JOIN after another word of a join, and OUTER between them. -/
def joinEnd (κ : TokenKind) (join : JoinKind) : Reader (Option JoinKind) := do
  if takesOuter κ then
    let _ ← eat (.keyword .OUTER)
  let _ ← expect (.keyword .JOIN) (.word .JOIN)
  pure (some join)

theorem goes_joinEnd (κ : TokenKind) (join : JoinKind) :
    Goes tokens n (joinEnd κ join) (joinEnd κ join) := by
  refine .ite (fun _ => .eating (by decide) fun _ => ?_) fun _ => ?_
  · exact .expect (by decide) _ fun _ => .pure
  · exact .expect (by decide) _ fun _ => .pure

theorem joinEnd_fst (κ : TokenKind) (join : JoinKind) (s : Reading) :
    (joinEnd κ join s).1 = some join := by
  unfold joinEnd
  split
  · rfl
  · rfl

theorem ne_endOfInput_of_joinWord? {κ : TokenKind} {join : JoinKind} (h : joinWord? κ = some join) :
    κ ≠ .endOfInput := by
  intro hκ
  rw [hκ] at h
  cases h

theorem goes_joinKind? : Goes tokens n joinKind? joinKind? := by
  refine .kind fun κ => .ite (fun hκ => ?_) fun _ => ?_
  · refine .advance (fun t ht => ?_) fun _ => .pure
    rw [ht.2, eq_of_beq hκ]
    decide
  · cases hword : joinWord? κ with
    | none => exact .pure
    | some join =>
      refine .advancing (fun t ht => ?_) fun _ => goes_joinEnd κ join
      exact ht.2 ▸ ne_endOfInput_of_joinWord? hword

/-- The words of a join are taken, or nothing is. -/
theorem joinKind?_cases {s : Reading} (hs : s.Within tokens) :
    joinKind? s = (none, s) ∨ ∃ join s', joinKind? s = (some join, s') ∧ s'.Within tokens ∧
      s'.rest.length < s.rest.length := by
  by_cases hjoin : (s.current.kind == .keyword .JOIN) = true
  · have hrun : joinKind? s = (some .inner, ⟨s.rest.tail, s.diagnostics⟩) := by
      show (if (s.current.kind == .keyword .JOIN) = true then _ else _ : Reader _) s = _
      rw [if_pos hjoin]
      rfl
    have hne : s.current.kind ≠ .endOfInput := by
      rw [eq_of_beq hjoin]
      decide
    exact .inr ⟨_, _, hrun, (Steps.pure (a := ())).moves_after hs hne⟩
  · cases hword : joinWord? s.current.kind with
    | none =>
      left
      show (if (s.current.kind == .keyword .JOIN) = true then _ else _ : Reader _) s = _
      rw [if_neg hjoin, hword]
      rfl
    | some join =>
      have hrun : joinKind? s = joinEnd s.current.kind join ⟨s.rest.tail, s.diagnostics⟩ := by
        show (if (s.current.kind == .keyword .JOIN) = true then _ else _ : Reader _) s = _
        rw [if_neg hjoin, hword]
        rfl
      refine .inr ⟨join, _, hrun.trans (Prod.ext (joinEnd_fst _ join _) rfl), ?_⟩
      exact (goes_joinEnd _ join).moves_after hs (ne_endOfInput_of_joinWord? hword)

section Queries

variable {expression expression' : Reader Expr}

/-- A join after its first words. -/
def join (expression : Reader Expr) (kind : JoinKind) : Reader Join := do
  let table ← tableRef
  let condition ← do
    if ← eat (.keyword .ON) then
      let e ← expression
      pure (some e)
    else
      if kind != .cross then report (.joinWithoutCondition table.name)
      pure none
  pure ⟨kind, table, condition⟩

theorem goes_join (h : Goes tokens n expression expression') (kind : JoinKind) :
    Goes tokens n (join expression kind) (join expression' kind) := by
  refine .bind goes_tableRef fun table => .eating (by decide) fun _ => .ite (fun _ => ?_) fun _ => ?_
  · exact .bind h fun _ => .pure
  · exact .ite (fun _ => .report _ .pure) fun _ => .pure

theorem joins_succ (expression : Reader Expr) (b : Nat) : joins expression (b + 1) = (do
    let word ← joinKind?
    word.elim (pure []) fun kind => do
      let first ← join expression kind
      let rest ← joins expression b
      pure (first :: rest)) := by
  rw [joins]
  refine bind_congr fun word => ?_
  cases word with
  | none => rfl
  | some kind =>
    simp only [join, bind_assoc, pure_bind]
    refine bind_congr fun table => bind_congr fun found => ?_
    split
    · rfl
    · split
      · rfl
      · rfl

theorem goes_joins (h : Goes tokens n expression expression') :
    ∀ b, Goes tokens n (joins expression b) (joins expression' b)
  | 0 => .pure
  | b + 1 => by
    rw [joins_succ, joins_succ]
    refine .bind goes_joinKind? fun word => ?_
    cases word with
    | none => exact .pure
    | some kind =>
      exact .bind (goes_join h kind) fun _ => .bind (goes_joins h b) fun _ => .pure

theorem goes_clause (word : Keyword) (h : Goes tokens n expression expression') :
    Goes tokens n (clause word expression) (clause word expression') :=
  .eating (fun h => TokenKind.noConfusion h) fun _ =>
    .ite (fun _ => .bind h fun _ => .pure) fun _ => .pure

theorem goes_groupBy (h : Goes tokens n expression expression') :
    Goes tokens n (groupBy expression) (groupBy expression') :=
  .eating (by decide) fun _ =>
    .ite (fun _ => .expect (by decide) _ fun _ => .commaList h) fun _ => .pure

theorem goes_rowCount : Goes tokens n rowCount rowCount := by
  refine .current fun token => ?_
  split
  · rename_i count hcount
    refine .advance (fun t ht hend => ?_) fun _ => .pure
    rw [← ht.2] at hcount
    unfold rowCountOf? at hcount
    rw [hend] at hcount
    cases hcount
  · refine .reportExpected _ (.ite (fun hkind => ?_) fun _ => .pure)
    exact .advance (fun t ht => ht.2 ▸ bne_iff_ne.1 hkind) fun _ => .pure

theorem goes_limit : Goes tokens n limit limit := by
  refine .eating (by decide) fun _ => .ite (fun _ => ?_) fun _ => ?_
  · refine .bind goes_rowCount fun count => .eating (by decide) fun _ => .ite (fun _ => ?_) fun _ => ?_
    · exact .bind goes_rowCount fun _ => .pure
    · exact .pure
  · refine .eating (by decide) fun _ => .ite (fun _ => ?_) fun _ => .pure
    exact .bind goes_rowCount fun _ => .pure

theorem steps_selectItem {taking : Bool}
    (h : Steps tokens n taking (fun _ => True) expression expression') :
    Steps tokens n taking (fun _ => True) (selectItem expression) (selectItem expression') :=
  .eat (by decide) .pure (.bind h fun _ => .bind (goes_optionalAlias rfl _) fun _ => .pure)

/-- **A query advances** with its first item, if not with the word SELECT. -/
theorem advances_query (h : Advances tokens n expression expression') :
    Advances tokens n (query expression) (query expression') := by
  have hgoes := h.goes
  refine .expect (by decide) _ fun _ => .eating (by decide) fun _ => ?_
  refine .bind (.commaList (steps_selectItem h)) fun _ => .expect (by decide) _ fun _ => ?_
  refine .ite (fun _ => .bind goes_tableRef fun _ => ?_) fun _ => .given ?_
  -- The clauses are the same with a table and without.
  all_goals
    refine .bind (.bounded (goes_joins hgoes)) fun _ => .bind (goes_clause .WHERE hgoes) fun _ => ?_
    refine .bind (goes_groupBy hgoes) fun _ => .bind (goes_clause .HAVING hgoes) fun _ => ?_
    exact .bind (goes_orderBy hgoes) fun _ => .bind goes_limit fun _ => .pure

end Queries

/-! ### Statements -/

theorem goes_setOperator? : Goes tokens n setOperator? setOperator? := by
  refine .kind fun κ => ?_
  split
  · refine .advancing (fun t ht => ht.2 ▸ by decide) fun _ => .eating (by decide) fun _ => ?_
    exact .ite (fun _ => .pure) fun _ => .pure
  · exact .advance (fun t ht => ht.2 ▸ by decide) fun _ => .pure
  · exact .advance (fun t ht => ht.2 ▸ by decide) fun _ => .pure
  · exact .pure

theorem steps_tableExpr {taking : Bool} {body body' : Reader Statement}
    (h : Steps tokens n taking (fun _ => True) body body') :
    Steps tokens n taking (fun _ => True) (tableExpr body) (tableExpr body') := by
  refine .sees _ fun b => .ite (fun hb => ?_) fun _ => .reportExpected _ (.given ?_)
  · refine .advancing (fun t ht => ht.2 hb ▸ by decide) fun _ => .given ?_
    refine .expect (by decide) _ fun _ => .expect (by decide) _ fun _ => .bind h.goes fun _ => ?_
    exact .expect (by decide) _ fun _ => .pure
  -- Without a name it is the statement that takes a token, if the words in front of it do not.
  · refine .before ?_ fun _ _ => trivial
    refine .expect (by decide) _ fun _ => .expect (by decide) _ fun _ => .bind h fun _ => ?_
    exact .expect (by decide) _ fun _ => .pure

theorem goes_compound {expression expression' : Reader Expr}
    (h : Advances tokens n expression expression') :
    Goes tokens n (compound expression) (compound expression') := by
  refine .bind goes_setOperator? fun op => ?_
  cases op with
  | none => exact .pure
  | some op =>
    refine .bind (advances_query h).goes fun right => .bind goes_setOperator? fun second => ?_
    refine .ite (fun _ => ?_) fun _ => .pure
    exact .report _ (.bind (advances_query h).goes fun _ => .pure)

/-- **A statement advances**; its table expressions are read after the word WITH. -/
theorem advances_statement {expression expression' : Reader Expr} {body body' : Reader Statement}
    (h : Advances tokens (n + 1) expression expression') (hbody : Goes tokens n body body') :
    Advances tokens (n + 1) (statement expression body) (statement expression' body') := by
  have hqueries : ∀ tables : List TableExpr, Advances tokens (n + 1) (do
      let primary ← query expression
      let second ← compound expression
      pure (⟨tables, primary, second⟩ : Statement)) (do
      let primary ← query expression'
      let second ← compound expression'
      pure (⟨tables, primary, second⟩ : Statement)) :=
    fun _ => .bind (advances_query h) fun _ => .bind (goes_compound h) fun _ => .pure
  refine .eat (by decide) (.ite (fun _ => ?_) fun hne => absurd rfl hne)
    (.ite (fun h => Bool.noConfusion h) fun _ => .given (hqueries []))
  exact .bind (.commaList (steps_tableExpr hbody)) fun tables =>
    (hqueries tables).goes.mono (Nat.le_succ n)

/-! ### Nesting -/

/-- **What is nested is read after a token**: two grammars that do the same from where at most `n`
tokens are left make grammars that do so from where at most one more is left. -/
theorem Alike.next {g g' : Grammar} (hg : Alike tokens n g g') : Alike tokens (n + 1) g.next g'.next where
  expression := (advances_disjunction hg).goes
  body := (advances_statement (advances_disjunction hg) hg.body).goes

/-- Some token is left always, the end of input if no other one is. -/
theorem Alike.zero (g g' : Grammar) : Alike tokens 0 g g' where
  expression s hs hlength := by
    have := hs.length_tail
    omega
  body s hs hlength := by
    have := hs.length_tail
    omega

/-- Where at most `n` tokens are left, what is nested deeper than `n` levels is not read. -/
theorem alike_iterate (g g' : Grammar) : ∀ n, Alike tokens n (Grammar.next^[n] g) (Grammar.next^[n] g')
  | 0 => .zero g g'
  | n + 1 => by
    rw [Function.iterate_succ_apply', Function.iterate_succ_apply']
    exact (alike_iterate g g' n).next

theorem ofDepth_eq_iterate : ∀ n, ofDepth n = Grammar.next^[n] exhausted
  | 0 => rfl
  | n + 1 => by rw [Function.iterate_succ_apply', ← ofDepth_eq_iterate n, ofDepth]

/-- A grammar with a bound on its nesting keeps to the text, wherever it is read. -/
theorem alike_ofDepth : ∀ depth n, Alike tokens n (ofDepth depth) (ofDepth depth)
  | 0, _ => ⟨.report _ .pure, .report _ .pure⟩
  | depth + 1, n =>
    have hnext := (alike_ofDepth depth n).next
    ⟨hnext.expression.mono (Nat.le_succ n), hnext.body.mono (Nat.le_succ n)⟩

/-! ### Loops -/

/-- Before any token but the end of input, the items of the lists of a grammar take a token. -/
structure ItemsConsume (tokens : List Token) (g : Grammar) : Prop where
  expression : Consumes tokens g.expression
  sortKey : Consumes tokens (sortKey g.expression)
  selectItem : Consumes tokens (selectItem g.expression)
  tableExpr : Consumes tokens (tableExpr g.body)

/-- The loops of a grammar take a token each time around. -/
structure LoopsRepeat (tokens : List Token) (g : Grammar) : Prop where
  expressions : Repeats tokens fun _ : Unit => commaRest g.expression
  sortKeys : Repeats tokens fun _ : Unit => commaRest (sortKey g.expression)
  selectItems : Repeats tokens fun _ : Unit => commaRest (selectItem g.expression)
  tableExprs : Repeats tokens fun _ : Unit => commaRest (tableExpr g.body)
  joins : Repeats tokens fun _ : Unit => joins g.expression
  branches : Repeats tokens fun _ : Unit => branches g
  signs : Repeats tokens fun _ : Unit => signed g
  products : Repeats tokens fun left b => chain productOperator? (bounded (signed g)) b left
  sums : Repeats tokens fun left b => chain sumOperator? (product g) b left
  conjunctions : Repeats tokens fun left b => chain andOperator? (comparison g) b left
  semicolons : Repeats tokens fun _ : Unit => skipAll .semicolon

theorem itemsConsume_next {g : Grammar} (hg : Alike tokens tokens.length g g) :
    ItemsConsume tokens g.next := by
  have hexpression := advances_disjunction hg
  have hle := Nat.le_succ tokens.length
  exact {
    expression := (hexpression.mono hle).consumes
    sortKey := (steps_sortKey (hexpression.mono hle)).consumes
    selectItem := (steps_selectItem (hexpression.mono hle)).consumes
    tableExpr := (steps_tableExpr ((advances_statement hexpression hg.body).mono hle)).consumes }

theorem chain_succ (operator? : TokenKind → Option BinaryOp) (operand : Reader Expr) (b : Nat)
    (left : Expr) : chain operator? operand (b + 1) left = (do
      let κ ← kind
      (operator? κ).elim (pure left) fun op => do
        let _ ← advance
        let right ← operand
        chain operator? operand b (.binary left op right)) := by
  rw [chain]
  refine bind_congr fun κ => ?_
  cases operator? κ with
  | none => rfl
  | some op => rfl

theorem repeats_chain {operator? : TokenKind → Option BinaryOp}
    (hend : operator? .endOfInput = none) {operand : Reader Expr}
    (hoperand : Goes tokens tokens.length operand operand) :
    Repeats tokens fun left b => chain operator? operand b left := by
  refine .of_turns fun left s hs => ?_
  have hrun : ∀ b, chain operator? operand (b + 1) left s =
      (operator? s.current.kind).elim (pure left) (fun op => (do
        let _ ← advance
        let right ← operand
        chain operator? operand b (.binary left op right) : Reader Expr)) s := by
    intro b
    rw [chain_succ]
    rfl
  cases hop : operator? s.current.kind with
  | none =>
    refine .inl fun b => ?_
    cases b with
    | zero => rfl
    | succ b =>
      rw [hrun b, hop]
      rfl
  | some op =>
    have hne : s.current.kind ≠ .endOfInput := by
      intro hkind
      rw [hkind, hend] at hop
      cases hop
    obtain ⟨hwithin, hlt⟩ := hoperand.moves_after hs hne
    refine .inr ⟨.binary left op (operand ⟨s.rest.tail, s.diagnostics⟩).1, _, id, hwithin, hlt, ?_⟩
    intro b
    rw [hrun b, hop]
    rfl

theorem repeats_joins {expression : Reader Expr}
    (h : Goes tokens tokens.length expression expression) :
    Repeats tokens fun _ : Unit => joins expression := by
  refine .of_turns fun _ s hs => ?_
  have hrun : ∀ b, joins expression (b + 1) s = (joinKind? s).1.elim (pure []) (fun kind => (do
      let first ← join expression kind
      let rest ← joins expression b
      pure (first :: rest) : Reader (List Join))) (joinKind? s).2 := by
    intro b
    rw [joins_succ]
    rfl
  rcases joinKind?_cases hs with hnone | ⟨kind, s', hsome, hs', hlt⟩
  · refine .inl fun b => ?_
    cases b with
    | zero => rfl
    | succ b =>
      rw [hrun b, hnone]
      rfl
  · obtain ⟨hwithin, hle⟩ := (goes_join h kind).moves hs'
    refine .inr ⟨(), _, ((join expression kind s').1 :: ·), hwithin, by omega, fun b => ?_⟩
    rw [hrun b, hsome]
    rfl

/-- **Each loop takes a token each time around.** -/
theorem loopsRepeat {g : Grammar} (hg : Alike tokens tokens.length g g) : LoopsRepeat tokens g :=
  have hle := Nat.le_succ tokens.length
  { expressions := .commaRest hg.expression
    sortKeys := .commaRest (steps_sortKey hg.expression)
    selectItems := .commaRest (steps_selectItem hg.expression)
    tableExprs := .commaRest (steps_tableExpr hg.body)
    joins := repeats_joins hg.expression
    branches := .of_eat (by decide) (goes_branch hg) List.cons fun _ => rfl
    signs := .of_eat (by decide) (Steps.pure (a := ())) (fun _ => negate) fun _ => rfl
    products := repeats_chain rfl (.bounded fun b => (advances_signed hg b).goes.mono hle)
    sums := repeats_chain rfl ((advances_product hg).goes.mono hle)
    conjunctions := repeats_chain rfl ((advances_comparison hg).goes.mono hle)
    semicolons := .skipAll (by decide) }

end Grammar

/-! ### Whole texts -/

namespace Statement

theorem goes_read {g g' : Grammar} (hg : g.Alike tokens n g') :
    Goes tokens n (Statement.read g) (Statement.read g') := by
  refine .bind hg.body fun statement => .bind (.bounded (.skipAll (by decide))) fun _ => ?_
  exact .current fun token => .ite (fun _ => .report _ .pure) fun _ => .pure

/-- A text is read from its start. -/
theorem within_ofText (text : String) : (Reading.ofText text).Within (Token.ofText text) where
  suffix := suffix_rfl
  ends := Token.scan_ends 0 text.toList
  ordered := (Token.ordered_scan 0 text.toList).sorted

/-- The bound on nesting is not reached: however deep the grammar, and whatever is at its bottom, a
text is read as it is with as many levels as there are tokens. -/
theorem read_iterate (text : String) (g : Grammar) {n : Nat} (hn : (Token.ofText text).length ≤ n) :
    Statement.read (Grammar.next^[n] g) (.ofText text) =
      Statement.read (Grammar.ofDepth (Token.ofText text).length) (.ofText text) := by
  obtain ⟨extra, rfl⟩ := Nat.exists_eq_add_of_le hn
  rw [Function.iterate_add_apply, Grammar.ofDepth_eq_iterate]
  have halike : Grammar.Alike (Token.ofText text) (Token.ofText text).length _ _ :=
    Grammar.alike_iterate (Grammar.next^[extra] g) Grammar.exhausted _
  exact (goes_read halike _ (within_ofText text) (Nat.le_refl _) trivial).1

/-- **Reading ends, and notes in order what is wrong.** Of any text, well formed or not:

* with as many levels of nesting as it has tokens, or more, it is read in one way, whatever is at the
  bottom, so that nesting ends by itself;
* the tokens that are taken are the first ones, each once; the end of input is not among them and is
  left;
* wherever a reader stands within the text, an expression or an item of a list takes a token, unless
  the next one is the end of input;
* each time around, a loop takes a token, where the comma of a list belongs to the item after it, so
  that no loop reaches a bound that is not below the number of tokens left;
* what is noted is noted in the order of the text, and not behind its end. -/
theorem read_progress (text : String) :
    let tokens := Token.ofText text
    let start := Reading.ofText text
    let final := (Statement.read (Grammar.ofDepth tokens.length) start).2
    (∀ g n, tokens.length ≤ n → Statement.read (Grammar.next^[n] g) start =
      Statement.read (Grammar.ofDepth tokens.length) start) ∧
    (∃ taken, tokens = taken ++ final.rest ∧ final.rest ≠ [] ∧
      ∀ t ∈ taken, t.kind ≠ .endOfInput) ∧
    (∀ depth, (Grammar.ofDepth (depth + 1)).ItemsConsume tokens) ∧
    (∀ depth, (Grammar.ofDepth depth).LoopsRepeat tokens) ∧
    ((readText text).2.map (·.position)).Pairwise (· ≤ ·) ∧
    ∀ d ∈ (readText text).2, d.position ≤ text.length := by
  intro tokens start final
  have hself : ∀ depth, Grammar.Alike tokens tokens.length (.ofDepth depth) (.ofDepth depth) :=
    fun depth => Grammar.alike_ofDepth depth _
  have hgoes := goes_read (hself tokens.length)
  obtain ⟨hfinal, -⟩ : final.Within tokens ∧ _ := hgoes.moves (within_ofText text)
  refine ⟨fun g n hn => read_iterate text g hn, ?_, fun depth => ?_, fun depth => ?_, ?_, ?_⟩
  · obtain ⟨taken, htaken⟩ := hfinal.suffix
    have hends : Token.Ends (taken ++ final.rest) := htaken ▸ Token.scan_ends 0 text.toList
    exact ⟨taken, htaken.symm, hfinal.ends.ne_nil, hends.front hfinal.ends.ne_nil⟩
  · exact Grammar.itemsConsume_next (hself depth)
  · exact Grammar.loopsRepeat (hself depth)
  · exact (pairwise_append.1 hfinal.ordered).1
  · intro d hd
    have hcurrent : final.current ∈ tokens := by
      refine hfinal.suffix.subset ?_
      rw [hfinal.rest_eq]
      exact mem_cons_self
    have hend := (Token.ordered_scan 0 text.toList).below _ (mem_map_of_mem hcurrent)
    rw [Nat.zero_add, String.length_toList] at hend
    exact Nat.le_trans (hfinal.position_le_current d hd) hend

/-- A stray parenthesis, a string without an end, and then the end of input. The string is noted after
it was taken. -/
theorem read_progress_unterminated :
    let start := Reading.ofText "SELECT ), 'b"
    start.Within (Token.ofText "SELECT ), 'b") ∧ start.current.kind ≠ .endOfInput ∧
      ((Grammar.ofDepth 1).expression start).2.rest.length < start.rest.length ∧
      (readText "SELECT ), 'b").2.map (·.position) = [7, 10, 12] ∧
      ((readText "SELECT ), 'b").2.map (·.position)).Pairwise (· ≤ ·) := by
  obtain ⟨-, -, hitems, -, hsorted, -⟩ := read_progress "SELECT ), 'b"
  have hne : (Reading.ofText "SELECT ), 'b").current.kind ≠ .endOfInput := by
    have hkind : (Reading.ofText "SELECT ), 'b").current.kind = .keyword .SELECT := by
      with_unfolding_all rfl
    rw [hkind]
    decide
  have hwithin := within_ofText "SELECT ), 'b"
  exact ⟨hwithin, hne, (hitems 0).expression _ hwithin hne, by with_unfolding_all rfl, hsorted⟩

end Statement

end RowQuery
