/-
# A statement says what its text says

A text that is a statement is read to its end, and none of its tokens is a stray
one. The marks of the statement stand for the names, strings, numbers, truth
values and nulls of the text: for each of them once, in order.

This goes through the grammar level by level, as the grammar is made: each
reader lists the marks of what it makes, or notes something. What a reader drops
or makes up it notes.

Key definitions: `Grammar.ListsAll`.
Key theorems: `Grammar.listsAll_next`, `Statement.spelled_ofText`.
-/
import RowQuery.Proofs.Statement.Accounts
import RowQuery.Proofs.Token.Position

namespace RowQuery

open List Reader

namespace Grammar

attribute [local irreducible] Binary64.one Binary64.limit

/-- Nested expressions and statements are listed. -/
structure ListsAll (g : Grammar) : Prop where
  expression : Lists Expr.marks g.expression
  body : Lists Statement.marks g.body

section Levels

variable {expression : Reader Expr} (hexpression : Lists Expr.marks expression)

include hexpression

theorem lists_sortKey : Lists SortKey.marks (sortKey expression) := fun ms =>
  (hexpression ms).bind fun _ => .eating (by decide) fun _ => .ite (fun _ => .done rfl) fun _ =>
    .eating (by decide) fun _ => .done rfl

theorem lists_orderBy : Lists keysMarks (orderBy expression) := by
  have hkeys : Lists keysMarks (commaList (sortKey expression)) :=
    (lists_sortKey hexpression).commaList.congr fun keys => (keysMarks_eq keys).symm
  refine fun ms => .eating (by decide) fun _ => .ite (fun _ => ?_) fun _ => ?_
  · exact .expecting (by decide) _ fun _ => hkeys ms
  · exact .done (by simp [keysMarks])

theorem lists_clause {word : Keyword} (hword : Silent (.keyword word)) :
    Lists optionMarks (clause word expression) := fun ms =>
  .eating hword fun _ => .ite (fun _ => (hexpression ms).bind fun _ => .done (by rw [optionMarks]))
    fun _ => .done (by simp [optionMarks])

theorem lists_expressions : Lists exprsMarks (commaList expression) :=
  hexpression.commaList.congr fun es => (exprsMarks_eq es).symm

end Levels

/-! ### Readers of primaries -/

section Nested

variable {g : Grammar} (hg : g.ListsAll)

include hg

theorem lists_nested : Lists Expr.marks (nested g) := fun ms =>
  .seeing _ fun _ => .seeing _ fun _ => .ite
    (fun _ => (hg.body ms).bind fun _ => .done (by rw [Expr.marks])) fun _ => hg.expression ms

theorem accounts_window (ms : List Mark) (name : String) (args : List Expr) :
    Accounts (fun t ts => Spelled (ms ++ .function name :: exprsMarks args) ts ∧
        t.kind = .keyword .OVER)
      (window g name args) fun e => Listed (ms ++ e.marks) := by
  have hrest : ∀ partitionBy : List Expr,
      Accounts (Listed (ms ++ .function name :: exprsMarks args ++ exprsMarks partitionBy)) (do
        let keys ← orderBy g.expression
        let _ ← expect .rightParen .closeOfWindow
        pure (Expr.window name args partitionBy keys)) fun e => Listed (ms ++ e.marks) :=
    fun partitionBy => (lists_orderBy hg.expression _).bind fun keys =>
      .expecting (by decide) _ fun _ => .done (by simp [Expr.marks])
  refine .skipping (ms ++ .function name :: exprsMarks args) (fun t ts h => ?_) fun _ => ?_
  · exact ⟨h.2 ▸ by decide, h.1⟩
  refine .expecting (by decide) _ fun _ => .eating (by decide) fun _ => ?_
  refine .ite (fun _ => ?_) fun _ => ?_
  · exact .expecting (by decide) _ fun _ => (lists_expressions hg.expression _).bind hrest
  · exact (hrest []).before fun t ts h => by simpa [Listed, exprsMarks] using h

theorem accounts_call (ms : List Mark) (name : String) :
    Accounts (fun t ts => Spelled (ms ++ [.function (Text.asciiUpper name)]) ts ∧
        t.kind = .leftParen)
      (call g name) fun e => Listed (ms ++ e.marks) := by
  have hrest : ∀ args : List Expr,
      Accounts (Listed (ms ++ .function (Text.asciiUpper name) :: exprsMarks args)) (do
        let _ ← expect .rightParen .closeOfCall
        if ← sees (.keyword .OVER) then window g (Text.asciiUpper name) args
        else pure (Expr.call (Text.asciiUpper name) args)) fun e => Listed (ms ++ e.marks) := by
    intro args
    refine .expecting (by decide) _ fun _ => (Accounts.sees _).bind fun b => ?_
    refine .ite (fun hb => ?_) fun _ => ?_
    · exact (accounts_window hg ms _ args).before fun t ts h => ⟨h.1, h.2 hb⟩
    · exact .pure fun t ts h => by simpa [Expr.marks] using h.1
  refine .skipping (ms ++ [.function (Text.asciiUpper name)]) (fun t ts h => ?_) fun _ => ?_
  · exact ⟨h.2 ▸ by decide, h.1⟩
  refine .seeing _ fun _ => .ite (fun _ => ?_) fun _ => ?_
  · exact (hrest []).before fun t ts h => by simpa [Listed, exprsMarks] using h
  · refine (lists_expressions hg.expression _).bind fun args => (hrest args).before fun t ts h => ?_
    simpa using h

theorem lists_branches : ∀ n, Lists branchesMarks (branches g n)
  | 0, _ => .done (by simp [branchesMarks])
  | n + 1, ms => by
    refine .eating (by decide) fun _ => .ite (fun _ => ?_) fun _ => .done (by simp [branchesMarks])
    refine (hg.expression ms).bind fun condition => .expecting (by decide) _ fun _ => ?_
    refine (hg.expression _).bind fun result => (lists_branches n _).bind fun rest => .done ?_
    simp [branchesMarks]

theorem accounts_caseExpr (ms : List Mark) :
    Accounts (fun t ts => Spelled ms ts ∧ t.kind = .keyword .CASE) (caseExpr g)
      fun e => Listed (ms ++ e.marks) := by
  have hend : ∀ (list : List Branch) (otherwise : Option Expr),
      Accounts (Listed (ms ++ branchesMarks list ++ optionMarks otherwise)) (do
        let _ ← expect (.keyword .END) .endOfCase
        pure (Expr.case list otherwise)) fun e => Listed (ms ++ e.marks) :=
    fun _ _ => .expecting (by decide) _ fun _ => .done (by simp [Expr.marks])
  have hrest : ∀ list : List Branch, Accounts (Listed (ms ++ branchesMarks list)) (do
      if ← eat (.keyword .ELSE) then
        let e ← g.expression
        let _ ← expect (.keyword .END) .endOfCase
        pure (Expr.case list (some e))
      else
        let _ ← expect (.keyword .END) .endOfCase
        pure (Expr.case list none)) fun e => Listed (ms ++ e.marks) := by
    refine fun list => .eating (by decide) fun _ => .ite (fun _ => ?_) fun _ => ?_
    · refine (hg.expression _).bind fun e => (hend list (some e)).before fun t ts h => ?_
      rwa [optionMarks]
    · refine (hend list none).before fun t ts h => ?_
      rwa [optionMarks, append_nil]
  refine .skipping ms (fun t ts h => ⟨h.2 ▸ by decide, h.1⟩) fun _ => ?_
  refine (Accounts.bounded fun n => lists_branches hg n ms).bind fun list => ?_
  refine .ite (fun _ => ?_) fun _ => ?_
  · exact .missing _ (hrest list)
  · exact hrest list

omit hg in
/-- A stray token is noted. -/
theorem accounts_stray {P : Assertion} {Q : Expr → Assertion} (token : Token) :
    Accounts P (stray token) Q := by
  intro s _
  obtain ⟨rest, diagnostics⟩ := s
  cases rest with
  | nil => exact ⟨[], [_], rfl, rfl, nofun⟩
  | cons t rest => exact ⟨[t], [_], rfl, rfl, nofun⟩

omit hg in
/-- A token that is an expression by itself. -/
theorem accounts_leaf (ms : List Mark) {token : Token} {e : Expr}
    (hlisted : token.kind.isListed = true)
    (hmark : token.Numeric → ∃ m : Mark, e.marks = [m] ∧ m.IsOf token) :
    Accounts (fun t ts => Listed ms t ts ∧ t = token) (do let _ ← advance; pure e)
      fun e => Listed (ms ++ e.marks) := by
  refine .taking ms (fun t ts h => ⟨h.2 ▸ hlisted, h.1⟩) fun a => .pure fun t ts h => ?_
  obtain ⟨⟨_, -, rfl⟩, hnumeric, hspelled⟩ := h
  obtain ⟨m, hm, hof⟩ := hmark hnumeric
  rw [hm]
  exact hspelled m hof

omit hg in
theorem number?_integerLiteral {t : Token} (h : t.Numeric) (hkind : t.kind = .integer) :
    ∃ n, t.number? = some n ∧ integerLiteral t.literal = .number n := by
  obtain ⟨x, hx, -⟩ := h (.inl hkind)
  unfold Token.number? integerLiteral
  rw [hkind]
  dsimp only
  cases hint : Numeral.int64? t.literal.toList with
  | some n => exact ⟨.integer n, rfl, rfl⟩
  | none =>
    rw [hx]
    exact ⟨.float x, rfl, rfl⟩

omit hg in
theorem number?_decimalLiteral {t : Token} (h : t.Numeric) (hkind : t.kind = .decimal) :
    ∃ n, t.number? = some n ∧ decimalLiteral t.literal = .number n := by
  obtain ⟨x, hx, -⟩ := h (.inr hkind)
  unfold Token.number? decimalLiteral
  rw [hkind, hx]
  exact ⟨.float x, rfl, rfl⟩

/-- **Primaries are listed.** -/
theorem lists_primary : Lists Expr.marks (primary g) := by
  intro ms
  refine Accounts.current.bind fun token => ?_
  split
  · rename_i hkind
    refine accounts_leaf ms (hkind ▸ rfl) fun hnumeric => ?_
    obtain ⟨n, hn, heq⟩ := number?_integerLiteral hnumeric hkind
    exact ⟨.literal (.number n), by rw [Expr.marks, heq], n, hn, .inl rfl⟩
  · rename_i hkind
    refine accounts_leaf ms (hkind ▸ rfl) fun hnumeric => ?_
    obtain ⟨n, hn, heq⟩ := number?_decimalLiteral hnumeric hkind
    exact ⟨.literal (.number n), by rw [Expr.marks, heq], n, hn, .inl rfl⟩
  · rename_i hkind
    refine accounts_leaf ms (hkind ▸ rfl) fun _ => ⟨.literal (.string token.literal), ?_, hkind, rfl⟩
    rw [Expr.marks]
  · rename_i hkind
    refine accounts_leaf ms (hkind ▸ rfl) fun _ => ⟨.literal (.boolean true), ?_, hkind⟩
    rw [Expr.marks]
  · rename_i hkind
    refine accounts_leaf ms (hkind ▸ rfl) fun _ => ⟨.literal (.boolean false), ?_, hkind⟩
    rw [Expr.marks]
  · rename_i hkind
    refine accounts_leaf ms (hkind ▸ rfl) fun _ => ⟨.literal .null, ?_, hkind⟩
    rw [Expr.marks]
  · rename_i hkind
    refine .skipping ms (fun t ts h => ⟨?_, h.1⟩) fun _ => .done (by simp [Expr.marks])
    rw [h.2, hkind]
    decide
  · rename_i hkind
    refine .skipping ms (fun t ts h => ⟨?_, h.1⟩) fun _ => ?_
    · rw [h.2, hkind]
      decide
    · exact (lists_nested hg ms).bind fun e => .expecting (by decide) _ fun _ => .done rfl
  · rename_i hkind
    exact (accounts_caseExpr hg ms).before fun t ts h => ⟨h.1, h.2 ▸ hkind⟩
  · rename_i hkind
    refine .taking ms (fun t ts h => ⟨h.2 ▸ hkind ▸ rfl, h.1⟩) fun a => ?_
    refine (Accounts.sees _).bind fun b => .ite (fun hb => ?_) fun _ => ?_
    · refine (accounts_call hg ms token.literal).before fun t ts h => ?_
      obtain ⟨⟨⟨_, -, rfl⟩, -, hspelled⟩, hparen⟩ := h
      exact ⟨hspelled (.function _) ⟨hkind, rfl⟩, hparen hb⟩
    · refine .pure fun t ts h => ?_
      obtain ⟨⟨⟨_, -, rfl⟩, -, hspelled⟩, -⟩ := h
      rw [Expr.marks]
      exact hspelled (.identifier _) ⟨hkind, rfl⟩
  · exact accounts_stray token
  · exact .reporting _ (.done rfl)
  · exact (Accounts.report _).bind fun _ => .dropping fun _ => .pure fun _ _ h => h.elim

/-! ### Readers of operators -/

theorem lists_signed : ∀ n, Lists Expr.marks (signed g n)
  | 0 => lists_primary hg
  | n + 1 => fun ms => by
    refine .eating (by decide) fun _ => .ite (fun _ => ?_) fun _ => lists_primary hg ms
    exact (lists_signed n ms).bind fun _ => .pure fun _ _ h => spelled_negate h

omit hg in
/-- A chain goes on from what is listed of its left operand. -/
theorem accounts_chain {operator? : TokenKind → Option BinaryOp}
    (hsilent : ∀ κ op, operator? κ = some op → Silent κ) {operand : Reader Expr}
    (hoperand : Lists Expr.marks operand) (ms : List Mark) : ∀ (n : Nat) (left : Expr),
    Accounts (Listed (ms ++ left.marks)) (chain operator? operand n left)
      fun e => Listed (ms ++ e.marks)
  | 0, _ => .done rfl
  | n + 1, left => by
    refine Accounts.kind.bind fun κ => ?_
    cases hop : operator? κ with
    | none => exact .pure fun _ _ h => h.1
    | some op =>
      refine .skipping (ms ++ left.marks) (fun t ts h => ⟨?_, h.1⟩) fun _ => ?_
      · exact h.2 ▸ hsilent κ op hop
      · refine (hoperand _).bind fun right => ?_
        have hrest := accounts_chain hsilent hoperand ms n (.binary left op right)
        exact hrest.before fun _ _ h => spelled_binary h

omit hg in
theorem lists_leftAssociative {operator? : TokenKind → Option BinaryOp}
    (hsilent : ∀ κ op, operator? κ = some op → Silent κ) {operand : Reader Expr}
    (hoperand : Lists Expr.marks operand) : Lists Expr.marks (leftAssociative operator? operand) :=
  fun ms => (hoperand ms).bind fun first => .bounded fun n =>
    accounts_chain hsilent hoperand ms n first

theorem lists_sum : Lists Expr.marks (sum g) := by
  have hsigned : Lists Expr.marks (bounded (signed g)) := fun ms =>
    .bounded fun n => lists_signed hg n ms
  refine lists_leftAssociative (fun κ op h => ?_) (lists_leftAssociative (fun κ op h => ?_) hsigned)
  · unfold sumOperator? at h
    split at h
    · decide
    · decide
    · cases h
  · unfold productOperator? at h
    split at h
    · decide
    · decide
    · cases h

theorem accounts_inList (ms : List Mark) (left : Expr) (negated : Bool) :
    Accounts (fun t ts => Spelled (ms ++ left.marks) ts ∧ t.kind = .keyword .IN)
      (inList g left negated) fun e => Listed (ms ++ e.marks) := by
  have hrest : ∀ candidates : List Expr,
      Accounts (Listed (ms ++ left.marks ++ exprsMarks candidates)) (do
        let _ ← expect .rightParen .closeOfList
        pure (Expr.inList left candidates negated)) fun e => Listed (ms ++ e.marks) :=
    fun _ => .expecting (by decide) _ fun _ => .done (by simp [Expr.marks])
  refine .skipping (ms ++ left.marks) (fun t ts h => ⟨h.2 ▸ by decide, h.1⟩) fun _ => ?_
  refine .expecting (by decide) _ fun _ => .seeing _ fun _ => .seeing _ fun _ => ?_
  refine .ite (fun _ => ?_) fun _ => (lists_expressions hg.expression _).bind hrest
  refine (hg.body _).bind fun statement => (hrest [.subquery statement]).before fun t ts h => ?_
  simpa [exprsMarks, Expr.marks] using h

theorem accounts_like (ms : List Mark) (left : Expr) (negated : Bool) :
    Accounts (fun t ts => Spelled (ms ++ left.marks) ts ∧ t.kind = .keyword .LIKE)
      (like g left negated) fun e => Listed (ms ++ e.marks) := by
  refine .skipping (ms ++ left.marks) (fun t ts h => ⟨h.2 ▸ by decide, h.1⟩) fun _ => ?_
  exact (lists_sum hg _).bind fun _ => .done (by simp [Expr.marks])

omit hg in
theorem silent_of_comparisonOperator? {κ : TokenKind} {op : BinaryOp}
    (h : comparisonOperator? κ = some op) : Silent κ := by
  unfold comparisonOperator? at h
  split at h
  case h_7 => cases h
  all_goals decide

theorem lists_comparison : Lists Expr.marks (comparison g) := by
  refine fun ms => (lists_sum hg ms).bind fun left => Accounts.kind.bind fun κ => ?_
  cases hop : comparisonOperator? κ with
  | some op =>
    refine .skipping (ms ++ left.marks) (fun t ts h => ⟨?_, h.1⟩) fun _ => ?_
    · exact h.2 ▸ silent_of_comparisonOperator? hop
    · exact (lists_sum hg _).bind fun right => .pure fun _ _ h => spelled_binary h
  | none =>
    dsimp only
    split
    · refine .skipping (ms ++ left.marks) (fun t ts h => ⟨h.2 ▸ by decide, h.1⟩) fun _ => ?_
      refine .eating (by decide) fun negated => ?_
      -- The null of IS NULL is listed.
      refine (Accounts.expect_listed (m := .literal .null) _ _ rfl fun _ h => h).bind fun _ => ?_
      exact .done (by simp [Expr.marks])
    · refine .skipping (ms ++ left.marks) (fun t ts h => ⟨h.2 ▸ by decide, h.1⟩) fun _ => ?_
      refine Accounts.kind.bind fun κ => ?_
      split
      · exact accounts_inList hg ms left true
      · exact accounts_like hg ms left true
      · exact .missing _ (.done rfl)
    · exact accounts_inList hg ms left false
    · exact accounts_like hg ms left false
    · exact .pure fun _ _ h => h.1

omit hg in
theorem accounts_seesOr {P : Assertion} : Accounts P seesOr fun _ => P :=
  Accounts.current.bind fun _ => .pure fun _ _ h => h.1

/-- **Expressions are listed.** One that is dropped is noted. -/
theorem lists_disjunction : Lists Expr.marks (disjunction g) := by
  have hconjunction : Lists Expr.marks (leftAssociative andOperator? (comparison g)) := by
    refine lists_leftAssociative (fun κ op h => ?_) (lists_comparison hg)
    unfold andOperator? at h
    split at h
    · decide
    · cases h
  refine fun ms => (hconjunction ms).bind fun e => accounts_seesOr.bind fun _ => ?_
  refine .ite (fun _ => ?_) fun _ => .done rfl
  refine (Accounts.report _).bind fun _ => .dropping fun _ => ?_
  exact (hconjunction ms).never.bind fun _ => .done rfl

end Nested

/-! ### Readers of clauses -/

theorem lists_optionalAlias {accepts : TokenKind → Bool} {mark : String → Mark}
    (hidentifier : accepts .identifier = true)
    (hmark : ∀ t : Token, accepts t.kind = true →
      t.kind.isListed = true ∧ (mark t.literal).IsOf t) (what : Expectation) :
    Lists (fun name : Option String => (name.map mark).toList) (optionalAlias accepts what) := by
  intro ms
  have htake : ∀ κ, accepts κ = true → Accounts (fun t ts => Listed ms t ts ∧ t.kind = κ) (do
      let token ← advance
      pure (some token.literal)) fun name => Listed (ms ++ (name.map mark).toList) := by
    intro κ hκ
    refine .taking ms (fun t ts h => ⟨(hmark t (h.2 ▸ hκ)).1, h.1⟩) fun a => .pure fun t ts h => ?_
    obtain ⟨⟨_, -, hkind⟩, -, hspelled⟩ := h
    exact hspelled _ (hmark a (hkind ▸ hκ)).2
  refine .eating (by decide) fun _ => .ite (fun _ => ?_) fun _ => ?_
  · refine Accounts.kind.bind fun κ => .ite (fun hκ => htake κ hκ) fun _ => ?_
    exact .missing _ (.done rfl)
  · refine (Accounts.sees _).bind fun b => accounts_seesOr.bind fun o => ?_
    refine .ite (fun hb => ?_) fun _ => ?_
    · refine (htake .identifier hidentifier).before fun t ts h => ⟨h.1, h.2 ?_⟩
      exact (Bool.and_eq_true_iff.1 hb).1
    · exact .pure fun t ts h => by simpa using h.1

theorem lists_sourceKind :
    Lists (fun k : Option SourceKind => (k.map Mark.source).toList) sourceKind := by
  refine fun ms => Accounts.current.bind fun token => Accounts.secondKind.bind fun κ => ?_
  dsimp only
  split
  · rename_i k hkind _ hword
    refine .taking ms (fun t ts h => ⟨h.2 ▸ hkind ▸ rfl, h.1⟩) fun a => .pure fun t ts h => ?_
    obtain ⟨⟨_, -, rfl⟩, -, hspelled⟩ := h
    exact hspelled (.source k) ⟨hkind, hword⟩
  · exact .pure fun t ts h => by simpa using h.1

/-- A token that names a table is listed under its name. -/
theorem name_of_isName {t : Token} (h : isName t.kind = true) :
    t.kind.isListed = true ∧ (Mark.name t.literal).IsOf t := by
  have hkind : t.kind = .identifier ∨ t.kind = .string := by simpa [isName] using h
  refine ⟨?_, hkind, rfl⟩
  rcases hkind with hkind | hkind
  · rw [hkind]
    rfl
  · rw [hkind]
    rfl

theorem lists_tableRef : Lists TableRef.marks tableRef := by
  have hrest : ∀ (ms : List Mark) (k : Option SourceKind) (name : String),
      Accounts (Listed (ms ++ (k.map Mark.source).toList ++ [.name name])) (do
        let other ← optionalAlias (· == .identifier) .tableAlias
        pure (⟨k, name, other⟩ : TableRef)) fun t => Listed (ms ++ t.marks) := by
    intro ms k name
    have hmark : ∀ t : Token, (t.kind == .identifier) = true →
        t.kind.isListed = true ∧ (Mark.identifier t.literal).IsOf t := by
      intro t h
      have hkind : t.kind = .identifier := eq_of_beq h
      exact ⟨hkind ▸ rfl, hkind, rfl⟩
    exact (lists_optionalAlias rfl hmark _ _).bind fun other => .done (by simp [TableRef.marks])
  refine fun ms => (lists_sourceKind ms).bind fun k => Accounts.kind.bind fun κ => ?_
  refine .ite (fun hκ => ?_) fun _ => .missing _ (hrest ms k "")
  refine .taking (ms ++ (k.map Mark.source).toList) (fun t ts h => ⟨?_, h.1⟩) fun a => ?_
  · exact (name_of_isName (h.2 ▸ hκ)).1
  · refine (hrest ms k a.literal).before fun t ts h => ?_
    obtain ⟨⟨_, -, hkind⟩, -, hspelled⟩ := h
    exact hspelled _ (name_of_isName (hkind ▸ hκ)).2

theorem silent_of_joinWord? {κ : TokenKind} {join : JoinKind} (h : joinWord? κ = some join) :
    Silent κ := by
  unfold joinWord? at h
  split at h
  case h_7 => cases h
  all_goals decide

theorem accounts_joinKind? (ms : List Mark) : Accounts (Listed ms) joinKind? fun _ => Listed ms := by
  have hrest : ∀ join : JoinKind, Accounts (Listed ms) (do
      let _ ← expect (.keyword .JOIN) (.word .JOIN)
      pure (some join)) fun _ => Listed ms :=
    fun _ => .expecting (by decide) _ fun _ => .pure fun _ _ h => h
  refine Accounts.kind.bind fun κ => .ite (fun hκ => ?_) fun _ => ?_
  · refine .skipping ms (fun t ts h => ⟨?_, h.1⟩) fun _ => .pure fun _ _ h => h
    rw [h.2, eq_of_beq hκ]
    decide
  · cases hword : joinWord? κ with
    | none => exact .pure fun _ _ h => h.1
    | some join =>
      refine .skipping ms (fun t ts h => ⟨?_, h.1⟩) fun _ => ?_
      · exact h.2 ▸ silent_of_joinWord? hword
      · exact .ite (fun _ => .eating (by decide) fun _ => hrest join) fun _ => hrest join

/-! ### Row counts -/

/-- A row count takes one token, and says what it counts. -/
theorem accounts_rowCount (p : List Token → Prop) : Accounts (fun _ ts => p ts) rowCount
    fun n _ ts => ∃ before t, ts = before ++ [t] ∧ p before ∧ (Mark.count n).IsOf t := by
  refine Accounts.current.bind fun token => ?_
  dsimp only
  split
  · rename_i n hcount
    have hof : (Mark.count n).IsOf token := by
      unfold rowCountOf? at hcount
      split at hcount
      · rename_i hkind
        exact ⟨eq_of_beq hkind, (Option.filter_eq_some_iff.1 hcount).1⟩
      · cases hcount
    have hlisted : token.kind.isListed = true := hof.1 ▸ rfl
    refine Accounts.bind (Q := fun _ _ ts => ∃ before, ts = before ++ [token] ∧ p before)
      (.advance fun t ts h => ?_) fun _ => .pure fun t ts h => ?_
    · rw [h.2, Token.listed, filter_cons, hlisted]
      exact ⟨Accounts.regular_of_isListed hlisted, fun _ _ => ⟨ts, rfl, h.1⟩⟩
    · obtain ⟨before, rfl, hbefore⟩ := h
      exact ⟨before, token, rfl, hbefore, hof⟩
  · refine (Accounts.reportExpected _).bind fun _ => .ite (fun _ => ?_) fun _ => ?_
    · exact .dropping fun _ => .pure fun _ _ h => h.elim
    · exact .pure fun _ _ h => h.elim

/-- The tokens so far end with the word OFFSET. -/
def AfterOffset (ms : List Mark) (ts : List Token) : Prop :=
  ∃ before w, ts = before ++ [w] ∧ w.kind = .keyword .OFFSET ∧ Spelled ms before

theorem accounts_eatOffset (ms : List Mark) : Accounts (Listed ms) (eat (.keyword .OFFSET))
    fun b _ ts => if b = true then AfterOffset ms ts else Spelled ms ts := by
  refine .eat (fun t ts h hkind => ?_) fun t ts h => h
  have hlisted : t.kind.isListed = true := hkind ▸ rfl
  refine ⟨Accounts.regular_of_isListed hlisted, fun _ => ⟨ts, t, ?_, hkind, h⟩⟩
  rw [Token.listed, filter_cons, hlisted]
  rfl

/-- An offset is listed with the word in front of it. -/
theorem accounts_offset (ms : List Mark) (besideCount : Bool) :
    Accounts (fun _ ts => AfterOffset ms ts) rowCount
      fun n => Listed (ms ++ [.offset n besideCount]) := by
  refine (accounts_rowCount (AfterOffset ms)).mono (fun _ _ h => h) fun n t ts h => ?_
  obtain ⟨_, t, rfl, ⟨before, w, rfl, hw, hspelled⟩, ht⟩ := h
  rw [Listed, append_assoc]
  exact hspelled.append (.offset hw ht .nil)

theorem lists_limit : Lists (fun l : Option Limit => (l.map Limit.marks).getD []) limit := by
  intro ms
  refine .eating (by decide) fun _ => .ite (fun _ => ?_) fun _ => ?_
  · have hcount : Accounts (Listed ms) rowCount fun n => Listed (ms ++ [.count n]) := by
      refine (accounts_rowCount (Spelled ms)).mono (fun _ _ h => h) fun n t ts h => ?_
      obtain ⟨before, t, rfl, hbefore, ht⟩ := h
      exact hbefore.append (.one ht)
    refine hcount.bind fun count => (accounts_eatOffset _).bind fun b => ?_
    refine .ite (fun hb => ?_) fun hb => ?_
    · subst hb
      refine (accounts_offset (ms ++ [.count count]) true).bind fun offset => .done ?_
      simp [Limit.marks]
    · refine .pure fun t ts h => ?_
      rw [if_neg hb] at h
      have hnone : Spelled (ms ++ [.count count] ++ [.offset 0 true]) (ts ++ []) :=
        h.append (.noOffset .nil)
      simpa [Limit.marks, Listed] using hnone
  · refine (accounts_eatOffset _).bind fun b => .ite (fun hb => ?_) fun hb => .pure fun t ts h => ?_
    · subst hb
      exact (accounts_offset ms false).bind fun offset => .done (by simp [Limit.marks])
    · rw [if_neg hb] at h
      simpa [Listed] using h

section Clauses

variable {expression : Reader Expr} (hexpression : Lists Expr.marks expression)

include hexpression

theorem lists_selectItem : Lists SelectItem.marks (selectItem expression) := by
  refine fun ms => .eating (by decide) fun _ => .ite (fun _ => ?_) fun _ => ?_
  · exact .done (by simp [Expr.marks])
  · refine (hexpression ms).bind fun e => ?_
    refine (lists_optionalAlias rfl (fun _ => name_of_isName) _ _).bind fun name => .done ?_
    rw [append_assoc]

theorem lists_joins : ∀ n, Lists joinsMarks (joins expression n)
  | 0, _ => .done (by simp [joinsMarks])
  | n + 1, ms => by
    have hrest : ∀ (join : JoinKind) (table : TableRef) (condition : Option Expr),
        Accounts (Listed (ms ++ table.marks ++ optionMarks condition)) (do
          let rest ← joins expression n
          pure ((⟨join, table, condition⟩ : Join) :: rest)) fun js => Listed (ms ++ joinsMarks js) :=
      fun _ _ _ => (lists_joins n _).bind fun _ => .done (by simp [joinsMarks])
    refine (accounts_joinKind? ms).bind fun join => ?_
    cases join with
    | none => exact .done (by simp [joinsMarks])
    | some join =>
      refine (lists_tableRef ms).bind fun table => .eating (by decide) fun _ => ?_
      have hnone : Accounts (Listed (ms ++ table.marks)) (do
          let rest ← joins expression n
          pure ((⟨join, table, none⟩ : Join) :: rest)) fun js => Listed (ms ++ joinsMarks js) := by
        refine (hrest join table none).before fun t ts h => ?_
        rwa [optionMarks, append_nil]
      refine .ite (fun _ => ?_) fun _ => .ite (fun _ => .reporting _ hnone) fun _ => hnone
      refine (hexpression _).bind fun e => (hrest join table (some e)).before fun t ts h => ?_
      rwa [optionMarks]

theorem lists_groupBy : Lists exprsMarks (groupBy expression) := by
  refine fun ms => .eating (by decide) fun _ => .ite (fun _ => ?_) fun _ => ?_
  · exact .expecting (by decide) _ fun _ => lists_expressions hexpression ms
  · exact .done (by simp [exprsMarks])

/-- **Queries are listed**, clause by clause. -/
theorem lists_query : Lists Query.marks (query expression) := by
  intro ms
  have hrest : ∀ (distinct : Bool) (items : List SelectItem) (source : TableRef),
      Accounts (Listed (ms ++ itemsMarks items ++ source.marks)) (do
        let joins ← bounded (joins expression)
        let condition ← clause .WHERE expression
        let groupBy ← groupBy expression
        let having ← clause .HAVING expression
        let orderBy ← orderBy expression
        let limit ← limit
        pure ({ distinct, items, source, joins, condition, groupBy, having, orderBy, limit } : Query))
        fun q => Listed (ms ++ q.marks) := by
    intro distinct items source
    refine (Accounts.bounded fun n => lists_joins hexpression n _).bind fun joins => ?_
    refine (lists_clause hexpression (by decide) _).bind fun condition => ?_
    refine (lists_groupBy hexpression _).bind fun groupBy => ?_
    refine (lists_clause hexpression (by decide) _).bind fun having => ?_
    refine (lists_orderBy hexpression _).bind fun orderBy => ?_
    exact (lists_limit _).bind fun limit => .done (by simp [Query.marks])
  refine .expecting (by decide) _ fun _ => .eating (by decide) fun distinct => ?_
  have hitems : Lists itemsMarks (commaList (selectItem expression)) :=
    (lists_selectItem hexpression).commaList.congr fun items => (itemsMarks_eq items).symm
  refine (hitems ms).bind fun items => (Accounts.expect_silent (by decide) _).bind fun b => ?_
  refine .ite (fun _ => ?_) fun hb => ?_
  · refine Accounts.before (P := Listed (ms ++ itemsMarks items)) ?_ fun _ _ h => h.2
    exact (lists_tableRef _).bind fun source => hrest distinct items source
  -- Without the word FROM, which was noted, there is no table.
  · refine Accounts.before (P := Never) ?_ fun _ _ h => hb h.1
    exact (hrest distinct items ⟨none, "", none⟩).never

end Clauses

/-! ### Readers of statements -/

theorem accounts_setOperator? (ms : List Mark) :
    Accounts (Listed ms) setOperator? fun _ => Listed ms := by
  refine Accounts.kind.bind fun κ => ?_
  split
  · refine .skipping ms (fun t ts h => ⟨h.2 ▸ by decide, h.1⟩) fun _ => ?_
    refine .eating (by decide) fun _ => .ite (fun _ => ?_) fun _ => ?_
    · exact .pure fun _ _ h => h
    · exact .pure fun _ _ h => h
  · exact .skipping ms (fun t ts h => ⟨h.2 ▸ by decide, h.1⟩) fun _ => .pure fun _ _ h => h
  · exact .skipping ms (fun t ts h => ⟨h.2 ▸ by decide, h.1⟩) fun _ => .pure fun _ _ h => h
  · exact .pure fun _ _ h => h.1

theorem lists_tableExpr {body : Reader Statement} (hbody : Lists Statement.marks body) :
    Lists TableExpr.marks (tableExpr body) := by
  intro ms
  have hrest : ∀ name : String, Accounts (Listed (ms ++ [.identifier name])) (do
      let _ ← expect (.keyword .AS) (.word .AS)
      let _ ← expect .leftParen .openParen
      let statement ← body
      let _ ← expect .rightParen .closeParen
      pure (⟨name, statement⟩ : TableExpr)) fun t => Listed (ms ++ t.marks) := by
    refine fun name => .expecting (by decide) _ fun _ => .expecting (by decide) _ fun _ => ?_
    refine (hbody _).bind fun statement => .expecting (by decide) _ fun _ => .done ?_
    rw [append_assoc]
    rfl
  refine (Accounts.sees _).bind fun b => .ite (fun hb => ?_) fun _ => .missing _ (hrest "")
  refine .taking ms (fun t ts h => ⟨h.2 hb ▸ rfl, h.1⟩) fun a => ?_
  refine (hrest a.literal).before fun t ts h => ?_
  obtain ⟨⟨_, -, hkind⟩, -, hspelled⟩ := h
  exact hspelled (.identifier _) ⟨hkind hb, rfl⟩

section Statements

variable {expression : Reader Expr} (hexpression : Lists Expr.marks expression)

include hexpression

theorem lists_compound : Lists compoundMarks (compound expression) := by
  refine fun ms => (accounts_setOperator? ms).bind fun op => ?_
  cases op with
  | none => exact .done (by simp [compoundMarks])
  | some op =>
    refine (lists_query hexpression ms).bind fun right => (accounts_setOperator? _).bind fun _ => ?_
    have hdone : Accounts (Listed (ms ++ right.marks)) (pure (some ⟨op, right⟩))
        fun c => Listed (ms ++ compoundMarks c) := .done (by rw [compoundMarks])
    refine .ite (fun _ => ?_) fun _ => hdone
    exact .reporting _ ((lists_query hexpression ms).never.bind fun _ => hdone)

/-- **Statements are listed.** A second set operation is noted. -/
theorem lists_statement {body : Reader Statement} (hbody : Lists Statement.marks body) :
    Lists Statement.marks (statement expression body) := by
  intro ms
  have hrest : ∀ tables : List TableExpr, Accounts (Listed (ms ++ tablesMarks tables)) (do
      let primary ← query expression
      let second ← compound expression
      pure (⟨tables, primary, second⟩ : Statement)) fun s => Listed (ms ++ s.marks) :=
    fun tables => (lists_query hexpression _).bind fun primary =>
      (lists_compound hexpression _).bind fun second => .done (by simp [Statement.marks])
  have htables : Lists tablesMarks (commaList (tableExpr body)) :=
    (lists_tableExpr hbody).commaList.congr fun tables => (tablesMarks_eq tables).symm
  refine .eating (by decide) fun _ => .ite (fun _ => (htables ms).bind hrest) fun _ => ?_
  refine Accounts.bind (.done ?_) hrest
  rw [tablesMarks, append_nil]

end Statements

/-! ### Nesting -/

theorem listsAll_exhausted : exhausted.ListsAll where
  expression _ := (Accounts.report _).bind fun _ => .pure fun _ _ h => h.elim
  body _ := (Accounts.report _).bind fun _ => .pure fun _ _ h => h.elim

/-- **A level of the grammar is listed if what is nested in it is.** -/
theorem listsAll_next {g : Grammar} (hg : g.ListsAll) : g.next.ListsAll where
  expression := lists_disjunction hg
  body := lists_statement (lists_disjunction hg) hg.body

theorem listsAll_ofDepth : ∀ n, (ofDepth n).ListsAll
  | 0 => listsAll_exhausted
  | n + 1 => listsAll_next (listsAll_ofDepth n)

end Grammar

/-! ### Whole texts -/

namespace Statement

/-- A statement is read to the end of its text. -/
theorem accounts_read {g : Grammar} (hg : g.ListsAll) : Accounts (Listed []) (Statement.read g)
    fun s t ts => Spelled s.marks ts ∧ t.kind = .endOfInput := by
  refine (hg.body []).bind fun s => ?_
  refine (Accounts.bounded fun n => .skipAll (by decide) n).bind fun _ => ?_
  refine Accounts.current.bind fun token => .ite (fun _ => ?_) fun hend => ?_
  · exact (Accounts.report _).bind fun _ => .pure fun _ _ h => h.elim
  · refine .pure fun t ts h => ⟨h.1, ?_⟩
    rw [h.2]
    simpa using hend

/-- A text that is a statement is read without a note. -/
theorem read_ofText {text : String} {s : Statement} (h : Statement.ofText text = .ok s) :
    ∃ left, Statement.read (Grammar.ofDepth (Token.ofText text).length) (.ofText text) =
      (s, ⟨left, []⟩) := by
  have hread : Statement.readText text =
      ((Statement.read (Grammar.ofDepth (Token.ofText text).length) (.ofText text)).1,
        (Statement.read (Grammar.ofDepth (Token.ofText text).length) (.ofText text)).2.diagnostics) :=
    rfl
  unfold Statement.ofText at h
  rw [hread] at h
  generalize Statement.read (Grammar.ofDepth (Token.ofText text).length) (.ofText text) = out at h ⊢
  obtain ⟨s', left, diagnostics⟩ := out
  cases diagnostics with
  | nil =>
    obtain rfl := Except.ok.inj h
    exact ⟨left, rfl⟩
  | cons d rest => cases h

/-- **A statement says what its text says**: none of the tokens of its text is a stray one, all are
read, up to the end of input, and the marks of the statement stand for the names, strings, numbers,
truth values and nulls among them, for each once and in order. -/
theorem spelled_ofText {text : String} {s : Statement} (h : Statement.ofText text = .ok s) :
    ∃ tokens last, Token.ofText text = tokens ++ [last] ∧ last.kind = .endOfInput ∧
      (∀ t ∈ tokens, t.kind ≠ .illegal ∧ t.kind ≠ .endOfInput) ∧
      Statement.read (Grammar.ofDepth (Token.ofText text).length) (.ofText text) =
        (s, ⟨[last], []⟩) ∧
      Spelled s.marks (Token.listed tokens) := by
  obtain ⟨left, hread⟩ := read_ofText h
  obtain ⟨taken, notes, hrest, hnotes, hquiet⟩ :=
    accounts_read (Grammar.listsAll_ofDepth (Token.ofText text).length) (.ofText text)
      (Token.numeric_ofText text)
  rw [hread] at hrest hnotes hquiet
  obtain ⟨hregular, hspelled, hend⟩ := hquiet hnotes.symm [] .nil
  obtain ⟨tokens, last, htokens, hlast, hinner⟩ := Token.scan_ends 0 text.toList
  -- Nothing but the last token is left, since no other one is the end of input.
  have hsplit : taken = tokens ∧ left = [last] := by
    have heq : taken ++ left = tokens ++ [last] := hrest.symm.trans htokens
    cases left with
    | nil =>
      have hmem : last ∈ taken := by
        rw [← append_nil taken, heq]
        exact mem_append_right _ mem_cons_self
      exact absurd hlast (hregular last hmem).2
    | cons t more =>
      obtain rfl | ⟨more, u, rfl⟩ := eq_nil_or_concat more
      · exact append_inj' heq rfl
      · rw [concat_eq_append, ← cons_append, ← append_assoc] at heq
        obtain ⟨hfront, -⟩ := append_inj' heq rfl
        have hmem : t ∈ tokens := hfront ▸ mem_append_right _ mem_cons_self
        exact absurd hend (hinner t hmem)
  obtain ⟨rfl, rfl⟩ := hsplit
  exact ⟨taken, last, htokens, hlast, hregular, hread, hspelled⟩

/-- Neither the zero that the minus sign subtracts from nor an offset is written here. -/
theorem spelled_ofText_select :
    let query : Query :=
      { distinct := false
        items := [⟨.binary (.literal (.integer 0)) .subtract (.identifier "a"), some "b"⟩]
        source := ⟨none, "t", none⟩
        joins := []
        condition := some (.isNull (.call "F" [.literal (.string "c")]) false)
        groupBy := []
        having := none
        orderBy := []
        limit := some ⟨some 2, 0⟩ }
    let text := "SELECT -a AS b FROM t WHERE f('c') IS NULL LIMIT 2"
    Statement.ofText text = .ok ⟨[], query, none⟩ ∧
      ∃ tokens last, Token.ofText text = tokens ++ [last] ∧
        Spelled [.zero, .identifier "a", .name "b", .name "t", .function "F",
          .literal (.string "c"), .literal .null, .count 2, .offset 0 true]
          (Token.listed tokens) := by
  intro query text
  have hread : Statement.ofText "SELECT -a AS b FROM t WHERE f('c') IS NULL LIMIT 2" =
      .ok ⟨[], query, none⟩ := by
    with_unfolding_all rfl
  obtain ⟨tokens, last, htokens, -, -, -, hspelled⟩ := spelled_ofText hread
  exact ⟨hread, tokens, last, htokens, hspelled⟩

end Statement

end RowQuery
