/-
# What windows range over beforehand

A statement that is executed while windows range over some rows has the same
result whatever these rows are, as long as each of its windows is sheltered:
the query that it stands in then has picked rows of its own before the window
is evaluated. Conditions on rows and on joins run before that, and see the rows
of the query around: a window in them makes the result depend on these.

Key definitions: `Coupling.besidesPopulation`.
Key theorems: `execute_of_sheltered_windows`,
`execute_countUncounted_depends`.
-/
import RowQuery.Proofs.Coupling.Engine
import RowQuery.Source.Memory

namespace RowQuery

open List

/-- The coupling of executions that differ in no more than the rows that windows range over before
any query has picked some. -/
def Coupling.besidesPopulation : Coupling where
  value := (· = ·)
  scopes := Forall₂ (ScopeLike (· = ·))
  ledger := (· = ·)
  failure e e' l l' := e = e' ∧ l = l'
  table _ := True
  sorts := True
  identity := True
  ambient := False

namespace Coupling

theorem besidesPopulation_lawful : besidesPopulation.Lawful :=
  lawful_of_eq (fun _ _ h => h) (fun _ _ => rfl) rfl

theorem besidesPopulation_engines (engine : Engine) :
    besidesPopulation.Executors engine.executor engine.executor := by
  refine executors_of_fetch rfl rfl rfl (.inl rfl) ?_
  rintro kind name l _ rfl
  exact fetchAlike_of_eq rfl (fun rows _ => ⟨rows_refl (fun _ => rfl) rows, rfl⟩)
    fun _ _ => ⟨rfl, rfl⟩

end Coupling

/-- **The rows that windows range over beforehand make no difference** to a statement without
windows in conditions on rows or on joins, those apart that stand in another clause of the
statement: not to its result, and not to the tables that are loaded. -/
theorem execute_of_sheltered_windows (engine : Engine) (s : Statement)
    (hs : ∀ name, .window name false ∉ s.features false) (session : Session)
    (P₁ P₂ : Option (List Record)) :
    let first := (engine.execute s).run.run { session with population := P₁ }
    let second := (engine.execute s).run.run { session with population := P₂ }
    first.1 = second.1 ∧ first.2.ledger = second.2.ledger := by
  intro first second
  have hf : Coupling.besidesPopulation.Frames false ⟨session.outer, session.scopes, P₁⟩
      ⟨session.outer, session.scopes, P₂⟩ := by
    refine ⟨Coupling.rows_refl (fun _ => rfl) _, Coupling.scopes_refl (fun _ => rfl) _, ?_⟩
    rintro (h | h)
    · cases h
    · exact h.elim
  have ha : Coupling.besidesPopulation.AdmitsAll (s.features false) := by
    intro x hx
    cases x with
    | literal v => exact rfl
    | window name sheltered =>
      cases sheltered with
      | true => exact ⟨.inl rfl, fun _ => trivial⟩
      | false => exact absurd hx (hs name)
    | table t => trivial
    | sortKey => trivial
    | distinct => trivial
    | setOperation op => exact .inr trivial
  have h := Coupling.execute_coupled Coupling.besidesPopulation_lawful
    (Coupling.besidesPopulation_engines engine) s hf ha { session with population := P₁ }
    { session with population := P₂ } rfl rfl rfl
  change Coupling.Ends _ _ _ first second at h
  generalize first = x at h ⊢
  generalize second = y at h ⊢
  cases h with
  | ok hrows _ hledger => exact ⟨congrArg Except.ok (Coupling.Rows.eq (fun _ _ h => h) hrows), hledger⟩
  | error _ hfailure =>
    exact ⟨congrArg Except.error (hfailure.eq (fun _ _ h => h) fun _ _ _ _ h => h.1),
      hfailure.ledgers (fun _ _ _ _ h => h.2) fun _ _ h => h⟩

/-! ### Both sides of the condition -/

/-- The engine with a table `t` of one row. -/
def engineOfOneRow : Engine := ⟨.memory [("t", [⟨[("a", .integer 1)]⟩])], {}⟩

/-- `COUNT(*) OVER ()` -/
def countOfAll : Expr := .window "COUNT" [.star] [] []

/-- `SELECT COUNT(*) OVER () FROM t` -/
def selectCount : Statement := .ofQuery { Query.all "t" with items := [⟨countOfAll, none⟩] }

/-- A window in the select list may range over anything beforehand. -/
theorem execute_selectCount :
    (∀ name, .window name false ∉ selectCount.features false) ∧
      ((engineOfOneRow.execute selectCount).run.run .start).1 =
        ((engineOfOneRow.execute selectCount).run.run { Session.start with population := some [] }).1 := by
  have hs : ∀ name, .window name false ∉ selectCount.features false := by
    simp [selectCount, Statement.ofQuery, Query.all, countOfAll]
  exact ⟨hs, (execute_of_sheltered_windows engineOfOneRow _ hs .start none (some [])).1⟩

/-- `SELECT COUNT(*) AS n FROM t WHERE COUNT(*) OVER () IS NULL` -/
def countUncounted : Statement :=
  .ofQuery { Query.all "t" with
    items := [⟨.call "COUNT" [.star], some "n"⟩]
    condition := some (.isNull countOfAll false) }

/-- `SELECT (SELECT COUNT(*) AS n FROM t WHERE COUNT(*) OVER () IS NULL) AS n FROM t` -/
def countUncountedWithin : Statement :=
  .ofQuery { Query.all "t" with items := [⟨.subquery countUncounted, some "n"⟩] }

/-- The texts in the column `n` of a result. -/
def textsOfN (result : Except Failure (List Record)) : Option (List (Option String)) :=
  result.toOption.map (·.map fun r => (r.get? "n").map Value.text)

/-- A window in a condition on rows ranges over the rows of the query around. On its own
`countUncounted` counts the row, for its window ranges over nothing; within another query it counts
none, for there its window ranges over the row of that query. -/
theorem execute_countUncounted_depends :
    (textsOfN (engineOfOneRow.run countUncounted).1 = some [some "1"] ∧
      textsOfN (engineOfOneRow.run countUncountedWithin).1 = some [some "0"]) ∧
    ¬ ∀ (engine : Engine) (s : Statement) (session : Session) (P₁ P₂ : Option (List Record)),
      ((engine.execute s).run.run { session with population := P₁ }).1 =
        ((engine.execute s).run.run { session with population := P₂ }).1 := by
  refine ⟨⟨by decide +kernel, by decide +kernel⟩, fun h => ?_⟩
  have htexts := congrArg textsOfN (h engineOfOneRow countUncounted .start none (some [⟨[]⟩]))
  exact absurd htexts (by decide +kernel)

end RowQuery
