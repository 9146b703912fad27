/-
# Aggregates of a group

On rows on which its argument has values, an aggregate other than the count has the
value that it has over the numbers among these; it is null where there is no number.

Key theorems: `Value.ofNumber?_eq_null_iff`, `Expr.aggregate_run`, `Expr.column_run`.
-/
import RowQuery.Evaluation.Expr
import RowQuery.Proofs.Coupling.Basic

namespace RowQuery

namespace Value

theorem ofNumber?_eq_null_iff {o : Option Number} : ofNumber? o = .null ↔ o = none := by
  cases o <;> simp [ofNumber?]

theorem ofNumber?_eq_number_iff {o : Option Number} {r : Number} :
    ofNumber? o = .number r ↔ o = some r := by
  cases o <;> simp [ofNumber?]

theorem eq_some_of_ofNumber? {o : Option Number} (h : ofNumber? o ≠ .null) :
    ∃ r, o = some r ∧ ofNumber? o = .number r := by
  cases o with
  | none => exact absurd rfl h
  | some r => exact ⟨r, rfl, rfl⟩

end Value

namespace Expr

/-- The aggregates of an argument on rows on which it has values. -/
theorem aggregate_run {run : Runner} {e : Expr} {group : List Record} {values : List Value}
    {s s' : Session} (h : (group.mapM fun r => e.evaluate run r).run.run s = (.ok values, s'))
    (rest : List Expr) {a : Aggregate} (ha : a ≠ .count) :
    (aggregate run (e :: rest) a group).run.run s =
      (.ok (a.ofNumbers (values.filterMap Value.toNumber?)), s') := by
  rw [aggregate]
  · rw [Exec.run_bind, h]
    rfl
  · exact ha

/-- The values of a column on rows that have no other. -/
theorem column_run (run : Runner) (name : String) (s : Session) : ∀ values : List Value,
    ((values.map fun v => Record.mk [(name, v)]).mapM fun r =>
      (identifier name).evaluate run r).run.run s = (.ok values, s)
  | [] => rfl
  | v :: rest => by
    have hvalue : s.resolve ⟨[(name, v)]⟩ name = v := by
      simp [Session.resolve, Record.get?]
    have hfirst : ((identifier name).evaluate run ⟨[(name, v)]⟩).run.run s = (.ok v, s) := by
      simp only [evaluate]
      rw [Exec.run_get_bind, hvalue]
      rfl
    rw [List.map_cons, List.mapM_cons, Exec.run_bind, hfirst]
    dsimp only
    rw [Exec.run_bind, column_run run name s rest]
    rfl

end Expr

end RowQuery
