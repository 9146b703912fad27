/-
# Frames are given back

The rows around, the tables that the statements around have named, and the rows
that windows range over: an execution enters frames of its own for subqueries,
statements and projections, and leaves them again. A table may fail to load
anywhere in between, in a nested statement, a join, an aggregate or a sort key;
what is around is the same afterwards as if nothing had been executed.

Key theorem: `frame_restored`.
-/
import RowQuery.Proofs.Coupling.Alone

namespace RowQuery

namespace Coupling

/-- The coupling of an execution with itself that says nothing of ledgers. -/
abbrev framed : Coupling := alone True (fun _ => True) (fun _ _ => True)

theorem framed_executors (executor : Executor) : framed.Executors executor executor :=
  alone_executors fun l kind name _ => by
    cases (l.fetch executor kind name).1 with
    | ok _ => trivial
    | error _ => trivial

/-- A statement may have anything in it. -/
theorem framed_admits (features : List Feature) : framed.AdmitsAll features :=
  alone_admits fun _ => trivial

end Coupling

open Coupling in
/-- **What is around an execution is the same after it**, whether it has a result or fails: after
an expression, a query over rows, joins, and a statement. -/
theorem frame_restored (executor : Executor) (session : Session) :
    (∀ (e : Expr) (row : Record),
      ((executor.evaluate e row).run.run session).2.frame = session.frame) ∧
    (∀ (depth : Nat) (q : Query) (rows : List Record),
      ((q.select (executor.executeTo depth) executor.options.indexEqualities rows).run.run
        session).2.frame = session.frame) ∧
    (∀ (depth : Nat) (joins : List Join) (rows : List Record),
      ((executor.joinAll (executor.executeTo depth) joins rows).run.run session).2.frame =
        session.frame) ∧
    ∀ s : Statement, ((executor.execute s).run.run session).2.frame = session.frame := by
  have hexec := framed_executors executor
  have hruns := executeTo_runs alone_lawful hexec
  have hframes : framed.Frames true session.frame session.frame := alone_frames session.frame true
  refine ⟨fun e row => ?_, fun depth q rows => ?_, fun depth joins rows => ?_, fun s => ?_⟩
  · have hrow : framed.Row row row := rowLike_refl (fun _ => rfl) row
    exact (evaluate_coupled alone_lawful (hruns e.depth) e hframes (framed_admits _) hrow).leaves
      trivial |>.1
  · exact (select_coupled alone_lawful (hruns depth) hexec.index q hframes
      (admitsQuery (framed_admits _)) (alone_rows rows)).leaves trivial |>.1
  · exact (joinAll_coupled alone_lawful hexec (hruns depth) joins hframes (framed_admits _)
      (alone_rows rows)).leaves trivial |>.1
  · exact (execute_coupled alone_lawful hexec s hframes (framed_admits _)).leaves trivial |>.1

end RowQuery
