/-
# Laws of set operations

Rows count as the same if they have one canonical text. UNION keeps the first
row of each text among those of both sides; INTERSECT and EXCEPT share the rows
of the left side among them, by whether the right side has the text.

A set operation of a query with itself runs the query twice, and the second run
starts where the first one ended: tables are in the cache that were not there
before. A source answers the second time as it did the first time, so both runs
give the same rows, and the laws for lists tell what the operation makes of them.

Key theorems: `SetOperator.partition_eq`, `Executor.select_distinct`, `again_twice`,
`run_with_itself`, `set_operation_laws`.
-/
import RowQuery.Proofs.Coupling.Again
import RowQuery.Proofs.Depth
import RowQuery.Proofs.Distinct
import RowQuery.Proofs.Sorting

namespace RowQuery

open List

/-! ### Lists of rows -/

namespace SetOperator

/-- The rows of the left side are shared among INTERSECT and EXCEPT. -/
theorem partition_eq (left right : List Record) :
    left.partition (fun row => (right.map Record.canonical).contains row.canonical) =
      (intersect.apply left right, except.apply left right) :=
  partition_eq_filter_filter

/-- INTERSECT leaves the same canonical texts whichever side comes first. -/
theorem mem_intersect_canonical {left right : List Record} {text : String} :
    text ∈ (intersect.apply left right).map Record.canonical ↔
      text ∈ left.map Record.canonical ∧ text ∈ right.map Record.canonical := by
  unfold apply
  simp only [mem_map, mem_filter, contains_iff_mem]
  constructor
  · rintro ⟨row, ⟨hrow, hright⟩, rfl⟩
    exact ⟨⟨row, hrow, rfl⟩, hright⟩
  · rintro ⟨⟨row, hrow, rfl⟩, hright⟩
    exact ⟨row, ⟨hrow, hright⟩, rfl⟩

/-- Nothing is left of rows without themselves. -/
theorem except_self (rows : List Record) : except.apply rows rows = [] := by
  refine filter_eq_nil_iff.2 fun row hrow => ?_
  rw [contains_iff_mem.2 (mem_map_of_mem hrow)]
  decide

/-- The union of rows with themselves is the first row of each text. -/
theorem union_self (rows : List Record) :
    union.apply rows rows = distinctBy Record.canonical rows :=
  distinctBy_append_self Record.canonical rows

theorem length_union_le (left right : List Record) :
    (union.apply left right).length ≤ left.length + right.length := by
  rw [← length_append]
  exact (distinctBy_sublist Record.canonical (left ++ right)).length_le

end SetOperator

/-! ### DISTINCT is done last -/

namespace Query

variable {run : Runner} {q : Query}

/-- Without LIMIT, DISTINCT keeps the first row of each canonical text of the rows that there are
without it. -/
theorem list_distinct (hlimit : q.limit = none) (results : List Projected) :
    page { q with distinct := true }
      ((distinctRows { q with distinct := true } results).map Projected.record) =
    distinctBy Record.canonical (q.page ((q.distinctRows results).map Projected.record)) := by
  have hpage : ∀ rows, q.page rows = rows := fun rows => by
    unfold page
    rw [hlimit]
  have hleft : page { q with distinct := true }
      ((distinctRows { q with distinct := true } results).map Projected.record) =
      (distinctBy (fun p => p.record.canonical) results).map Projected.record :=
    hpage _
  rw [hleft, hpage, map_distinctBy Record.canonical]
  unfold distinctRows
  split
  · rw [map_distinctBy Record.canonical, distinctBy_distinctBy]
  · rfl

theorem select_distinct (horder : q.orderBy = []) (hlimit : q.limit = none) (indexed : Bool)
    (rows : List Record) :
    select run indexed { q with distinct := true } rows =
      distinctBy Record.canonical <$> q.select run indexed rows := by
  unfold select
  simp only [map_bind, map_pure]
  refine bind_congr fun picked => bind_congr fun results => ?_
  rw [order_of_nil horder, order_of_nil (q := { q with distinct := true }) horder, pure_bind,
    pure_bind, list_distinct hlimit]

end Query

/-- The same for a query on its table. -/
theorem Executor.select_distinct (executor : Executor) {run : Runner} {q : Query}
    (horder : q.orderBy = []) (hlimit : q.limit = none) :
    executor.select run { q with distinct := true } =
      distinctBy Record.canonical <$> executor.select run q := by
  unfold Executor.select Executor.selectFrom
  simp only [map_bind]
  refine bind_congr fun base => bind_congr fun rows => ?_
  exact Query.select_distinct horder hlimit _ rows

/-! ### A query that runs again -/

namespace Coupling

variable {source : Source} {f g : Frame}

/-- **An action that runs again has the result that it had**, as its first run leaves the frame as
it was, and a ledger that corresponds. -/
theorem again_twice {α β : Type} {m m' : Exec α} (combine : α → α → β)
    (h : (again source).Coupled f g (· = ·) m m') :
    (again source).Coupled f g (fun a b => b = combine a a) m
      (do return combine (← m') (← m')) := by
  intro s t hs ht hl
  have hfirst := h s t hs ht hl
  have hsecond := fun t' ht' hl' => h s t' hs ht' hl'
  rw [Exec.run_bind]
  generalize m.run.run s = x at hfirst hsecond ⊢
  generalize m'.run.run t = y at hfirst ⊢
  cases hfirst with
  | error hframes hfailure => exact .error hframes hfailure
  | @ok a b s' t' hab hframes hledger =>
    -- The other side runs on, on the ledger its first run left; that ledger still corresponds
    -- to the one this side started from, so the second run agrees with the only one here.
    have hsecond := hsecond t' hframes.2 ⟨hl.1, hledger.2⟩
    dsimp only
    rw [Exec.run_bind]
    generalize m'.run.run t' = z at hsecond ⊢
    cases hsecond with
    | ok hac hframes hledger =>
      subst hab hac
      exact .ok rfl hframes hledger

/-- What is made of the result of an action is made of the result that the action has again. -/
theorem again_map {α β : Type} {m m' : Exec α} {combine : α → β}
    (h : (again source).Coupled f g (· = ·) m m') :
    (again source).Coupled f g (fun a b => b = combine a) m (combine <$> m') := by
  rw [← bind_pure m, ← bind_pure_comp]
  refine h.bind fun a b hab => .pure ?_
  rw [hab]

end Coupling

/-! ### Statements of one query -/

section Statements

variable {source : Source} {options : Options} {tables : List TableExpr} {q : Query}

open Coupling in
/-- A statement on the same tables whose answer is made of the rows of a query has the result that
is made of the result of this query. -/
theorem run_of_answer {q' : Query} {compound : Option Compound}
    {combine : List Record → List Record}
    (h : ∀ {f g : Frame}, (again source).Frames true f g →
      (again source).Coupled f g (fun rows rows' => rows' = combine rows)
        ((Engine.executor ⟨source, options⟩).select (Engine.execute ⟨source, options⟩) q)
        (match compound with
        | none => (Engine.executor ⟨source, options⟩).select (Engine.execute ⟨source, options⟩) q'
        | some compound => do
          let (left, right) ← (Engine.executor ⟨source, options⟩).selectBoth
            (Engine.execute ⟨source, options⟩) q' compound.right
          return compound.op.apply left right)) :
    (Engine.run ⟨source, options⟩ ⟨tables, q', compound⟩).1 =
      (Engine.run ⟨source, options⟩ ⟨tables, q, none⟩).1.map combine := by
  let executor := Engine.executor ⟨source, options⟩
  have hrun : (again source).Runs executor.execute executor.execute := fun _ _ _ s hf ha =>
    execute_coupled again_lawful again_executors s hf ha
  have hframes : (again source).Frames true ⟨[], [], none⟩ ⟨[], [], none⟩ :=
    ⟨.nil, .nil, fun _ => .none⟩
  have hcoupled : (again source).Coupled ⟨[], [], none⟩ ⟨[], [], none⟩
      (fun rows rows' => rows' = combine rows)
      (executor.executeWith executor.execute ⟨tables, q, none⟩)
      (executor.executeWith executor.execute ⟨tables, q', compound⟩) := by
    have hgrow : ∀ {x y : Scope} (name : String) {rows rows' : List Record},
        (again source).Rows rows rows' → ScopeLike (again source).value x y →
        ScopeLike (again source).value ((name, rows) :: x) ((name, rows') :: y) :=
      fun _ _ _ h hxy => .cons ⟨rfl, h⟩ hxy
    refine Coupled.withScope fun s t hs ht hl => ?_
    exact defineTables_ends hrun hgrow (hframes.within again_lawful)
      (fun hxy => h (hframes.within again_lawful hxy)) tables (again_admits _) .nil hs ht hl
  have hends := hcoupled .start .start rfl rfl ⟨Ledger.faithful_start _, Ledger.faithful_start _⟩
  rw [← executor.execute_eq, ← executor.execute_eq] at hends
  show ((executor.execute ⟨tables, q', compound⟩).run.run .start).1 =
    ((executor.execute ⟨tables, q, none⟩).run.run .start).1.map combine
  generalize (executor.execute ⟨tables, q, none⟩).run.run .start = x at hends ⊢
  generalize (executor.execute ⟨tables, q', compound⟩).run.run .start = y at hends ⊢
  cases hends with
  | ok hrows => exact congrArg Except.ok hrows
  | error _ hfailure => exact congrArg Except.error hfailure.again_symm.again_eq

open Coupling in
theorem again_select (options : Options) (q : Query) {f g : Frame}
    (hf : (again source).Frames true f g) :
    (again source).Coupled f g (· = ·)
      ((Engine.executor ⟨source, options⟩).select (Engine.execute ⟨source, options⟩) q)
      ((Engine.executor ⟨source, options⟩).select (Engine.execute ⟨source, options⟩) q) :=
  (executor_select_coupled again_lawful again_executors
    (fun _ _ _ s hf ha => execute_coupled again_lawful again_executors s hf ha) hf
    (admitsQuery (again_admits _))).mono fun _ _ h => Rows.eq (fun _ _ h => h) h

/-- **A set operation of a query with itself** has the rows that the operation makes of the rows of
the query and the same rows again, if each branch loads its own table. -/
theorem run_with_itself (hmode : options.compoundMode = .independent) (op : SetOperator) :
    (Engine.run ⟨source, options⟩ ⟨tables, q, some ⟨op, q⟩⟩).1 =
      (Engine.run ⟨source, options⟩ ⟨tables, q, none⟩).1.map fun rows => op.apply rows rows := by
  refine run_of_answer fun hf => ?_
  have htwice := Coupling.again_twice op.apply (again_select options q hf)
  have hboth : ∀ run, (Engine.executor ⟨source, options⟩).selectBoth run q q =
      (do return (← (Engine.executor ⟨source, options⟩).select run q,
        ← (Engine.executor ⟨source, options⟩).select run q)) := fun run => by
    unfold Executor.selectBoth
    have hmode : (Engine.executor ⟨source, options⟩).options.compoundMode = .independent := hmode
    rw [hmode]
  dsimp only
  rw [hboth]
  simpa only [bind_assoc, pure_bind] using htwice

/-- With DISTINCT a query has the first row of each canonical text of the rows without it. -/
theorem run_distinct (horder : q.orderBy = []) (hlimit : q.limit = none) :
    (Engine.run ⟨source, options⟩ ⟨tables, { q with distinct := true }, none⟩).1 =
      (Engine.run ⟨source, options⟩ ⟨tables, q, none⟩).1.map (distinctBy Record.canonical) := by
  refine run_of_answer fun hf => ?_
  dsimp only
  rw [Executor.select_distinct _ horder hlimit]
  exact Coupling.again_map (again_select options q hf)

end Statements

/-- **Laws of set operations.** The union is both sides one behind the other, without the rows whose
canonical text occurred before. INTERSECT and EXCEPT share the rows of the left side among them, in
order and with repeated rows, by whether the text occurs on the right side; the canonical texts of
an intersection do not depend on the order of the sides.

A query on a source that is united with itself, each branch having its own table, has the result
that it has with DISTINCT; without itself it has no rows. -/
theorem set_operation_laws :
    (∀ left right : List Record,
      SetOperator.union.apply left right = ((left ++ right).zipIdx.filter fun p =>
        !(((left ++ right).take p.2).map Record.canonical).contains p.1.canonical).map Prod.fst ∧
      left.partition (fun row => (right.map Record.canonical).contains row.canonical) =
        (SetOperator.intersect.apply left right, SetOperator.except.apply left right) ∧
      SetOperator.intersect.apply left right <+ left ∧
      SetOperator.except.apply left right <+ left ∧
      SetOperator.intersect.apply left right ++ SetOperator.except.apply left right ~ left ∧
      (∀ text, text ∈ (SetOperator.intersect.apply left right).map Record.canonical ↔
        text ∈ (SetOperator.intersect.apply right left).map Record.canonical) ∧
      SetOperator.except.apply left left = [] ∧
      (SetOperator.union.apply left right).length ≤ left.length + right.length) ∧
    (∀ (source : Source) (options : Options) (tables : List TableExpr) (q : Query),
      options.compoundMode = .independent →
      (q.orderBy = [] → q.limit = none →
        (Engine.run ⟨source, options⟩ ⟨tables, q, some ⟨.union, q⟩⟩).1 =
          (Engine.run ⟨source, options⟩ ⟨tables, { q with distinct := true }, none⟩).1) ∧
      (Engine.run ⟨source, options⟩ ⟨tables, q, some ⟨.except, q⟩⟩).1 =
        (Engine.run ⟨source, options⟩ ⟨tables, q, none⟩).1.map fun _ => []) := by
  refine ⟨fun left right => ⟨distinctBy_eq_filter_zipIdx _ _, SetOperator.partition_eq left right,
    filter_sublist, filter_sublist, filter_append_perm _ left, fun text => ?_,
    SetOperator.except_self left, SetOperator.length_union_le left right⟩, ?_⟩
  · rw [SetOperator.mem_intersect_canonical, SetOperator.mem_intersect_canonical, and_comm]
  · intro source options tables q hmode
    constructor
    · intro horder hlimit
      rw [run_with_itself hmode, run_distinct horder hlimit]
      simp only [SetOperator.union_self]
    · rw [run_with_itself hmode]
      simp only [SetOperator.except_self]

/-- A table in which two rows are the same up to the order of columns. -/
theorem set_operation_laws_repeated :
    let rows : List Record :=
      [⟨[("a", .integer 1), ("b", .null)]⟩, ⟨[("b", .null), ("a", .integer 1)]⟩]
    let source : Source := .memory [("t", rows)]
    let options : Options := { compoundMode := .independent }
    let q := Query.all "t"
    options.compoundMode = .independent ∧ q.orderBy = [] ∧ q.limit = none ∧
      (Engine.run ⟨source, options⟩ ⟨[], q, some ⟨.union, q⟩⟩).1 =
        (Engine.run ⟨source, options⟩ ⟨[], { q with distinct := true }, none⟩).1 ∧
      (Engine.run ⟨source, options⟩ ⟨[], q, some ⟨.except, q⟩⟩).1 =
        (Engine.run ⟨source, options⟩ ⟨[], q, none⟩).1.map fun _ => [] := by
  intro rows source options q
  obtain ⟨hunion, hexcept⟩ := set_operation_laws.2 source options [] q rfl
  exact ⟨rfl, rfl, rfl, hunion rfl rfl, hexcept⟩

end RowQuery
