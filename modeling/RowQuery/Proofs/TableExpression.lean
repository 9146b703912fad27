/-
# A table expression is a table

A statement that names the rows of a query and goes on from there has the result
that it has where the rows are a table of the source. The name is looked up in
the scopes of the statements around, innermost first; with the table in the
source it is not found there, and the table is loaded. A statement within may
give the name to something else, and may use the table while it does so.

Two executions go side by side: one finds in its scopes what the other finds in
its scopes or, where these have no such table, in front of its source. A table
whose kind a query says is loaded in both, so it must not be one of those in
front.

Key definitions: `Source.withTables`, `Coupling.inFront`.
Key theorems: `inFront_executors`, `run_table_expression`.
-/
import RowQuery.Proofs.Coupling.Engine
import RowQuery.Proofs.Depth

namespace RowQuery

open List

/-- The source with some tables in front of those of one kind. -/
def Source.withTables (source : Source) (kind : SourceKind) (tables : Scope) : Source :=
  { source with load := fun k name =>
      match if k = kind then tables.lookup name else none with
      | some rows => .ok rows
      | none => source.load k name }

namespace Source

variable {source : Source} {kind : SourceKind} {tables : Scope} {name : String}

theorem withTables_of_some {rows : List Record} (h : tables.lookup name = some rows) :
    (source.withTables kind tables).load kind name = .ok rows := by
  unfold withTables
  dsimp only
  rw [if_pos rfl, h]

theorem withTables_of_none (h : tables.lookup name = none) (k : SourceKind) :
    (source.withTables kind tables).load k name = source.load k name := by
  have hfront : (if k = kind then tables.lookup name else none) = none := by
    split
    · exact h
    · rfl
  unfold withTables
  dsimp only
  rw [hfront]

theorem withTables_nil (source : Source) (kind : SourceKind) : source.withTables kind [] = source := by
  have hload : (source.withTables kind []).load = source.load := by
    funext k name
    exact withTables_of_none rfl k
  exact congrArg (Source.mk · source.describe) hload

end Source

/-! ### The executions side by side -/

/-- The coupling of an execution whose scopes have some tables around them with one that has these
tables in front of its source. -/
def Coupling.inFront (source : Source) (kind : SourceKind) (tables : Scope) : Coupling where
  value := (· = ·)
  scopes xs ys := ∀ name, xs.findSome? (lookup name) = (ys ++ [tables]).findSome? (lookup name)
  ledger l l' := l.Faithful source ∧ l'.Faithful (source.withTables kind tables)
  failure e e' _ _ := e = e'
  table t := t.kind ≠ none → tables.lookup t.name = none
  sorts := True
  identity := True
  ambient := True

namespace Coupling

variable {source : Source} {options : Options} {tables : Scope} {kind : SourceKind}

theorem inFront_lawful : (inFront source kind tables).Lawful := by
  refine lawful_of_push (fun _ _ h => h) (fun _ _ => rfl) fun {x y xs ys} hxy h name => ?_
  have heq : x = y := forall₂_eq (hxy.imp fun p q hpq => Prod.ext hpq.1 (Rows.eq (fun _ _ h => h) hpq.2))
  have htail := h name
  rw [heq]
  simp only [cons_append, findSome?_cons]
  rw [htail]

/-- A table that both sources give alike is fetched alike. -/
theorem inFront_fetch {f g : Frame} {k : SourceKind} {name : String}
    (hload : (source.withTables kind tables).load k name = source.load k name) :
    (inFront source kind tables).Coupled f g (inFront source kind tables).Rows
      ((Engine.executor ⟨source, options⟩).fetch k name)
      ((Engine.executor ⟨source.withTables kind tables, options⟩).fetch k name) := by
  refine fetch_coupled fun l l' hl => ?_
  obtain ⟨hresult, hledger⟩ := hl.1.fetch options k name
  obtain ⟨hresult', hledger'⟩ := hl.2.fetch options k name
  have heq : (l.fetch (Engine.executor ⟨source, options⟩) k name).1 =
      (l'.fetch (Engine.executor ⟨source.withTables kind tables, options⟩) k name).1 := by
    rw [hresult, hresult', hload]
  exact fetchAlike_of_eq heq (fun rows _ => ⟨rows_refl (fun _ => rfl) rows, hledger, hledger'⟩)
    fun _ _ => rfl

/-- A table in front of the one source is fetched where it is at hand on the other side. -/
theorem inFront_fetch_front {f g : Frame} {name : String} {rows : List Record}
    (h : tables.lookup name = some rows) :
    (inFront source kind tables).Coupled f g (inFront source kind tables).Rows (pure rows)
      ((Engine.executor ⟨source.withTables kind tables, options⟩).fetch kind name) := by
  intro s t hs ht hl
  obtain ⟨hresult, hledger⟩ := hl.2.fetch options kind name
  rw [Source.withTables_of_some h] at hresult
  rw [fetch_run, hresult]
  exact .ok (rows_refl (fun _ => rfl) rows) ⟨hs, ht⟩ ⟨hl.1, hledger⟩

/-- **A table is loaded alike**, whether it is found in the scopes or in front of the source. -/
theorem inFront_executors : (inFront source options.defaultKind tables).Executors
    (Engine.executor ⟨source, options⟩)
    (Engine.executor ⟨source.withTables options.defaultKind tables, options⟩) where
  mode := rfl
  index := .inl rfl
  load f g table htable hscopes := by
    unfold Executor.loadTable
    cases hkind : table.kind with
    | some k =>
      have hnone : tables.lookup table.name = none := htable (by rw [hkind]; nofun)
      exact inFront_fetch (Source.withTables_of_none hnone k)
    | none =>
      refine Coupled.reading fun s t hs ht _ => ?_
      have hscoped : s.scoped? table.name =
          (t.scoped? table.name).or (tables.lookup table.name) := by
        subst hs ht
        have hfound : s.frame.scopes.findSome? (lookup table.name) =
            (t.frame.scopes.findSome? (lookup table.name)).or (tables.lookup table.name) := by
          rw [hscopes table.name, findSome?_append]
          simp
        exact hfound
      rw [hscoped]
      cases t.scoped? table.name with
      | some rows => exact .pure (rows_refl (fun _ => rfl) rows)
      | none =>
        cases hfront : tables.lookup table.name with
        | some rows => exact inFront_fetch_front hfront
        | none => exact inFront_fetch (Source.withTables_of_none hfront _)

/-- A statement may have anything in it, if it says no kind for a table in front. -/
theorem inFront_admits {features : List Feature}
    (h : ∀ t : TableRef, .table t ∈ features → t.kind ≠ none → tables.lookup t.name = none) :
    (inFront source kind tables).AdmitsAll features := by
  intro x hx
  cases x with
  | table t => exact h t hx
  | literal v => exact rfl
  | window name sheltered => exact ⟨.inr trivial, fun _ => trivial⟩
  | sortKey => trivial
  | distinct => trivial
  | setOperation op => exact .inr trivial

end Coupling

/-! ### Statements -/

section Statements

variable {source : Source} {options : Options} {body : Statement} {rows : List Record}

/-- A statement in a scope without tables has the result that it has by itself. -/
theorem execute_in_empty_scope (hbody : (Engine.run ⟨source, options⟩ body).1 = .ok rows)
    {s : Session} (hs : s.frame = ⟨[], [[]], none⟩) (hl : s.ledger.Faithful source) :
    ∃ s', ((Engine.execute ⟨source, options⟩ body).run.run s) = (.ok rows, s') ∧
      s'.frame = s.frame ∧ s'.ledger.Faithful source := by
  have hexec : (Coupling.inFront source options.defaultKind []).Executors
      (Engine.executor ⟨source, options⟩)
      (Engine.executor ⟨source.withTables options.defaultKind [], options⟩) :=
    Coupling.inFront_executors
  rw [Source.withTables_nil] at hexec
  have hframes : (Coupling.inFront source options.defaultKind []).Frames true ⟨[], [[]], none⟩
      ⟨[], [], none⟩ := ⟨.nil, fun _ => rfl, fun _ => .none⟩
  have hadmits : (Coupling.inFront source options.defaultKind []).AdmitsAll (body.features true) :=
    Coupling.inFront_admits fun _ _ _ => rfl
  have hends := Coupling.execute_coupled Coupling.inFront_lawful hexec body hframes hadmits s .start
    hs rfl ⟨hl, Ledger.faithful_start _⟩
  have hrun : (((Engine.executor ⟨source, options⟩).execute body).run.run .start).1 = .ok rows := hbody
  show ∃ s', ((Engine.executor ⟨source, options⟩).execute body).run.run s = (.ok rows, s') ∧ _
  generalize ((Engine.executor ⟨source, options⟩).execute body).run.run s = x at hends ⊢
  generalize ((Engine.executor ⟨source, options⟩).execute body).run.run .start = y at hends hrun
  cases hends with
  | ok hrows hframes hledger =>
    obtain rfl := Except.ok.inj hrun
    obtain rfl := Coupling.Rows.eq (fun _ _ h => h) hrows
    exact ⟨_, rfl, hframes.1.trans hs.symm, hledger.1⟩
  | error => cases hrun

/-- The rest of a statement is executed alike whether the rows of its first table are in its scope
or in front of the source. -/
theorem executeWith_coupled_inFront {name : String} {rest : List TableExpr} {primary : Query}
    {compound : Option Compound} {n : Nat} (hdepth : body.depth ≤ n)
    (hbody : (Engine.run ⟨source, options⟩ body).1 = .ok rows)
    (ha : (Coupling.inFront source options.defaultKind [(name, rows)]).AdmitsAll
      (Statement.features true ⟨rest, primary, compound⟩)) :
    let executor := Engine.executor ⟨source, options⟩
    let executor' := Engine.executor ⟨source.withTables options.defaultKind [(name, rows)], options⟩
    (Coupling.inFront source options.defaultKind [(name, rows)]).Coupled ⟨[], [], none⟩
      ⟨[], [], none⟩ (Forall₂ (RowLike (· = ·)))
      (executor.executeWith (executor.executeTo n) ⟨⟨name, body⟩ :: rest, primary, compound⟩)
      (executor'.executeWith (executor'.executeTo n) ⟨rest, primary, compound⟩) := by
  intro executor executor'
  let R := Coupling.inFront source options.defaultKind [(name, rows)]
  let f : Frame := ⟨[], [], none⟩
  have hexec : R.Executors executor executor' := Coupling.inFront_executors
  have hrun : R.Runs (executor.executeTo n) (executor'.executeTo n) :=
    Coupling.executeTo_runs Coupling.inFront_lawful hexec n
  simp only [Statement.features, Coupling.admitsAll_append] at ha
  obtain ⟨htables, hprimary, hcompound⟩ := ha
  refine Coupling.Coupled.withScope fun s t hs ht hl => ?_
  obtain ⟨s₁, hs₁, hframe, hledger⟩ := execute_in_empty_scope hbody hs hl.1
  simp only [Executor.defineTables, bind_assoc]
  rw [Exec.run_bind (executor.executeTo n body), executor.executeTo_of_depth_le hdepth]
  have hs₁ : (executor.execute body).run.run s = (.ok rows, s₁) := hs₁
  rw [hs₁]
  obtain ⟨hdefined, hkept⟩ := frame_define (f := f) (hframe.trans hs) name rows
  -- From here on the scope of the one statement is that of the other with the table at its end.
  let alike (x y : Scope) : Prop := x = y ++ [(name, rows)]
  have hframes : ∀ {x y : Scope}, alike x y → R.Frames true (f.within x) (f.within y) := by
    rintro x y rfl
    refine ⟨.nil, fun n => ?_, fun _ => .none⟩
    show [y ++ [(name, rows)]].findSome? (lookup n) = ([y] ++ [[(name, rows)]]).findSome? (lookup n)
    rw [findSome?_append]
    simp [lookup_append]
  have hgrow : ∀ {x y : Scope} (n : String) {found found' : List Record}, R.Rows found found' →
      alike x y → alike ((n, found) :: x) ((n, found') :: y) := by
    rintro x y n found found' hrows rfl
    obtain rfl := Coupling.Rows.eq (fun _ _ h => h) hrows
    rfl
  refine Coupling.defineTables_ends hrun hgrow hframes (fun hxy => ?_) rest htables (x := [(name, rows)])
    (y := []) rfl hdefined ht ⟨?_, hl.2⟩
  · exact Coupling.answer_coupled Coupling.inFront_lawful hexec hrun ⟨rest, primary, compound⟩
      (hframes hxy) hprimary hcompound
  · rw [hkept]
    exact hledger

/-- **A table expression is a table of the source.** Where a statement names the rows of a query,
its result is that of the rest of the statement on a source that has these rows as a table of the
default kind, and all other tables as before. No table of this name with a kind of its own may
occur in the rest. -/
theorem run_table_expression {name : String} {rest : List TableExpr} {primary : Query}
    {compound : Option Compound} (hbody : (Engine.run ⟨source, options⟩ body).1 = .ok rows)
    (hkinds : ∀ t : TableRef, .table t ∈ Statement.features true ⟨rest, primary, compound⟩ →
      t.name = name → t.kind = none) :
    (Engine.run ⟨source, options⟩ ⟨⟨name, body⟩ :: rest, primary, compound⟩).1 =
      (Engine.run ⟨source.withTables options.defaultKind [(name, rows)], options⟩
        ⟨rest, primary, compound⟩).1 := by
  let executor := Engine.executor ⟨source, options⟩
  let executor' := Engine.executor ⟨source.withTables options.defaultKind [(name, rows)], options⟩
  -- Both are executed to the depth of the longer one.
  let n := max (tablesDepth (⟨name, body⟩ :: rest)) (max primary.depth (compoundDepth compound))
  have hbodyDepth : body.depth ≤ n := by
    simp only [n, tablesDepth]
    omega
  have hdepth : Statement.depth ⟨rest, primary, compound⟩ ≤ n + 1 := by
    rw [Statement.depth]
    simp only [n, tablesDepth]
    omega
  have hadmits : (Coupling.inFront source options.defaultKind [(name, rows)]).AdmitsAll
      (Statement.features true ⟨rest, primary, compound⟩) := by
    refine Coupling.inFront_admits fun t ht hkind => ?_
    have hname : t.name ≠ name := fun h => hkind (hkinds t ht h)
    rw [lookup_cons, beq_false_of_ne hname]
    rfl
  have hends := executeWith_coupled_inFront hbodyDepth hbody hadmits .start .start rfl rfl
    ⟨Ledger.faithful_start _, Ledger.faithful_start _⟩
  have hlong : executor.executeWith (executor.executeTo n) ⟨⟨name, body⟩ :: rest, primary, compound⟩ =
      executor.execute ⟨⟨name, body⟩ :: rest, primary, compound⟩ :=
    executor.executeTo_of_depth_le (n := n + 1) (by rw [Statement.depth])
  have hshort : executor'.executeWith (executor'.executeTo n) ⟨rest, primary, compound⟩ =
      executor'.execute ⟨rest, primary, compound⟩ :=
    executor'.executeTo_of_depth_le (n := n + 1) hdepth
  rw [hlong, hshort] at hends
  show ((executor.execute ⟨⟨name, body⟩ :: rest, primary, compound⟩).run.run .start).1 =
    ((executor'.execute ⟨rest, primary, compound⟩).run.run .start).1
  generalize (executor.execute _).run.run .start = x at hends ⊢
  generalize (executor'.execute _).run.run .start = y at hends ⊢
  cases hends with
  | ok hrows => exact congrArg Except.ok (Coupling.Rows.eq (R := .inFront source .file []) (fun _ _ h => h) hrows)
  | error _ hfailure =>
    exact congrArg Except.error (hfailure.eq (fun _ _ h => h) fun _ _ _ _ h => h)

end Statements

/-- `WITH c AS (SELECT * FROM t) SELECT (WITH c AS (SELECT * FROM c) SELECT * FROM c) AS n FROM c
UNION SELECT * FROM t`: the inner table `c` shadows the outer one, of which it is made. -/
theorem run_table_expression_shadowed :
    let rows : List Record := [⟨[("a", .integer 1)]⟩]
    let source : Source := .memory [("t", rows)]
    let within : Statement := ⟨[⟨"c", .ofQuery (.all "c")⟩], .all "c", none⟩
    let primary : Query := { Query.all "c" with items := [⟨.subquery within, some "n"⟩] }
    let compound : Option Compound := some ⟨.union, .all "t"⟩
    (Engine.run ⟨source, {}⟩ (.ofQuery (.all "t"))).1 = .ok rows ∧
      (∀ t : TableRef, .table t ∈ Statement.features true ⟨[], primary, compound⟩ → t.name = "c" →
        t.kind = none) ∧
      (Engine.run ⟨source, {}⟩ ⟨[⟨"c", .ofQuery (.all "t")⟩], primary, compound⟩).1 =
        (Engine.run ⟨source.withTables .file [("c", rows)], {}⟩ ⟨[], primary, compound⟩).1 := by
  intro rows source within primary compound
  have hbody : (Engine.run ⟨source, {}⟩ (.ofQuery (.all "t"))).1 = .ok rows := by
    with_unfolding_all rfl
  have hkinds : ∀ t : TableRef, .table t ∈ Statement.features true ⟨[], primary, compound⟩ →
      t.name = "c" → t.kind = none := by
    simp [primary, compound, within, Statement.ofQuery, Query.all]
  exact ⟨hbody, hkinds, run_table_expression hbody hkinds⟩

end RowQuery
