/-
# Statements on corresponding tables

Two executors correspond if their tables do, whatever has been loaded before,
and if nothing else that they differ in can be seen. They execute every
statement alike that has no features but those that the coupling admits.

The scope of a statement is entered and left; in between its tables are named
one by one, so that the innermost scope grows. What is to come runs in a frame
with a scope that is not known beforehand.

Key definitions: `Frame.within`, `Frame.leave`, `Coupling.Executors`.
Key theorems: `loadTable_coupled_of_fetch`, `defineTables_ends`,
`answer_coupled`, `executeWith_coupled`, `executeTo_runs`, `execute_coupled`.
-/
import RowQuery.Evaluation.Statement
import RowQuery.Proofs.Coupling.Join
import RowQuery.Proofs.Coupling.Query

namespace RowQuery

open List

/-! ### Scopes entered and left -/

namespace Frame

/-- The frame without its innermost scope. -/
def leave (f : Frame) : Frame := { f with scopes := f.scopes.tail }

/-- The frame with an innermost scope. -/
def within (f : Frame) (scope : Scope) : Frame := { f with scopes := scope :: f.scopes }

end Frame

/-- A table that is defined goes to the innermost scope. -/
theorem frame_define {s : Session} {f : Frame} {x : Scope} (h : s.frame = f.within x) (name : String)
    (rows : List Record) : (s.define name rows).frame = f.within ((name, rows) :: x) ∧
      (s.define name rows).ledger = s.ledger := by
  obtain ⟨houter, hscopes, hpopulation⟩ := Frame.mk.injEq .. ▸ h
  unfold Session.define
  simp only [hscopes]
  exact ⟨by simp [Session.frame, Frame.within, houter, hpopulation], rfl⟩

namespace Coupling

variable {R : Coupling} {f g : Frame} {sheltered : Bool}

theorem Frames.within (h : R.Frames sheltered f g) (laws : R.Lawful) {x y : Scope}
    (hxy : ScopeLike R.value x y) : R.Frames sheltered (f.within x) (g.within y) :=
  ⟨h.outer, laws.push hxy h.scopes, h.population⟩

theorem Coupled.withScope {α β : Type} {A : α → β → Prop} {m : Exec α} {m' : Exec β}
    (h : ∀ s t : Session, s.frame = f.within [] → t.frame = g.within [] →
      R.ledger s.ledger t.ledger →
      R.Ends (fun f' g' => f'.leave = f ∧ g'.leave = g) A (m.run.run s) (m'.run.run t)) :
    R.Coupled f g A (Exec.withScope m) (Exec.withScope m') := by
  intro s t hs ht hl
  subst hs ht
  let enter (s : Session) : Session := { s with scopes := [] :: s.scopes }
  let leave (s : Session) : Session := { s with scopes := s.scopes.tail }
  have hm := h (enter s) (enter t) rfl rfl hl
  show R.Ends _ _ ((m.run.run (enter s)).1, leave (m.run.run (enter s)).2)
    ((m'.run.run (enter t)).1, leave (m'.run.run (enter t)).2)
  generalize m.run.run (enter s) = p at hm ⊢
  generalize m'.run.run (enter t) = q at hm ⊢
  cases hm with
  | ok h hf hl => exact .ok h hf hl
  | error hf he => exact .error hf he

/-! ### Tables -/

/-- Tables are loaded alike if they are named alike by the statements around, and fetched alike. -/
theorem loadTable_coupled_of_fetch {executor executor' : Executor} (table : TableRef)
    (hscopes : Forall₂ (ScopeLike R.value) f.scopes g.scopes)
    (hdefault : executor.options.defaultKind = executor'.options.defaultKind)
    (hfetch : ∀ kind, R.Coupled f g R.Rows (executor.fetch kind table.name)
      (executor'.fetch kind table.name)) :
    R.Coupled f g R.Rows (executor.loadTable table) (executor'.loadTable table) := by
  unfold Executor.loadTable
  cases table.kind with
  | some kind => exact hfetch kind
  | none =>
    refine Coupled.reading fun s t hs ht _ => ?_
    have hscoped : Option.Rel R.Rows (s.scoped? table.name) (t.scoped? table.name) := by
      subst hs ht
      exact findSome?_rel (A := ScopeLike R.value) (fun _ _ h => lookup_rel table.name h) hscopes
    generalize s.scoped? table.name = o at hscoped ⊢
    generalize t.scoped? table.name = o' at hscoped ⊢
    cases hscoped with
    | some hrows => exact .pure hrows
    | none =>
      dsimp only
      rw [hdefault]
      exact hfetch _

/-- Executors that differ in nothing that the coupling tells apart. -/
structure Executors (R : Coupling) (executor executor' : Executor) : Prop where
  load ⦃f g : Frame⦄ (table : TableRef) : R.table table → R.scopes f.scopes g.scopes →
    R.Coupled f g R.Rows (executor.loadTable table) (executor'.loadTable table)
  mode : executor.options.compoundMode = executor'.options.compoundMode
  index : R.Indexes executor.options.indexEqualities executor'.options.indexEqualities

theorem qualified_rel {rows rows' : List Record} (h : R.Rows rows rows') (qualifier : String) :
    R.Rows (rows.map (·.qualified qualifier)) (rows'.map (·.qualified qualifier)) :=
  rel_map (R := R.Row) (fun _ _ h => Row.qualified h qualifier) h

/-! ### Queries -/

section Queries

variable (laws : R.Lawful) {executor executor' : Executor}
  (hexec : R.Executors executor executor') {run run' : Runner} (hrun : R.Runs run run')

include laws hexec hrun

theorem joinAll_coupled : ∀ (joins : List Join), R.Frames sheltered f g →
    R.AdmitsAll (joinsFeatures sheltered joins) → ∀ {rows rows' : List Record},
    R.Rows rows rows' →
    R.Coupled f g R.Rows (executor.joinAll run joins rows) (executor'.joinAll run' joins rows')
  | [], _, _, _, _, hrows => .pure hrows
  | ⟨kind, table, condition⟩ :: rest, hf, ha, _, _, hrows => by
    simp only [joinsFeatures, admitsAll_cons, admitsAll_append] at ha
    refine (hexec.load table ha.1 hf.scopes).bind fun rows rows' h => ?_
    refine (joinRows_coupled laws hrun kind condition hf ha.2.1 hrows
      (qualified_rel h _)).bind fun joined joined' h => ?_
    exact joinAll_coupled rest hf ha.2.2 h

theorem prepare_coupled {q : Query} (hf : R.Frames sheltered f g) (ha : R.AdmitsQuery sheltered q)
    {base base' : List Record} (hbase : R.Rows base base') :
    R.Coupled f g R.Rows (executor.prepare run q base) (executor'.prepare run' q base') := by
  unfold Executor.prepare
  refine joinAll_coupled laws hexec hrun q.joins hf ha.joins ?_
  split
  · exact qualified_rel hbase _
  · exact hbase

theorem selectFrom_coupled {q : Query} (hf : R.Frames sheltered f g)
    (ha : R.AdmitsQuery sheltered q) {base base' : List Record} (hbase : R.Rows base base') :
    R.Coupled f g R.Rows (executor.selectFrom run q base) (executor'.selectFrom run' q base') :=
  (prepare_coupled laws hexec hrun hf ha hbase).bind fun _ _ h =>
    Coupling.select_coupled laws hrun hexec.index q hf ha h

/-- **A query of corresponding tables has corresponding results.** -/
theorem executor_select_coupled {q : Query} (hf : R.Frames sheltered f g)
    (ha : R.AdmitsQuery sheltered q) :
    R.Coupled f g R.Rows (executor.select run q) (executor'.select run' q) :=
  (hexec.load q.source ha.source hf.scopes).bind fun _ _ h =>
    selectFrom_coupled laws hexec hrun hf ha h

theorem selectBoth_coupled {left right : Query} (hf : R.Frames sheltered f g)
    (hl : R.AdmitsQuery sheltered left) (hr : R.AdmitsQuery sheltered right) :
    R.Coupled f g (fun p q => R.Rows p.1 q.1 ∧ R.Rows p.2 q.2)
      (executor.selectBoth run left right) (executor'.selectBoth run' left right) := by
  unfold Executor.selectBoth
  rw [hexec.mode]
  split
  · refine (hexec.load left.source hl.source hf.scopes).bind fun base base' hbase => ?_
    refine (selectFrom_coupled laws hexec hrun hf hl hbase).bind fun rows rows' hrows => ?_
    exact (selectFrom_coupled laws hexec hrun hf hr hbase).bind fun _ _ h => .pure ⟨hrows, h⟩
  · refine (executor_select_coupled laws hexec hrun hf hl).bind fun rows rows' hrows => ?_
    exact (executor_select_coupled laws hexec hrun hf hr).bind fun _ _ h => .pure ⟨hrows, h⟩

/-! ### Statements -/

omit laws hexec in
/-- Tables are named, and what follows runs in a frame in which they are. The innermost scopes start
out and stay related in a way that tables of corresponding rows do not change. -/
theorem defineTables_ends {α β : Type} {A : α → β → Prop} {k : Exec α} {k' : Exec β}
    {alike : Scope → Scope → Prop}
    (hgrow : ∀ {x y : Scope} (name : String) {rows rows' : List Record}, R.Rows rows rows' →
      alike x y → alike ((name, rows) :: x) ((name, rows') :: y))
    (hf : ∀ {x y : Scope}, alike x y → R.Frames sheltered (f.within x) (g.within y))
    (hk : ∀ {x y : Scope}, alike x y → R.Coupled (f.within x) (g.within y) A k k') :
    ∀ (tables : List TableExpr), R.AdmitsAll (tablesFeatures sheltered tables) →
    ∀ {x y : Scope}, alike x y → ∀ {s t : Session}, s.frame = f.within x →
    t.frame = g.within y → R.ledger s.ledger t.ledger →
    R.Ends (fun f' g' => f'.leave = f ∧ g'.leave = g) A
      ((Executor.defineTables run tables >>= fun _ => k).run.run s)
      ((Executor.defineTables run' tables >>= fun _ => k').run.run t)
  | [], _, x, y, hxy, s, t, hs, ht, hl => by
    refine (hk hxy s t hs ht hl).mono (fun f' g' h => ?_) (fun _ _ h => h)
    rw [h.1, h.2]
    exact ⟨rfl, rfl⟩
  | ⟨name, body⟩ :: rest, ha, x, y, hxy, s, t, hs, ht, hl => by
    simp only [tablesFeatures, admitsAll_append] at ha
    simp only [Executor.defineTables, bind_assoc]
    have hbody := hrun body (hf hxy) ha.1 s t hs ht hl
    rw [Exec.run_bind (run body), Exec.run_bind (run' body)]
    generalize (run body).run.run s = p at hbody ⊢
    generalize (run' body).run.run t = q at hbody ⊢
    cases hbody with
    | error hf he =>
      refine .error ?_ he
      rw [hf.1, hf.2]
      exact ⟨rfl, rfl⟩
    | @ok rows rows' s t hrows hframes hl =>
      obtain ⟨hs, ht⟩ := hframes
      obtain ⟨hs', hls⟩ := frame_define hs name rows
      obtain ⟨ht', hlt⟩ := frame_define ht name rows'
      refine defineTables_ends hgrow hf hk rest ha.2 (hgrow name hrows hxy) hs' ht' ?_
      rw [hls, hlt]
      exact hl

/-- The one or two queries of statements that differ in no more than their tables are answered
alike. -/
theorem answer_coupled (s : Statement) (hf : R.Frames sheltered f g)
    (hprimary : R.AdmitsAll (s.primary.features sheltered))
    (hcompound : R.AdmitsAll (compoundFeatures sheltered s.compound)) :
    R.Coupled f g R.Rows
      (match s.compound with
        | none => executor.select run s.primary
        | some compound => do
          let (left, right) ← executor.selectBoth run s.primary compound.right
          return compound.op.apply left right)
      (match s.compound with
        | none => executor'.select run' s.primary
        | some compound => do
          let (left, right) ← executor'.selectBoth run' s.primary compound.right
          return compound.op.apply left right) := by
  have hprimary := admitsQuery hprimary
  cases hc : s.compound with
  | none => exact executor_select_coupled laws hexec hrun hf hprimary
  | some c =>
    obtain ⟨op, right⟩ := c
    rw [hc] at hcompound
    simp only [compoundFeatures, admitsAll_cons] at hcompound
    refine (selectBoth_coupled laws hexec hrun hf hprimary (admitsQuery hcompound.2)).bind
      fun p q hpq => .pure ?_
    exact setOperation_rel laws hcompound.1 hpq.1 hpq.2

/-- **A statement is executed alike**, if those within it are. -/
theorem executeWith_coupled (s : Statement) (hf : R.Frames sheltered f g)
    (ha : R.AdmitsAll (s.features sheltered)) :
    R.Coupled f g R.Rows (executor.executeWith run s) (executor'.executeWith run' s) := by
  have ha : R.AdmitsAll (tablesFeatures sheltered s.tables) ∧
      R.AdmitsAll (s.primary.features sheltered) ∧
      R.AdmitsAll (compoundFeatures sheltered s.compound) := by
    cases s
    simpa only [Statement.features, admitsAll_append] using ha
  obtain ⟨htables, hprimary, hcompound⟩ := ha
  have hgrow : ∀ {x y : Scope} (name : String) {rows rows' : List Record}, R.Rows rows rows' →
      ScopeLike R.value x y → ScopeLike R.value ((name, rows) :: x) ((name, rows') :: y) :=
    fun _ _ _ h hxy => .cons ⟨rfl, h⟩ hxy
  refine Coupled.withScope fun t t' ht ht' hl => ?_
  refine defineTables_ends hrun hgrow (hf.within laws) (fun hxy => ?_) s.tables htables .nil ht ht' hl
  exact answer_coupled laws hexec hrun s (hf.within laws hxy) hprimary hcompound

end Queries

section Executors

variable (laws : R.Lawful) {executor executor' : Executor}
  (hexec : R.Executors executor executor')

include laws hexec

/-- Executors that correspond execute statements alike, to every depth. -/
theorem executeTo_runs : ∀ depth : Nat, R.Runs (executor.executeTo depth) (executor'.executeTo depth)
  | 0 => fun _ _ _ _ _ _ => .pure .nil
  | depth + 1 => fun _ _ _ s hf ha =>
    executeWith_coupled laws hexec (executeTo_runs depth) s hf ha

/-- **Executors that correspond execute statements alike.** -/
theorem execute_coupled (s : Statement) (hf : R.Frames sheltered f g)
    (ha : R.AdmitsAll (s.features sheltered)) :
    R.Coupled f g R.Rows (executor.execute s) (executor'.execute s) :=
  executeTo_runs laws hexec s.depth s hf ha

end Executors

end Coupling

end RowQuery
