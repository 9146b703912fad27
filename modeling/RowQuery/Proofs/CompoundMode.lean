/-
# One table for both queries of a set operation

The two queries of a set operation get their rows from one table, or each from
its own. Where both name the same table, this makes no difference: with the
cache, a table that was loaded is at hand from then on, so it is found again
when the second query asks for it, whatever the first one has loaded since. The
scopes in which a name is looked up first are those of the statement in both
places.

Without the cache a table is loaded twice, and the source gives the same rows
again: results without the cache are those with it.

Key definitions: `Statement.OnOneTable`, `Ledger.Extends`, `Executor.AtHand`.
Key theorems: `atHand_of_loaded`, `selectBoth_shared`, `execute_modes`,
`run_compound_modes`.
-/
import RowQuery.Proofs.Cache
import RowQuery.Proofs.Coupling.Alone
import RowQuery.Proofs.Depth

namespace RowQuery

open List

/-- In a statement, and in all statements within it, both queries of a set operation name the same
table. They may give it different names of their own. -/
inductive Statement.OnOneTable : Statement → Prop where
  | intro {s : Statement}
    (branches : ∀ c, s.compound = some c →
      c.right.source.kind = s.primary.source.kind ∧ c.right.source.name = s.primary.source.name)
    (within : ∀ t ∈ s.within, OnOneTable t) : OnOneTable s

/-! ### Tables at hand -/

/-- What a ledger has in its cache is in that of another one too. -/
def Ledger.Extends (l l' : Ledger) : Prop :=
  ∀ key rows, l.cache.lookup key = some rows → l'.cache.lookup key = some rows

namespace Ledger

variable {l l' : Ledger} {executor : Executor}

theorem Extends.trans {l'' : Ledger} (h : l.Extends l') (h' : l'.Extends l'') : l.Extends l'' :=
  fun key rows hrows => h' key rows (h key rows hrows)

/-- Only a table that is not in the cache is put there, so none is lost. -/
theorem extends_fetch (hcache : executor.options.cacheTables = true) (l : Ledger)
    (kind : SourceKind) (name : String) : l.Extends (l.fetch executor kind name).2 := by
  rcases l.fetch_cases executor kind name with
    ⟨rows, -, hfetch⟩ | ⟨hnone, ⟨e, -, hfetch⟩ | ⟨rows, -, hfetch⟩⟩
  · rw [hfetch]
    exact fun _ _ h => h
  · rw [hfetch]
    exact fun _ _ h => h
  · rw [hcache] at hnone
    rw [hfetch, hcache]
    intro key found hfound
    show lookup key (((kind, name), rows) :: l.cache) = some found
    have hne : key ≠ (kind, name) := by
      rintro rfl
      cases hfound.symm.trans hnone
    rw [lookup_cons, beq_false_of_ne hne]
    exact hfound

/-- What was fetched is in the cache. -/
theorem lookup_fetch (hcache : executor.options.cacheTables = true) {kind : SourceKind}
    {name : String} {rows : List Record} (h : l.fetch executor kind name = (.ok rows, l')) :
    l'.cache.lookup (kind, name) = some rows := by
  rcases l.fetch_cases executor kind name with
    ⟨found, hcached, hfetch⟩ | ⟨-, ⟨e, -, hfetch⟩ | ⟨found, -, hfetch⟩⟩
  · obtain ⟨hrows, rfl⟩ := Prod.mk.inj (hfetch.symm.trans h)
    obtain rfl := Except.ok.inj hrows
    rw [hcache] at hcached
    exact hcached
  · cases (Prod.mk.inj (hfetch.symm.trans h)).1
  · rw [hcache] at hfetch
    obtain ⟨hrows, rfl⟩ := Prod.mk.inj (hfetch.symm.trans h)
    obtain rfl := Except.ok.inj hrows
    exact lookup_cons_self

end Ledger

namespace Executor

variable {executor : Executor} {table : TableRef} {rows : List Record} {s s' : Session}

/-- The rows of a table can be had without any change to the session. -/
def AtHand (executor : Executor) (table : TableRef) (rows : List Record) (s : Session) : Prop :=
  (executor.loadTable table).run.run s = (.ok rows, s)

/-- A table of the cache is at hand. -/
theorem fetch_of_lookup (hcache : executor.options.cacheTables = true) {kind : SourceKind}
    {name : String} (h : s.ledger.cache.lookup (kind, name) = some rows) :
    (executor.fetch kind name).run.run s = (.ok rows, s) := by
  have hcached : s.ledger.cached? executor.options.cacheTables kind name = some rows := by
    rw [hcache]
    exact h
  rw [fetch_run, Ledger.fetch_of_cached executor hcached]
  rfl

/-- **A table that was loaded stays at hand** as long as the scopes are the same and the cache loses
nothing. -/
theorem atHand_of_loaded (hcache : executor.options.cacheTables = true)
    (hload : (executor.loadTable table).run.run s = (.ok rows, s')) {s'' : Session}
    (hframe : s''.frame = s.frame) (hextends : s'.ledger.Extends s''.ledger) :
    executor.AtHand table rows s'' := by
  have hfetch : ∀ kind name, (executor.fetch kind name).run.run s = (.ok rows, s') →
      (executor.fetch kind name).run.run s'' = (.ok rows, s'') := by
    intro kind name h
    obtain ⟨hresult, rfl⟩ := fetch_run_ok h
    exact fetch_of_lookup hcache (hextends _ _ (Ledger.lookup_fetch hcache (Prod.ext hresult rfl)))
  have hscoped : s''.scoped? table.name = s.scoped? table.name :=
    congrArg (fun f : Frame => f.scopes.findSome? (lookup table.name)) hframe
  unfold AtHand
  cases hkind : table.kind with
  | some kind =>
    rw [loadTable_of_kind hkind] at hload ⊢
    exact hfetch kind table.name hload
  | none =>
    cases hfound : s.scoped? table.name with
    | some found =>
      rw [loadTable_of_scoped hkind hfound] at hload
      obtain rfl := Except.ok.inj (Prod.mk.inj hload).1
      exact loadTable_of_scoped hkind (hscoped.trans hfound)
    | none =>
      rw [loadTable_of_unscoped hkind hfound] at hload
      rw [loadTable_of_unscoped hkind (hscoped.trans hfound)]
      exact hfetch _ _ hload

theorem loadTable_congr {table table' : TableRef} (hkind : table.kind = table'.kind)
    (hname : table.name = table'.name) : executor.loadTable table = executor.loadTable table' := by
  unfold loadTable
  rw [hkind, hname]

end Executor

/-! ### Actions that lose nothing of the cache -/

namespace Coupling

/-- The coupling of an execution with itself that keeps what a ledger has in its cache. -/
abbrev extending (l : Ledger) : Coupling := alone True l.Extends (fun _ _ => True)

theorem extending_executors {executor : Executor} (hcache : executor.options.cacheTables = true)
    (l : Ledger) : (extending l).Executors executor executor :=
  alone_executors fun l' kind name hl => by
    have hfetch := hl.trans (Ledger.extends_fetch hcache l' kind name)
    cases (l'.fetch executor kind name).1 with
    | ok _ => exact hfetch
    | error _ => trivial

/-- What such an action leaves behind when it has a result. -/
theorem leaves_extending {α : Type} {A : α → α → Prop} {m : Exec α} {a : α} {s s' : Session}
    (h : (extending s.ledger).Coupled s.frame s.frame A m m) (hrun : m.run.run s = (.ok a, s')) :
    s'.frame = s.frame ∧ s.ledger.Extends s'.ledger := by
  have hleaves := h.leaves fun _ _ h => h
  rw [hrun] at hleaves
  exact hleaves

variable {executor : Executor} (hcache : executor.options.cacheTables = true)

include hcache

theorem loadTable_leaves {table : TableRef} {s s' : Session} {rows : List Record}
    (h : (executor.loadTable table).run.run s = (.ok rows, s')) : s'.frame = s.frame :=
  (leaves_extending ((extending_executors hcache s.ledger).load table trivial
    (alone_frames s.frame true).scopes) h).1

/-- A query over rows gives back its frame and loses nothing of the cache. -/
theorem selectFrom_leaves {q : Query} {base : List Record} {s s' : Session} {result : List Record}
    (h : (executor.selectFrom executor.execute q base).run.run s = (.ok result, s')) :
    s'.frame = s.frame ∧ s.ledger.Extends s'.ledger := by
  have hexec := extending_executors hcache s.ledger
  have hrun : (extending s.ledger).Runs executor.execute executor.execute :=
    fun _ _ _ t hf ha => execute_coupled alone_lawful hexec t hf ha
  exact leaves_extending (selectFrom_coupled alone_lawful hexec hrun (alone_frames s.frame true)
    (admitsQuery (alone_admits fun _ => trivial)) (alone_rows base)) h

end Coupling

/-! ### The two modes -/

namespace Executor

/-- The executor with another place where set operations get their rows from. -/
def withMode (executor : Executor) (mode : CompoundMode) : Executor :=
  { executor with options := { executor.options with compoundMode := mode } }

variable {executor : Executor} {run : Runner}

theorem joinAll_withMode (mode : CompoundMode) : ∀ joins : List Join,
    (executor.withMode mode).joinAll run joins = executor.joinAll run joins
  | [] => rfl
  | join :: rest => by
    funext rows
    unfold joinAll
    rw [joinAll_withMode mode rest]
    rfl

theorem selectFrom_withMode (mode : CompoundMode) (q : Query) :
    (executor.withMode mode).selectFrom run q = executor.selectFrom run q := by
  funext base
  unfold selectFrom prepare
  rw [joinAll_withMode]
  rfl

/-- Which queries there are to answer does not depend on where they get their rows from, except for
those of set operations. -/
theorem executeWith_withMode (mode : CompoundMode) (s : Statement)
    (hboth : ∀ c, s.compound = some c → (executor.withMode mode).selectBoth run s.primary c.right =
      executor.selectBoth run s.primary c.right) :
    (executor.withMode mode).executeWith run s = executor.executeWith run s := by
  unfold executeWith
  cases hc : s.compound with
  | none =>
    unfold select
    rw [selectFrom_withMode]
    rfl
  | some c =>
    dsimp only
    rw [hboth c hc]

/-- **Two queries of one table** have the same results whether they share its rows or each loads
it: after the first query the table is still at hand. -/
theorem selectBoth_shared (hcache : executor.options.cacheTables = true)
    (hmode : executor.options.compoundMode = .independent) {left right : Query}
    (hkind : right.source.kind = left.source.kind) (hname : right.source.name = left.source.name) :
    (executor.withMode .shared).selectBoth executor.execute left right =
      executor.selectBoth executor.execute left right := by
  have hshared : (executor.withMode .shared).selectBoth executor.execute left right =
      executor.loadTable left.source >>= fun base =>
        executor.selectFrom executor.execute left base >>= fun l =>
          executor.selectFrom executor.execute right base >>= fun r => pure (l, r) := by
    unfold selectBoth
    rw [selectFrom_withMode, selectFrom_withMode]
    rfl
  have hindependent : executor.selectBoth executor.execute left right =
      executor.loadTable left.source >>= fun base =>
        executor.selectFrom executor.execute left base >>= fun l =>
          executor.loadTable left.source >>= fun base =>
            executor.selectFrom executor.execute right base >>= fun r => pure (l, r) := by
    unfold selectBoth select
    rw [hmode, loadTable_congr hkind hname]
    simp only [bind_assoc]
  rw [hshared, hindependent]
  refine ExceptT.ext (funext fun s => ?_)
  show StateT.run (ExceptT.run _) s = StateT.run (ExceptT.run _) s
  rw [Exec.run_bind, Exec.run_bind (executor.loadTable left.source)]
  generalize hload : (executor.loadTable left.source).run.run s = loaded
  obtain ⟨e | base, s₁⟩ := loaded
  · rfl
  · dsimp only
    rw [Exec.run_bind, Exec.run_bind (executor.selectFrom executor.execute left base)]
    generalize hleft : (executor.selectFrom executor.execute left base).run.run s₁ = selected
    obtain ⟨e | l, s₂⟩ := selected
    · rfl
    · have hloaded := (Coupling.loadTable_leaves hcache hload)
      obtain ⟨hframe, hextends⟩ := Coupling.selectFrom_leaves hcache hleft
      have hhand : executor.AtHand left.source base s₂ :=
        atHand_of_loaded hcache hload (hframe.trans hloaded) hextends
      dsimp only
      rw [Exec.run_bind (executor.loadTable left.source), hhand]

/-- **Both modes execute a statement alike** if its set operations are on one table each. -/
theorem execute_modes (hcache : executor.options.cacheTables = true)
    (hmode : executor.options.compoundMode = .independent) {s : Statement} (h : s.OnOneTable) :
    (executor.withMode .shared).execute s = executor.execute s := by
  induction h with
  | @intro s branches _ ih =>
    rw [execute_eq, execute_eq, executeWith_agrees _ ih]
    refine executeWith_withMode .shared s fun c hc => ?_
    obtain ⟨hkind, hname⟩ := branches c hc
    exact selectBoth_shared hcache hmode hkind hname

end Executor

/-- **The modes of set operations agree** on statements whose set operations are on one table each,
with the cache or without it. -/
theorem run_compound_modes (source : Source) (options : Options) {s : Statement}
    (h : s.OnOneTable) :
    (Engine.run ⟨source, { options with compoundMode := .shared }⟩ s).1 =
      (Engine.run ⟨source, { options with compoundMode := .independent }⟩ s).1 := by
  have hcached : ∀ cache : Bool, ∀ mode : CompoundMode,
      (Engine.run ⟨source, { options with compoundMode := mode, cacheTables := cache }⟩ s).1 =
        (Engine.run ⟨source, { options with compoundMode := mode, cacheTables := true }⟩ s).1 := by
    intro cache mode
    cases cache with
    | true => rfl
    | false =>
      have hrun := Coupling.cached_run source { options with compoundMode := mode } s
      exact (hrun.result_eq (fun _ _ h => h) fun _ _ _ _ hfailure => hfailure.1).symm
  let executor := Engine.executor
    ⟨source, { options with compoundMode := .independent, cacheTables := true }⟩
  have hexecute : (executor.withMode .shared).execute s = executor.execute s :=
    Executor.execute_modes rfl rfl h
  have hrun := hcached options.cacheTables
  calc (Engine.run ⟨source, { options with compoundMode := .shared }⟩ s).1
    _ = (((executor.withMode .shared).execute s).run.run .start).1 := hrun .shared
    _ = ((executor.execute s).run.run .start).1 := by rw [hexecute]
    _ = (Engine.run ⟨source, { options with compoundMode := .independent }⟩ s).1 :=
      (hrun .independent).symm

/-- `WITH t AS (SELECT * FROM t UNION SELECT * FROM t AS x) SELECT * FROM t AS x CROSS JOIN u EXCEPT
SELECT * FROM t`: the name is that of a table of the source first, and then of a table expression. -/
theorem run_compound_modes_shadowed :
    let union : Statement :=
      ⟨[], .all "t", some ⟨.union, { Query.all "t" with source := ⟨none, "t", some "x"⟩ }⟩⟩
    let joined : Query :=
      { Query.all "t" with source := ⟨none, "t", some "x"⟩, joins := [⟨.cross, ⟨none, "u", none⟩, none⟩] }
    let s : Statement := ⟨[⟨"t", union⟩], joined, some ⟨.except, .all "t"⟩⟩
    let source : Source := .memory [("t", [⟨[("a", .integer 1)]⟩]), ("u", [])]
    s.OnOneTable ∧
      (Engine.run ⟨source, { compoundMode := .shared }⟩ s).1 =
        (Engine.run ⟨source, { compoundMode := .independent }⟩ s).1 := by
  intro union joined s source
  have hunion : union.OnOneTable := by
    refine .intro (fun c hc => ?_) fun t ht => absurd ht not_mem_nil
    obtain rfl := Option.some.inj hc
    exact ⟨rfl, rfl⟩
  have hs : s.OnOneTable := by
    refine .intro (fun c hc => ?_) fun t ht => ?_
    · obtain rfl := Option.some.inj hc
      exact ⟨rfl, rfl⟩
    · obtain rfl : t = union := by simpa [s, joined, Statement.within, Query.statements,
        itemsStatements, joinsStatements, compoundStatements, Query.all] using ht
      exact hunion
  exact ⟨hs, run_compound_modes source {} hs⟩

end RowQuery
