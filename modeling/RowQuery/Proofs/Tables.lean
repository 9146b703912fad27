/-
# Tables of one kind

If all tables that a loader gives have a property, and all tables that a session
knows have it, then so has every table that is loaded: it is found in a scope or in
the cache, or it comes from the loader. The cache gets no tables but these.

Key definitions: `Executor.LoadsOnly`, `Ledger.CachesOnly`, `Session.KnowsOnly`.
Key theorems: `CachesOnly.fetch`, `loadTable_knows`, `knows_executors`.
-/
import RowQuery.Proofs.Coupling.Alone

namespace RowQuery

open List

variable {p : List Record → Prop}

/-- All tables that a loader gives have a property. -/
def Executor.LoadsOnly (p : List Record → Prop) (executor : Executor) : Prop :=
  ∀ loads kind name rows, executor.load loads kind name = .ok rows → p rows

/-- All tables of a cache have a property. -/
def Ledger.CachesOnly (p : List Record → Prop) (l : Ledger) : Prop := ∀ entry ∈ l.cache, p entry.2

/-- All tables that may be found in a session have a property. -/
structure Session.KnowsOnly (p : List Record → Prop) (s : Session) : Prop where
  scopes : ∀ scope ∈ s.scopes, ∀ table ∈ scope, p table.2
  cache : s.ledger.CachesOnly p

theorem Session.knowsOnly_start : Session.start.KnowsOnly p := ⟨forall_mem_nil _, forall_mem_nil _⟩

/-- Tables in memory that all have a property. -/
theorem Source.memory_loadsOnly {tables : List (String × List Record)} (h : ∀ t ∈ tables, p t.2)
    (options : Options) : (Engine.executor ⟨.memory tables, options⟩).LoadsOnly p := by
  intro _ kind name rows hload
  have hload : (Source.memory tables).load kind name = .ok rows := hload
  rw [memory_load] at hload
  cases hfound : tables.reverse.lookup name with
  | none =>
    rw [hfound] at hload
    cases hload
  | some found =>
    rw [hfound] at hload
    obtain rfl := Except.ok.inj hload
    obtain ⟨before, after, hsplit, -⟩ := lookup_eq_some_iff.1 hfound
    have hmem : (name, found) ∈ tables.reverse := hsplit ▸ mem_append_right before mem_cons_self
    exact h _ (mem_reverse.1 hmem)

variable {executor : Executor} (hload : executor.LoadsOnly p)

include hload

theorem Ledger.CachesOnly.fetch {l : Ledger} (h : l.CachesOnly p) (kind : SourceKind)
    (name : String) : (∀ rows, (l.fetch executor kind name).1 = .ok rows → p rows) ∧
      (l.fetch executor kind name).2.CachesOnly p := by
  rcases l.fetch_cases executor kind name with
    ⟨rows, hcached, hfetch⟩ | ⟨-, ⟨e, -, hfetch⟩ | ⟨rows, hloaded, hfetch⟩⟩
  · obtain ⟨_, _, hcache, -⟩ := lookup_eq_some_iff.1 (lookup_of_cached hcached)
    have hmem : ((kind, name), rows) ∈ l.cache := by
      rw [hcache]
      exact mem_append_right _ mem_cons_self
    rw [hfetch]
    exact ⟨fun _ hfound => Except.ok.inj hfound ▸ h _ hmem, h⟩
  · rw [hfetch]
    exact ⟨nofun, h⟩
  · have hrows : p rows := hload _ _ _ _ hloaded
    rw [hfetch]
    refine ⟨fun _ hfound => Except.ok.inj hfound ▸ hrows, ?_⟩
    unfold keep
    split
    · exact forall_mem_cons.2 ⟨hrows, h⟩
    · exact h

/-- **A table that is loaded has the property**, and the session that it leaves knows no others. -/
theorem loadTable_knows {table : TableRef} {rows : List Record} {s s' : Session}
    (hs : s.KnowsOnly p) (h : (executor.loadTable table).run.run s = (.ok rows, s')) :
    p rows ∧ s'.KnowsOnly p := by
  have hfetch : ∀ kind, (executor.fetch kind table.name).run.run s = (.ok rows, s') →
      p rows ∧ s'.KnowsOnly p := by
    intro kind h
    obtain ⟨hresult, rfl⟩ := fetch_run_ok h
    obtain ⟨hrows, hcache⟩ := hs.cache.fetch hload kind table.name
    exact ⟨hrows rows hresult, hs.scopes, hcache⟩
  cases hkind : table.kind with
  | some kind =>
    rw [Executor.loadTable_of_kind hkind] at h
    exact hfetch kind h
  | none =>
    cases hscoped : s.scoped? table.name with
    | none =>
      rw [Executor.loadTable_of_unscoped hkind hscoped] at h
      exact hfetch _ h
    | some found =>
      rw [Executor.loadTable_of_scoped hkind hscoped] at h
      obtain ⟨hrows, rfl⟩ := Prod.mk.inj h
      obtain rfl := Except.ok.inj hrows
      obtain ⟨scope, hscope, hlookup⟩ := exists_of_findSome?_eq_some hscoped
      obtain ⟨_, _, hentries, -⟩ := lookup_eq_some_iff.1 hlookup
      have hmem : (table.name, found) ∈ scope := by
        rw [hentries]
        exact mem_append_right _ mem_cons_self
      exact ⟨hs.scopes scope hscope _ hmem, hs⟩

namespace Coupling

/-- An execution by itself leaves a cache of the tables that it may load. -/
theorem knows_executors :
    (alone True (Ledger.CachesOnly p) fun _ l => l.CachesOnly p).Executors executor executor :=
  alone_executors fun l kind name hl => by
    have hcache := (hl.fetch hload kind name).2
    cases (l.fetch executor kind name).1 with
    | ok _ => exact hcache
    | error _ => exact hcache

end Coupling

end RowQuery
