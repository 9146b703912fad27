/-
# The cache of tables

With the cache a table is asked of the source when it is named for the first
time, and found in the cache from then on. A source gives the same answer
whenever it is asked, so results are the same without the cache; and the loads
with the cache are the first ones of each table without it.

The two executions go side by side. What relates their ledgers is that the cache
holds all tables that were loaded, as the source gives them.

Key definitions: `Ledger.Remembers`, `Coupling.cached`.
Key theorem: `run_cache_transparent`.
-/
import RowQuery.Proofs.Coupling.Engine

namespace RowQuery

open List

/-! ### Ledgers of the two executions -/

/-- The cache of a ledger holds what was loaded and nothing else, as the source gives it. -/
structure Ledger.Remembers (source : Source) (l : Ledger) : Prop where
  loaded (kind : SourceKind) (name : String) : (kind, name) ∈ l.loads →
    ∃ rows, source.load kind name = .ok rows ∧ l.cache.lookup (kind, name) = some rows
  other (kind : SourceKind) (name : String) : (kind, name) ∉ l.loads →
    l.cache.lookup (kind, name) = none

/-- The first loads of each table among all loads. -/
structure Ledger.FirstLoads (l l' : Ledger) : Prop where
  nodup : l.loads.Nodup
  eraseDups : l.loads = l'.loads.eraseDups

/-- The coupling of an execution with the cache and one without it. -/
def Coupling.cached (source : Source) : Coupling where
  value := (· = ·)
  scopes := Forall₂ (ScopeLike (· = ·))
  ledger l l' := l.Remembers source ∧ l.FirstLoads l'
  failure e e' l l' := e = e' ∧ l.FirstLoads l'
  table _ := True
  sorts := True
  identity := True
  ambient := True

namespace Ledger

variable {source : Source} {l l' : Ledger} {kind : SourceKind} {name : String}

theorem FirstLoads.mem_iff (h : l.FirstLoads l') : (kind, name) ∈ l.loads ↔ (kind, name) ∈ l'.loads := by
  rw [h.eraseDups, mem_eraseDups]

/-- A table that was loaded before is asked for again on one side. -/
theorem FirstLoads.ask_right (h : l.FirstLoads l') (hmem : (kind, name) ∈ l.loads) :
    l.FirstLoads (l'.ask kind name) := by
  refine ⟨h.nodup, ?_⟩
  have hmem := h.mem_iff.1 hmem
  rw [h.eraseDups]
  simp [ask, eraseDups_append, removeAll, hmem]

/-- A table is asked for the first time on both sides. -/
theorem FirstLoads.ask (h : l.FirstLoads l') (hmem : (kind, name) ∉ l.loads) :
    (l.ask kind name).FirstLoads (l'.ask kind name) := by
  constructor
  · refine nodup_append.2 ⟨h.nodup, pairwise_singleton _ _, fun a ha b hb hab => ?_⟩
    rw [mem_singleton.1 hb] at hab
    exact hmem (hab ▸ ha)
  · have hnew : [(kind, name)].removeAll l'.loads = [(kind, name)] := by
      simpa [removeAll] using fun hm => hmem (h.mem_iff.2 hm)
    show l.loads ++ [(kind, name)] = (l'.loads ++ [(kind, name)]).eraseDups
    rw [eraseDups_append, h.eraseDups, hnew]
    rfl

theorem FirstLoads.keep (h : l.FirstLoads l') (b b' : Bool) (rows : List Record) :
    (l.keep b kind name rows).FirstLoads (l'.keep b' kind name rows) := by
  cases b <;> cases b' <;> exact ⟨h.nodup, h.eraseDups⟩

theorem Remembers.keep (h : l.Remembers source) {rows : List Record}
    (hload : source.load kind name = .ok rows) :
    ((l.ask kind name).keep true kind name rows).Remembers source := by
  constructor
  · intro k n hmem
    by_cases hkey : (k, n) = (kind, name)
    · obtain ⟨rfl, rfl⟩ := Prod.mk.inj hkey
      exact ⟨rows, hload, lookup_cons_self⟩
    · have hmem : (k, n) ∈ l.loads := by simpa [Ledger.keep, Ledger.ask, hkey] using hmem
      obtain ⟨found, hfound, hlookup⟩ := h.loaded k n hmem
      refine ⟨found, hfound, ?_⟩
      show lookup (k, n) (((kind, name), rows) :: l.cache) = _
      rw [lookup_cons, beq_false_of_ne hkey]
      exact hlookup
  · intro k n hmem
    have hmem : (k, n) ∉ l.loads ∧ (k, n) ≠ (kind, name) := by
      simpa [Ledger.keep, Ledger.ask] using hmem
    show lookup (k, n) (((kind, name), rows) :: l.cache) = none
    rw [lookup_cons, beq_false_of_ne hmem.2]
    exact h.other k n hmem.1

end Ledger

/-! ### The executions side by side -/

namespace Coupling

variable (source : Source) (options : Options)

theorem cached_lawful : (cached source).Lawful :=
  lawful_of_eq (fun _ _ h => h) (fun _ _ => rfl) rfl

/-- A statement may have anything in it. -/
theorem cached_admits (features : List Feature) : (cached source).AdmitsAll features :=
  fun _ _ => admits_of_unrestricted (fun _ => trivial) trivial trivial (fun _ => trivial)
    fun _ _ => rfl

theorem cached_engines : (cached source).Executors
    (Engine.executor ⟨source, { options with cacheTables := true }⟩)
    (Engine.executor ⟨source, { options with cacheTables := false }⟩) := by
  refine executors_of_fetch rfl rfl rfl (.inl rfl) ?_
  rintro kind name l l' ⟨hcache, hloads⟩
  by_cases hmem : (kind, name) ∈ l.loads
  · obtain ⟨rows, hload, hlookup⟩ := hcache.loaded kind name hmem
    rw [Ledger.fetch_of_cached (Engine.executor ⟨source, { options with cacheTables := true }⟩) hlookup,
      Ledger.fetch_of_loaded _ rfl hload]
    exact .ok (rows_refl (fun _ => rfl) rows) ⟨hcache, hloads.ask_right hmem⟩
  · have hlookup := hcache.other kind name hmem
    cases hload : source.load kind name with
    | ok rows =>
      rw [Ledger.fetch_of_loaded (Engine.executor ⟨source, { options with cacheTables := true }⟩)
          hlookup hload,
        Ledger.fetch_of_loaded _ rfl hload]
      exact .ok (rows_refl (fun _ => rfl) rows)
        ⟨hcache.keep hload, (hloads.ask hmem).keep true false rows⟩
    | error e =>
      rw [Ledger.fetch_of_failed (Engine.executor ⟨source, { options with cacheTables := true }⟩)
          hlookup hload,
        Ledger.fetch_of_failed _ rfl hload]
      exact .error ⟨rfl, hloads.ask hmem⟩

/-- A statement runs alike with the cache and without it. -/
theorem cached_run (s : Statement) : (cached source).RunAlike
    (Engine.run ⟨source, { options with cacheTables := true }⟩ s)
    (Engine.run ⟨source, { options with cacheTables := false }⟩ s) := by
  have hstart : (cached source).ledger ⟨[], []⟩ ⟨[], []⟩ :=
    ⟨⟨fun _ _ h => (nomatch h), fun _ _ _ => rfl⟩, ⟨.nil, rfl⟩⟩
  exact run_alike (cached_lawful source) (cached_engines source options) .nil hstart
    (cached_admits source _)

end Coupling

/-- **The cache cannot be seen in a result.** With it a statement has the result that it has without
it; no table is loaded twice, and the loads are those without the cache, each but the first time
that it occurs. -/
theorem run_cache_transparent (source : Source) (options : Options) (s : Statement) :
    let cached := Engine.run ⟨source, { options with cacheTables := true }⟩ s
    let uncached := Engine.run ⟨source, { options with cacheTables := false }⟩ s
    cached.1 = uncached.1 ∧ cached.2.Nodup ∧ cached.2 = uncached.2.eraseDups := by
  intro cached uncached
  have h : (Coupling.cached source).RunAlike cached uncached := Coupling.cached_run source options s
  generalize cached = x at h ⊢
  generalize uncached = y at h ⊢
  cases h with
  | ok hrows hledger =>
    exact ⟨congrArg Except.ok (Coupling.Rows.eq (fun _ _ h => h) hrows), hledger.2.nodup,
      hledger.2.eraseDups⟩
  | error h =>
    have hloads := h.ledgers (P := Ledger.FirstLoads) (fun _ _ _ _ h => h.2) fun _ _ h => h.2
    exact ⟨congrArg Except.error (h.eq (fun _ _ h => h) fun _ _ _ _ h => h.1), hloads.nodup,
      hloads.eraseDups⟩

end RowQuery
