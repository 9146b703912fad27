/-
# Engines on corresponding sources

Asking for a table is about the ledger only: a function of the ledger says what
it gives and which ledger it leaves. Two executors fetch alike if these
functions do, on corresponding ledgers; engines that fetch alike run every
statement alike.

Key definitions: `Ledger.fetch`, `Coupling.FetchAlike`, `Coupling.RunAlike`,
`Ledger.Faithful`, `SourceLike`, `FailureLike`, `Coupling.ofSources`.
Key theorems: `fetch_run`, `fetch_coupled`, `executors_of_fetch`,
`lawful_of_eq`, `run_alike`, `RunAlike.result_eq`, `Faithful.fetch`, `run_of_sourceLike`.
-/
import RowQuery.Engine
import RowQuery.Proofs.Coupling.Statement
import RowQuery.Source.Memory

namespace RowQuery

open List

/-! ### Fetching as a function of the ledger -/

namespace Ledger

/-- The ledger after a table has been asked of the source. -/
def ask (l : Ledger) (kind : SourceKind) (name : String) : Ledger :=
  { l with loads := l.loads ++ [(kind, name)] }

/-- The ledger after a table has been loaded, which is kept if that is wanted. -/
def keep (l : Ledger) (wanted : Bool) (kind : SourceKind) (name : String) (rows : List Record) :
    Ledger :=
  if wanted then { l with cache := ((kind, name), rows) :: l.cache } else l

/-- A table from the cache, where it may be used. -/
def cached? (l : Ledger) (wanted : Bool) (kind : SourceKind) (name : String) :
    Option (List Record) :=
  if wanted then l.cache.lookup (kind, name) else none

/-- What fetching a table gives, and the ledger that it leaves. -/
def fetch (executor : Executor) (kind : SourceKind) (name : String) (l : Ledger) :
    Except LoadError (List Record) × Ledger :=
  match l.cached? executor.options.cacheTables kind name with
  | some rows => (.ok rows, l)
  | none =>
    match executor.load l.loads kind name with
    | .ok rows => (.ok rows, (l.ask kind name).keep executor.options.cacheTables kind name rows)
    | .error e => (.error e, l.ask kind name)

theorem lookup_of_cached {l : Ledger} {wanted : Bool} {kind : SourceKind} {name : String}
    {rows : List Record} (h : l.cached? wanted kind name = some rows) :
    l.cache.lookup (kind, name) = some rows := by
  unfold cached? at h
  split at h
  · exact h
  · cases h

variable (executor : Executor) {kind : SourceKind} {name : String} {l : Ledger}
  {rows : List Record} {e : LoadError}

theorem fetch_of_cached (h : l.cached? executor.options.cacheTables kind name = some rows) :
    l.fetch executor kind name = (.ok rows, l) := by
  unfold fetch
  rw [h]

theorem fetch_of_loaded (h : l.cached? executor.options.cacheTables kind name = none)
    (hload : executor.load l.loads kind name = .ok rows) :
    l.fetch executor kind name =
      (.ok rows, (l.ask kind name).keep executor.options.cacheTables kind name rows) := by
  unfold fetch
  rw [h, hload]

theorem fetch_of_failed (h : l.cached? executor.options.cacheTables kind name = none)
    (hload : executor.load l.loads kind name = .error e) :
    l.fetch executor kind name = (.error e, l.ask kind name) := by
  unfold fetch
  rw [h, hload]

/-- A table is in the cache, or it is asked for, and there is none or it may be kept. -/
theorem fetch_cases (l : Ledger) (executor : Executor) (kind : SourceKind) (name : String) :
    (∃ rows, l.cached? executor.options.cacheTables kind name = some rows ∧
      l.fetch executor kind name = (.ok rows, l)) ∨
    l.cached? executor.options.cacheTables kind name = none ∧
      ((∃ e, executor.load l.loads kind name = .error e ∧
        l.fetch executor kind name = (.error e, l.ask kind name)) ∨
      ∃ rows, executor.load l.loads kind name = .ok rows ∧ l.fetch executor kind name =
        (.ok rows, (l.ask kind name).keep executor.options.cacheTables kind name rows)) := by
  cases hcached : l.cached? executor.options.cacheTables kind name with
  | some rows => exact .inl ⟨rows, rfl, fetch_of_cached executor hcached⟩
  | none =>
    refine .inr ⟨rfl, ?_⟩
    cases hload : executor.load l.loads kind name with
    | error e => exact .inl ⟨e, rfl, fetch_of_failed executor hcached hload⟩
    | ok rows => exact .inr ⟨rows, rfl, fetch_of_loaded executor hcached hload⟩

end Ledger

/-- The session with another ledger. -/
def Session.withLedger (s : Session) (l : Ledger) : Session :=
  { s with cache := l.cache, loads := l.loads }

/-- **Fetching a table is about the ledger only.** -/
theorem fetch_run (executor : Executor) (kind : SourceKind) (name : String) (s : Session) :
    (executor.fetch kind name).run.run s =
      ((s.ledger.fetch executor kind name).1.mapError .load,
        s.withLedger (s.ledger.fetch executor kind name).2) := by
  unfold Executor.fetch
  rw [Exec.run_bind]
  show (match s.ledger.cached? executor.options.cacheTables kind name with
    | some rows => pure rows
    | none => _ : Exec (List Record)).run.run s = _
  unfold Ledger.fetch
  cases s.ledger.cached? executor.options.cacheTables kind name with
  | some rows => rfl
  | none =>
    have hloads : s.ledger.loads = s.loads := rfl
    dsimp only
    rw [hloads]
    cases hload : executor.load s.loads kind name with
    | error e => rfl
    | ok rows =>
      cases hcache : executor.options.cacheTables with
      | true => rfl
      | false => rfl

/-- A table that is fetched is the one that the ledger gives. -/
theorem fetch_run_ok {executor : Executor} {kind : SourceKind} {name : String} {rows : List Record}
    {s s' : Session} (h : (executor.fetch kind name).run.run s = (.ok rows, s')) :
    (s.ledger.fetch executor kind name).1 = .ok rows ∧
      s' = s.withLedger (s.ledger.fetch executor kind name).2 := by
  rw [fetch_run] at h
  obtain ⟨hresult, rfl⟩ := Prod.mk.inj h
  cases hfetch : (s.ledger.fetch executor kind name).1 with
  | ok found =>
    rw [hfetch] at hresult
    exact ⟨congrArg _ (Except.ok.inj hresult), rfl⟩
  | error e =>
    rw [hfetch] at hresult
    cases hresult

namespace Executor

variable {executor : Executor} {table : TableRef} {rows : List Record} {s : Session}

theorem loadTable_of_kind {kind : SourceKind} (h : table.kind = some kind) :
    executor.loadTable table = executor.fetch kind table.name := by
  unfold loadTable
  rw [h]

theorem loadTable_of_scoped (hkind : table.kind = none) (h : s.scoped? table.name = some rows) :
    (executor.loadTable table).run.run s = (.ok rows, s) := by
  unfold loadTable
  rw [hkind]
  dsimp only
  rw [Exec.run_get_bind, h]
  rfl

theorem loadTable_of_unscoped (hkind : table.kind = none) (h : s.scoped? table.name = none) :
    (executor.loadTable table).run.run s =
      (executor.fetch executor.options.defaultKind table.name).run.run s := by
  unfold loadTable
  rw [hkind]
  dsimp only
  rw [Exec.run_get_bind, h]

end Executor

namespace Coupling

variable {R : Coupling}

/-- Ends of a fetch that correspond. -/
inductive FetchAlike (R : Coupling) :
    Except LoadError (List Record) × Ledger → Except LoadError (List Record) × Ledger → Prop where
  | ok {rows rows' : List Record} {l l' : Ledger} (rows_rel : R.Rows rows rows')
      (ledger : R.ledger l l') : FetchAlike R (.ok rows, l) (.ok rows', l')
  | error {e e' : LoadError} {l l' : Ledger} (failure : R.failure e e' l l') :
      FetchAlike R (.error e, l) (.error e', l')

/-- Fetches with one result are alike, if rows and ledgers are. -/
theorem fetchAlike_of_eq {x y : Except LoadError (List Record) × Ledger} (h : x.1 = y.1)
    (hok : ∀ rows, x.1 = .ok rows → R.Rows rows rows ∧ R.ledger x.2 y.2)
    (herror : ∀ e, x.1 = .error e → R.failure e e x.2 y.2) : R.FetchAlike x y := by
  obtain ⟨result, l⟩ := x
  obtain ⟨result', l'⟩ := y
  subst h
  cases result with
  | ok rows => exact .ok (hok rows rfl).1 (hok rows rfl).2
  | error e => exact .error (herror e rfl)

theorem fetch_coupled {executor executor' : Executor} {f g : Frame} {kind : SourceKind}
    {name : String} (h : ∀ l l', R.ledger l l' →
      R.FetchAlike (l.fetch executor kind name) (l'.fetch executor' kind name)) :
    R.Coupled f g R.Rows (executor.fetch kind name) (executor'.fetch kind name) := by
  intro s t hs ht hl
  have hfetch := h s.ledger t.ledger hl
  rw [fetch_run, fetch_run]
  generalize s.ledger.fetch executor kind name = x at hfetch ⊢
  generalize t.ledger.fetch executor' kind name = y at hfetch ⊢
  cases hfetch with
  | ok hrows hledger => exact .ok hrows ⟨hs, ht⟩ hledger
  | error hfailure => exact .error ⟨hs, ht⟩ (.load hfailure)

/-- Executors correspond if they fetch alike, where scopes correspond name by name. -/
theorem executors_of_fetch {executor executor' : Executor}
    (hscopes : R.scopes = Forall₂ (ScopeLike R.value))
    (hdefault : executor.options.defaultKind = executor'.options.defaultKind)
    (hmode : executor.options.compoundMode = executor'.options.compoundMode)
    (hindex : R.Indexes executor.options.indexEqualities executor'.options.indexEqualities)
    (hfetch : ∀ kind name l l', R.ledger l l' →
      R.FetchAlike (l.fetch executor kind name) (l'.fetch executor' kind name)) :
    R.Executors executor executor' where
  load _ _ table _ hs :=
    loadTable_coupled_of_fetch table (hscopes ▸ hs) hdefault fun kind =>
      fetch_coupled (hfetch kind table.name)
  mode := hmode
  index := hindex

/-! ### Couplings of equal values -/

theorem rowLike_refl {value : Value → Value → Prop} (h : ∀ v, value v v) (r : Record) :
    RowLike value r r :=
  forall₂_same.2 fun p _ => ⟨rfl, h p.2⟩

theorem rows_refl {value : Value → Value → Prop} (h : ∀ v, value v v) (rows : List Record) :
    Forall₂ (RowLike value) rows rows :=
  forall₂_same.2 fun r _ => rowLike_refl h r

theorem scopes_refl {value : Value → Value → Prop} (h : ∀ v, value v v) (scopes : List Scope) :
    Forall₂ (ScopeLike value) scopes scopes :=
  forall₂_same.2 fun _ _ => forall₂_same.2 fun p _ => ⟨rfl, rows_refl h p.2⟩

theorem RowLike.eq {value : Value → Value → Prop} (hvalue : ∀ a b, value a b → a = b)
    {r r' : Record} (h : RowLike value r r') : r = r' := by
  have hfields : r.fields = r'.fields :=
    forall₂_eq (h.imp fun p q hpq => Prod.ext hpq.1 (hvalue _ _ hpq.2))
  cases r
  cases r'
  exact congrArg Record.mk hfields

theorem Rows.eq (hvalue : ∀ a b, R.value a b → a = b) {rows rows' : List Record}
    (h : R.Rows rows rows') : rows = rows' :=
  forall₂_eq (h.imp fun _ _ => RowLike.eq hvalue)

/-- A coupling of equal values is lawful if it leaves out none but not-a-number, whatever scopes it
relates, as long as it lets a scope of equal tables be entered. -/
theorem lawful_of_push (hvalue : ∀ a b, R.value a b → a = b)
    (hplain : ∀ v : Value, v.isNaN = false → R.value v v)
    (hpush : ∀ {x y : Scope} {xs ys : List Scope}, ScopeLike R.value x y → R.scopes xs ys →
      R.scopes (x :: xs) (y :: ys)) : R.Lawful where
  alike h := hvalue _ _ h ▸ .refl _
  plain := hplain
  number {a b n} h hn := by
    cases hNaN : n.isNaN with
    | false => exact hplain (.number n) hNaN
    | true =>
      obtain rfl := Value.eq_number_of_isNaN hn hNaN
      exact hvalue _ _ h ▸ h
  canonical _ h := RowLike.eq hvalue h ▸ rfl
  push := hpush

/-- Such a coupling is lawful if it relates scopes name by name. -/
theorem lawful_of_eq (hvalue : ∀ a b, R.value a b → a = b)
    (hplain : ∀ v : Value, v.isNaN = false → R.value v v)
    (hscopes : R.scopes = Forall₂ (ScopeLike R.value)) : R.Lawful :=
  lawful_of_push hvalue hplain fun hxy h => by
    rw [hscopes] at h ⊢
    exact .cons hxy h

/-- A coupling for which nothing is forbidden admits whatever has literals that correspond. -/
theorem admits_of_unrestricted (htable : ∀ t, R.table t) (hidentity : R.identity)
    (hambient : R.ambient) {x : Feature} (hsorts : x = .sortKey → R.sorts)
    (hliteral : ∀ v, x = .literal v → R.value v v) : R.Admits x := by
  cases x with
  | literal v => exact hliteral v rfl
  | window name sheltered => exact ⟨.inr hambient, fun _ => hidentity⟩
  | table t => exact htable t
  | sortKey => exact hsorts rfl
  | distinct => exact hidentity
  | setOperation op => exact .inr hidentity

/-! ### Runs -/

/-- Results that correspond, with the tables that were asked for. -/
inductive RunAlike (R : Coupling) : Except Failure (List Record) × List (SourceKind × String) →
    Except Failure (List Record) × List (SourceKind × String) → Prop where
  | ok {rows rows' : List Record} {l l' : Ledger} (rows_rel : R.Rows rows rows')
      (ledger : R.ledger l l') : RunAlike R (.ok rows, l.loads) (.ok rows', l'.loads)
  | error {e e' : Failure} {l l' : Ledger} (failure : R.Failed e e' l l') :
      RunAlike R (.error e, l.loads) (.error e', l'.loads)

/-- **Engines that correspond run statements alike.** -/
theorem run_alike {engine engine' : Engine} (laws : R.Lawful)
    (hengine : R.Executors engine.executor engine'.executor) (hscopes : R.scopes [] [])
    (hstart : R.ledger ⟨[], []⟩ ⟨[], []⟩) {s : Statement}
    (hs : R.AdmitsAll (s.features true)) : R.RunAlike (engine.run s) (engine'.run s) := by
  have hf : R.Frames true ⟨[], [], none⟩ ⟨[], [], none⟩ := ⟨.nil, hscopes, fun _ => .none⟩
  have h := execute_coupled laws hengine s hf hs .start .start rfl rfl hstart
  unfold Engine.run Executor.run
  generalize (engine.executor.execute s).run.run Session.start = x at h ⊢
  generalize (engine'.executor.execute s).run.run Session.start = y at h ⊢
  cases h with
  | ok hrows _ hledger => exact .ok hrows hledger
  | error _ hfailure => exact .error hfailure

theorem keys_eq {value : Value → Value → Prop} (hvalue : ∀ a b, value a b → a = b)
    {keys keys' : List (List Value)} (h : Forall₂ (Forall₂ value) keys keys') : keys = keys' :=
  forall₂_eq (h.imp fun _ _ h => forall₂_eq (h.imp hvalue))

/-- Failures that correspond are the same, where values correspond only if they are equal. -/
theorem Failed.eq {e e' : Failure} {l l' : Ledger} (h : R.Failed e e' l l')
    (hvalue : ∀ a b, R.value a b → a = b)
    (hfailure : ∀ e e' l l', R.failure e e' l l' → e = e') : e = e' := by
  cases h with
  | load h => exact congrArg Failure.load (hfailure _ _ _ _ h)
  | disorder _ _ h _ => exact congrArg Failure.disorder (keys_eq hvalue h)

/-- What failures to load say of the ledgers, and the ledgers of the coupling too, all failures
say. -/
theorem Failed.ledgers {e e' : Failure} {l l' : Ledger} {P : Ledger → Ledger → Prop}
    (h : R.Failed e e' l l') (hfailure : ∀ e e' l l', R.failure e e' l l' → P l l')
    (hledger : ∀ l l', R.ledger l l' → P l l') : P l l' := by
  cases h with
  | load h => exact hfailure _ _ _ _ h
  | disorder _ _ _ h => exact hledger _ _ h

/-- Executions that run alike have the same result, where values correspond only if they are
equal. -/
theorem RunAlike.result_eq {x y : Except Failure (List Record) × List (SourceKind × String)}
    (h : R.RunAlike x y) (hvalue : ∀ a b, R.value a b → a = b)
    (hfailure : ∀ e e' l l', R.failure e e' l l' → e = e') : x.1 = y.1 := by
  cases h with
  | ok hrows _ => exact congrArg Except.ok (Rows.eq hvalue hrows)
  | error h => exact congrArg Except.error (h.eq hvalue hfailure)

end Coupling

/-! ### Ledgers of a source -/

/-- What is cached is what the source gives. -/
def Ledger.Faithful (source : Source) (l : Ledger) : Prop :=
  ∀ kind name rows, l.cache.lookup (kind, name) = some rows → source.load kind name = .ok rows

theorem Ledger.faithful_start (source : Source) : Ledger.Faithful source Session.start.ledger := by
  intro kind name rows h
  cases h

/-- Fetching a table gives what the source gives, be it cached or not. -/
theorem Ledger.Faithful.fetch {source : Source} {l : Ledger} (h : l.Faithful source)
    (options : Options) (kind : SourceKind) (name : String) :
    (l.fetch (Engine.executor ⟨source, options⟩) kind name).1 = source.load kind name ∧
      (l.fetch (Engine.executor ⟨source, options⟩) kind name).2.Faithful source := by
  rcases l.fetch_cases (Engine.executor ⟨source, options⟩) kind name with
    ⟨rows, hcached, hfetch⟩ | ⟨-, ⟨e, hload, hfetch⟩ | ⟨rows, hload, hfetch⟩⟩
  · rw [hfetch]
    exact ⟨(h kind name rows (lookup_of_cached hcached)).symm, h⟩
  · rw [hfetch]
    exact ⟨hload.symm, h⟩
  · have hload : source.load kind name = .ok rows := hload
    rw [hfetch]
    refine ⟨hload.symm, ?_⟩
    unfold keep
    split
    · intro k n found hfound
      simp only [ask, lookup_cons] at hfound
      by_cases hkey : (k, n) = (kind, name)
      · rw [beq_iff_eq.2 hkey] at hfound
        obtain ⟨rfl, rfl⟩ := Prod.mk.inj hkey
        rw [hload, Option.some.inj hfound]
      · rw [beq_false_of_ne hkey] at hfound
        exact h k n found hfound
    · exact h

/-! ### Sources of related tables -/

/-- Failures that are related, or tables with related cells. -/
inductive ResultLike {ε : Type} (value : Value → Value → Prop) (failure : ε → ε → Prop) :
    Except ε (List Record) → Except ε (List Record) → Prop where
  | ok {rows rows' : List Record} (rows_rel : Forall₂ (RowLike value) rows rows') :
      ResultLike value failure (.ok rows) (.ok rows')
  | error {e e' : ε} (h : failure e e') : ResultLike value failure (.error e) (.error e')

/-- The same failure to load a table, or both failures to sort, by related keys. -/
inductive FailureLike (value : Value → Value → Prop) : Failure → Failure → Prop where
  | load (e : LoadError) : FailureLike value (.load e) (.load e)
  | disorder {keys keys' : List (List Value)} (h : Forall₂ (Forall₂ value) keys keys') :
      FailureLike value (.disorder keys) (.disorder keys')

theorem FailureLike.eq {value : Value → Value → Prop} (hvalue : ∀ a b, value a b → a = b)
    {e e' : Failure} (h : FailureLike value e e') : e = e' := by
  cases h with
  | load e => rfl
  | disorder h => exact congrArg Failure.disorder (Coupling.keys_eq hvalue h)

/-- Sources of tables with related cells. -/
def SourceLike (value : Value → Value → Prop) (source source' : Source) : Prop :=
  ∀ kind name, ResultLike value (· = ·) (source.load kind name) (source'.load kind name)

/-- The coupling of executions on sources of tables with related cells. They load the same tables
and remember them alike. -/
def Coupling.ofSources (value : Value → Value → Prop) (identity : Prop) : Coupling where
  value := value
  scopes := Forall₂ (ScopeLike value)
  ledger l l' := l.loads = l'.loads ∧ Forall₂ (Keyed (Forall₂ (RowLike value))) l.cache l'.cache
  failure e e' l l' := e = e' ∧ l.loads = l'.loads
  table _ := True
  sorts := True
  identity := identity
  ambient := True

section Sources

variable {value : Value → Value → Prop} {identity : Prop} {source source' : Source}
  {options options' : Options}

theorem fetchAlike_of_sourceLike (hsource : SourceLike value source source')
    (hcache : options.cacheTables = options'.cacheTables) (kind : SourceKind) (name : String)
    {l l' : Ledger} (h : (Coupling.ofSources value identity).ledger l l') :
    (Coupling.ofSources value identity).FetchAlike
      (l.fetch (Engine.executor ⟨source, options⟩) kind name)
      (l'.fetch (Engine.executor ⟨source', options'⟩) kind name) := by
  obtain ⟨hloads, hkept⟩ := h
  have hask : (l.ask kind name).loads = (l'.ask kind name).loads :=
    congrArg (· ++ [(kind, name)]) hloads
  have hcached : Option.Rel (Forall₂ (RowLike value)) (l.cached? options.cacheTables kind name)
      (l'.cached? options'.cacheTables kind name) := by
    rw [← hcache]
    unfold Ledger.cached?
    cases options.cacheTables with
    | true => exact lookup_rel _ hkept
    | false => exact .none
  have hload := hsource kind name
  unfold Ledger.fetch Engine.executor
  dsimp only
  generalize l.cached? options.cacheTables kind name = o at hcached ⊢
  generalize l'.cached? options'.cacheTables kind name = o' at hcached ⊢
  cases hcached with
  | some hrows => exact .ok hrows ⟨hloads, hkept⟩
  | none =>
    dsimp only
    generalize source.load kind name = r at hload ⊢
    generalize source'.load kind name = r' at hload ⊢
    cases hload with
    | error h => exact .error ⟨h, hask⟩
    | ok hrows =>
      refine .ok hrows ?_
      rw [← hcache]
      unfold Ledger.keep
      split
      · exact ⟨hask, .cons ⟨rfl, hrows⟩ hkept⟩
      · exact ⟨hask, hkept⟩

/-- **A statement answers alike on sources of related tables**, if the coupling of their cells is
lawful and admits the statement. -/
theorem run_of_sourceLike (options options' : Options)
    (laws : (Coupling.ofSources value identity).Lawful)
    (hsource : SourceLike value source source')
    (hcache : options.cacheTables = options'.cacheTables)
    (hdefault : options.defaultKind = options'.defaultKind)
    (hmode : options.compoundMode = options'.compoundMode)
    (hindex : (Coupling.ofSources value identity).Indexes options.indexEqualities
      options'.indexEqualities) {s : Statement}
    (hs : (Coupling.ofSources value identity).AdmitsAll (s.features true)) :
    ResultLike value (FailureLike value) (Engine.run ⟨source, options⟩ s).1
        (Engine.run ⟨source', options'⟩ s).1 ∧
      (Engine.run ⟨source, options⟩ s).2 = (Engine.run ⟨source', options'⟩ s).2 := by
  have hengine : (Coupling.ofSources value identity).Executors
      (Engine.executor ⟨source, options⟩) (Engine.executor ⟨source', options'⟩) :=
    Coupling.executors_of_fetch rfl hdefault hmode hindex
      fun kind name _ _ h => fetchAlike_of_sourceLike hsource hcache kind name h
  have h := Coupling.run_alike laws hengine .nil ⟨rfl, .nil⟩ hs
  generalize Engine.run ⟨source, options⟩ s = x at h ⊢
  generalize Engine.run ⟨source', options'⟩ s = y at h ⊢
  cases h with
  | ok hrows hledger => exact ⟨.ok hrows, hledger.1⟩
  | error h =>
    cases h with
    | load h =>
      obtain ⟨rfl, hloads⟩ := h
      exact ⟨.error (.load _), hloads⟩
    | disorder _ _ hkeys hledger => exact ⟨.error (.disorder hkeys), hledger.1⟩

theorem SourceLike.memory {tables tables' : List (String × List Record)}
    (h : Forall₂ (Keyed (Forall₂ (RowLike value))) tables tables') :
    SourceLike value (Source.memory tables) (Source.memory tables') := by
  intro kind name
  have hlookup := lookup_rel name (rel_reverse h)
  rw [Source.memory_load, Source.memory_load]
  generalize tables.reverse.lookup name = o at hlookup ⊢
  generalize tables'.reverse.lookup name = o' at hlookup ⊢
  cases hlookup with
  | none => exact .error rfl
  | some hrows => exact .ok hrows

end Sources

end RowQuery
