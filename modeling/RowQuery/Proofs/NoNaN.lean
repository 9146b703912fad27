/-
# Not-a-number is never computed

Arithmetic has a finite result or none, whatever infinities come in; what builds a
floating-point number outside of it (means, rounding, absolute values) makes no
not-a-number either. A cell is not-a-number therefore only if it was loaded so,
or if it stands as a literal, which no text makes: a numeral that is too long is
infinite.

An execution is coupled with itself, values being related to themselves if they are
no not-a-number. So whatever is computed in a session without not-a-number is none,
and the session that is left has none: what is executed next starts in such a session
again.

Key definitions: `HoldNoNaN`, `Session.HoldsNoNaN`, `Exec.Spares`, `Coupling.clean`.
Key theorems: `clean_executors`, `Coupled.spares`, `BinaryOp.apply_finite`, `no_nan_computed`.
-/
import RowQuery.Proofs.Index.Transparent
import RowQuery.Proofs.Tables

namespace RowQuery

open List

/-! ### Sessions without not-a-number -/

/-- Rows without a cell that holds not-a-number. -/
abbrev HoldNoNaN (rows : List Record) : Prop := ∀ r ∈ rows, r.HoldsNoNaN

/-- A session in which no value that an expression may come by is not-a-number. -/
structure Session.HoldsNoNaN (s : Session) : Prop where
  outer : HoldNoNaN s.outer
  population : ∀ rows ∈ s.population, HoldNoNaN rows
  tables : s.KnowsOnly HoldNoNaN

theorem Session.holdsNoNaN_start : Session.start.HoldsNoNaN :=
  ⟨forall_mem_nil _, nofun, Session.knowsOnly_start⟩

/-- Started in a session without not-a-number, an action leaves such a session, whatever it ends
with, and has no results but those with a property. -/
def Exec.Spares {α : Type} (p : α → Prop) (m : Exec α) : Prop :=
  ∀ s : Session, s.HoldsNoNaN →
    (m.run.run s).2.HoldsNoNaN ∧ ∀ a, (m.run.run s).1 = .ok a → p a

/-! ### Executions without not-a-number -/

namespace Coupling

/-- The coupling of an execution with itself, on values that are no not-a-number. -/
def clean : Coupling where
  value a b := a = b ∧ a.isNaN = false
  scopes := Forall₂ (ScopeLike fun a b => a = b ∧ a.isNaN = false)
  ledger l l' := l = l' ∧ l.CachesOnly HoldNoNaN
  failure e e' l l' := (e = e' ∧ l = l') ∧ l.CachesOnly HoldNoNaN
  table _ := True
  sorts := True
  identity := True
  ambient := True

theorem clean_lawful : clean.Lawful :=
  lawful_of_eq (fun _ _ h => h.1) (fun _ h => ⟨rfl, h⟩) rfl

theorem clean_row {r : Record} : clean.Row r r ↔ r.HoldsNoNaN :=
  forall₂_same.trans (forall₂_congr fun _ _ => by simp [Keyed, clean])

theorem clean_rows {rows : List Record} : clean.Rows rows rows ↔ HoldNoNaN rows :=
  forall₂_same.trans (forall₂_congr fun _ _ => clean_row)

/-- A statement may have anything in it but not-a-number. -/
theorem clean_admits {features : Bool → List Feature} (h : Plain features) :
    clean.AdmitsAll (features true) := fun _ hx =>
  admits_of_unrestricted (fun _ => trivial) trivial trivial (fun _ => trivial) fun v hv =>
    ⟨rfl, h true (.literal v) (hv ▸ hx)⟩

theorem clean_frames {s : Session} (h : s.HoldsNoNaN) : clean.Frames true s.frame s.frame where
  outer := clean_rows.2 h.outer
  scopes := forall₂_same.2 fun scope hscope => forall₂_same.2 fun table htable =>
    ⟨rfl, clean_rows.2 (h.tables.scopes scope hscope table htable)⟩
  population _ := by
    have hpopulation := h.population
    show Option.Rel _ s.population s.population
    cases hrows : s.population with
    | none => exact .none
    | some rows => exact .some (clean_rows.2 (hpopulation rows hrows))

/-- An executor loads no not-a-number if its loader gives none. -/
theorem clean_executors {executor : Executor} (hload : executor.LoadsOnly HoldNoNaN) :
    clean.Executors executor executor := by
  refine executors_of_fetch rfl rfl rfl (.inl rfl) ?_
  rintro kind name l _ ⟨rfl, hl⟩
  obtain ⟨hrows, hcache⟩ := hl.fetch hload kind name
  exact fetchAlike_of_eq rfl (fun rows h => ⟨clean_rows.2 (hrows rows h), rfl, hcache⟩)
    fun _ _ => ⟨⟨rfl, rfl⟩, hcache⟩

/-- **An action that is coupled with itself computes no not-a-number**, and leaves none. -/
theorem Coupled.spares {α : Type} {A : α → α → Prop} {p : α → Prop} {m : Exec α}
    (h : ∀ f, clean.Frames true f f → clean.Coupled f f A m m) (hp : ∀ a, A a a → p a) :
    Exec.Spares p m := by
  intro s hs
  -- The action runs beside itself from one session, so its two ends are the same end.
  have hends := h s.frame (clean_frames hs) s s rfl rfl ⟨rfl, hs.tables.cache⟩
  have hleft : ∀ s' : Session, s'.frame = s.frame → s'.ledger.CachesOnly HoldNoNaN →
      s'.HoldsNoNaN := fun s' hframe hcache => by
    obtain ⟨houter, hscopes, hpopulation⟩ := Frame.mk.injEq .. ▸ hframe
    refine ⟨?_, ?_, ?_, hcache⟩
    · rw [houter]
      exact hs.outer
    · rw [hpopulation]
      exact hs.population
    · rw [hscopes]
      exact hs.tables.scopes
  generalize m.run.run s = x at hends ⊢
  cases hends with
  | ok hvalue hframes hledger =>
    exact ⟨hleft _ hframes.1 hledger.2, fun _ heq => Except.ok.inj heq ▸ hp _ hvalue⟩
  | error hframes hfailure =>
    exact ⟨hleft _ hframes.1 (hfailure.ledgers (P := fun l _ => l.CachesOnly HoldNoNaN)
      (fun _ _ _ _ h => h.2) fun _ _ h => h.2), nofun⟩

end Coupling

/-! ### Arithmetic -/

/-- **Arithmetic gives null, an integer or a finite number**, whatever values it is given. -/
theorem Value.arithmetic_finite {op : Number → Number → Option Number}
    (hop : ∀ {m n r : Number}, op m n = some r → r.isFinite = true) (a b : Value) :
    Value.arithmetic op a b = .null ∨ (∃ n, Value.arithmetic op a b = .integer n) ∨
      ∃ x, Value.arithmetic op a b = .float x ∧ x.isFinite = true := by
  unfold arithmetic
  split
  · rename_i m n _ _
    cases hresult : op m n with
    | none => exact .inl rfl
    | some r =>
      cases r with
      | integer n => exact .inr (.inl ⟨n, rfl⟩)
      | float x => exact .inr (.inr ⟨x, rfl, hop hresult⟩)
  · exact .inl rfl

/-! ### Everything that is computed -/

open Coupling in
/-- **Not-a-number is never computed.** Where a loader gives no cell that is not-a-number, whatever
it answers when, and in a session without not-a-number, there is none among the values of
expressions and aggregates on rows without it, the cells and sort keys of results, and the rows of
joins, queries and statements; and none is left in the session, also after a failure. What is read
from a text has none among its literals. Arithmetic gives null, an integer or a finite number, on
any values at all. -/
theorem no_nan_computed {executor : Executor} (hload : executor.LoadsOnly HoldNoNaN) :
    (∀ (depth : Nat) (e : Expr) (row : Record), e.Plain → row.HoldsNoNaN →
      Exec.Spares (·.isNaN = false) (e.evaluate (executor.executeTo depth) row)) ∧
    (∀ (depth : Nat) (args : List Expr) (f : Aggregate) (rows : List Record),
      (∀ e ∈ args, e.Plain) → HoldNoNaN rows →
      Exec.Spares (·.isNaN = false) (Expr.aggregate (executor.executeTo depth) args f rows)) ∧
    (∀ (depth : Nat) (e : Expr) (group : List Record) (row : Record), e.Plain → HoldNoNaN group →
      row.HoldsNoNaN →
      Exec.Spares (·.isNaN = false) (e.evaluateGrouped (executor.executeTo depth) group row)) ∧
    (∀ (depth : Nat) (q : Query) (rows : List Record), q.Plain → HoldNoNaN rows →
      Exec.Spares (fun results => ∀ result ∈ results,
        result.record.HoldsNoNaN ∧ ∀ key ∈ result.keys, key.isNaN = false)
        (q.project (executor.executeTo depth) rows)) ∧
    (∀ (depth : Nat) (joins : List Join) (rows : List Record), (∀ j ∈ joins, j.Plain) →
      HoldNoNaN rows →
      Exec.Spares HoldNoNaN (executor.joinAll (executor.executeTo depth) joins rows)) ∧
    (∀ (depth : Nat) (q : Query) (rows : List Record), q.Plain → HoldNoNaN rows →
      Exec.Spares HoldNoNaN
        (q.select (executor.executeTo depth) executor.options.indexEqualities rows)) ∧
    (∀ s : Statement, s.Plain → Exec.Spares HoldNoNaN (executor.execute s) ∧
      ∀ rows, (executor.run s).1 = .ok rows → HoldNoNaN rows) ∧
    (∀ (text : String) (s : Statement), Statement.ofText text = .ok s → s.Plain) ∧
    ∀ op ∈ [BinaryOp.add, .subtract, .multiply, .divide], ∀ a b : Value,
      op.apply a b = .null ∨ (∃ n, op.apply a b = .integer n) ∨
        ∃ x, op.apply a b = .float x ∧ x.isFinite = true := by
  have hexec := clean_executors hload
  have hruns := executeTo_runs clean_lawful hexec
  have hnumber : ∀ v : Value, clean.value v v → v.isNaN = false := fun _ h => h.2
  have hstatement : ∀ s : Statement, s.Plain → Exec.Spares HoldNoNaN (executor.execute s) :=
    fun s hs => Coupled.spares (fun _ hf => execute_coupled clean_lawful hexec s hf
      (clean_admits hs)) fun _ => clean_rows.1
  refine ⟨?_, ?_, ?_, ?_, ?_, ?_, ?_, fun _ _ => Statement.plain_ofText, ?_⟩
  · intro depth e row he hrow
    exact Coupled.spares (fun _ hf => evaluate_coupled clean_lawful (hruns depth) e hf
      (clean_admits he) (clean_row.2 hrow)) hnumber
  · intro depth args f rows hargs hrows
    exact Coupled.spares (fun _ hf => aggregate_coupled clean_lawful (hruns depth) args f hf
      (clean_admits (Plain.exprs hargs)) (clean_rows.2 hrows)) fun v h => hnumber v h.2
  · intro depth e group row he hgroup hrow
    exact Coupled.spares (fun _ hf => evaluateGrouped_coupled clean_lawful (hruns depth)
      (clean_rows.2 hgroup) e hf (clean_admits he) (clean_row.2 hrow)) hnumber
  · intro depth q rows hq hrows
    have hadmits : clean.AdmitsQuery true q := admitsQuery (clean_admits hq)
    refine Coupled.spares (fun _ hf => project_coupled clean_lawful (hruns depth) hf hadmits
      (clean_rows.2 hrows)) fun results h => ?_
    intro result hresult
    have halike := forall₂_same.1 h result hresult
    exact ⟨clean_row.1 halike.record, fun key hkey => (forall₂_same.1 halike.keys.2 key hkey).2⟩
  · intro depth joins rows hjoins hrows
    exact Coupled.spares (fun _ hf => joinAll_coupled clean_lawful hexec (hruns depth) joins hf
      (clean_admits (Plain.joins hjoins)) (clean_rows.2 hrows)) fun _ => clean_rows.1
  · intro depth q rows hq hrows
    exact Coupled.spares (fun _ hf => select_coupled clean_lawful (hruns depth) hexec.index q hf
      (admitsQuery (clean_admits hq)) (clean_rows.2 hrows)) fun _ => clean_rows.1
  · intro s hs
    exact ⟨hstatement s hs, (hstatement s hs .start Session.holdsNoNaN_start).2⟩
  · intro op hop a b
    simp only [mem_cons, not_mem_nil, or_false] at hop
    rcases hop with rfl | rfl | rfl | rfl
    · exact Value.arithmetic_finite Number.add?_isFinite a b
    · exact Value.arithmetic_finite Number.sub?_isFinite a b
    · exact Value.arithmetic_finite Number.mul?_isFinite a b
    · exact Value.arithmetic_finite Number.div?_isFinite a b

/-- The difference of two infinities, one of which is loaded and one written. -/
theorem no_nan_computed_infinite :
    let infinite : Value := .float (.infinite false)
    let row : Record := ⟨[("a", infinite)]⟩
    let executor := Engine.executor ⟨.memory [("t", [row])], {}⟩
    let e : Expr := .binary (.literal infinite) .subtract (.identifier "a")
    e.Plain ∧ row.HoldsNoNaN ∧ executor.LoadsOnly HoldNoNaN ∧
      Exec.Spares (·.isNaN = false) (e.evaluate (executor.executeTo 0) row) := by
  intro infinite row executor e
  have he : e.Plain := Plain.binary (Plain.literal rfl) .subtract (Plain.identifier "a")
  have hrow : row.HoldsNoNaN := forall_mem_singleton.2 rfl
  have hload : executor.LoadsOnly HoldNoNaN :=
    Source.memory_loadsOnly (forall_mem_singleton.2 (forall_mem_singleton.2 hrow)) {}
  exact ⟨he, hrow, hload, (no_nan_computed hload).1 0 e row he hrow⟩

end RowQuery
