/-
# Two executions side by side

A coupling says which values, scopes and ledgers of two executions correspond.
Two actions are *coupled* from two frames if, started on corresponding ledgers,
they end alike: with corresponding results and ledgers, or both with a failure.
Either gives back the frame that it was started in.

Actions are coupled piece by piece: `Coupled.bind` and `Coupled.mapM` put
together what the parts have, `Coupled.withOuter` and `Coupled.withPopulation`
enter a frame and leave it.

Key definitions: `Frame`, `Ledger`, `RowLike`, `ScopeLike`, `Coupling`,
`Coupling.Frames`, `Coupling.Failed`, `Coupling.Coupled`.
Key theorems: `Coupled.bind`, `Coupled.reading`, `Coupled.mapM`,
`Coupled.withOuter`, `Coupled.withPopulation`.
-/
import RowQuery.Evaluation.Session
import RowQuery.Proofs.Feature
import RowQuery.Proofs.Sorting
import Mathlib.Data.List.Forall2

namespace RowQuery

/-! ### Sessions in two parts -/

/-- What an action gives back as it was. -/
structure Frame where
  outer : List Record
  scopes : List Scope
  population : Option (List Record)

/-- What an action only adds to. -/
structure Ledger where
  cache : List ((SourceKind × String) × List Record)
  loads : List (SourceKind × String)

namespace Session

def frame (s : Session) : Frame := ⟨s.outer, s.scopes, s.population⟩

def ledger (s : Session) : Ledger := ⟨s.cache, s.loads⟩

end Session

/-- A sequence of actions ends with the first failure. -/
theorem Exec.run_bind {α β : Type} (m : Exec α) (k : α → Exec β) (s : Session) :
    (m >>= k).run.run s = match m.run.run s with
      | (.ok a, s') => (k a).run.run s'
      | (.error e, s') => (.error e, s') := by
  simp only [ExceptT.run_bind, StateT.run_bind]
  obtain ⟨r, s'⟩ := m.run.run s
  cases r <;> rfl

theorem Exec.run_get_bind {α : Type} (k : Session → Exec α) (s : Session) :
    (get >>= k).run.run s = (k s).run.run s := by
  rw [run_bind]
  rfl

/-- What an action and what follows it do to have a result. -/
theorem Exec.run_bind_ok {α β : Type} {m : Exec α} {k : α → Exec β} {b : β} {s s' : Session}
    (h : (m >>= k).run.run s = (.ok b, s')) :
    ∃ a s₁, m.run.run s = (.ok a, s₁) ∧ (k a).run.run s₁ = (.ok b, s') := by
  rw [run_bind] at h
  generalize m.run.run s = result at h
  obtain ⟨e | a, s₁⟩ := result
  · cases h
  · exact ⟨a, s₁, rfl, h⟩

/-! ### What corresponds -/

/-- Pairs of one key with corresponding items. -/
def Keyed {κ α β : Type} (A : α → β → Prop) (p : κ × α) (q : κ × β) : Prop := p.1 = q.1 ∧ A p.2 q.2

/-- Records of the same columns in the same order, with values that are related. -/
def RowLike (value : Value → Value → Prop) (r r' : Record) : Prop :=
  List.Forall₂ (Keyed value) r.fields r'.fields

/-- Scopes of the same names in the same order, with tables that are related. -/
def ScopeLike (value : Value → Value → Prop) (x y : Scope) : Prop :=
  List.Forall₂ (Keyed (List.Forall₂ (RowLike value))) x y

/-- What corresponds in two executions. -/
structure Coupling where
  value : Value → Value → Prop
  scopes : List Scope → List Scope → Prop
  ledger : Ledger → Ledger → Prop
  /-- Failures to load a table that correspond, with the ledgers that they leave. -/
  failure : LoadError → LoadError → Ledger → Ledger → Prop
  /-- The tables that may be named. -/
  table : TableRef → Prop
  /-- There may be sort keys, at which executions break off if they are disordered. -/
  sorts : Prop
  /-- Corresponding records are told apart from others by the same canonical text. -/
  identity : Prop
  /-- The rows that windows range over before any query has picked some correspond. -/
  ambient : Prop

namespace Coupling

variable (R : Coupling)

/-- Cells of one name with corresponding values. -/
abbrev Cell (p q : String × Value) : Prop := Keyed R.value p q

/-- Records that correspond. -/
abbrev Row (r r' : Record) : Prop := RowLike R.value r r'

/-- Lists of corresponding records. -/
abbrev Rows (rows rows' : List Record) : Prop := List.Forall₂ R.Row rows rows'

/-- Frames that correspond. Where windows are not sheltered, what they range over need not. -/
structure Frames (sheltered : Bool) (f g : Frame) : Prop where
  outer : R.Rows f.outer g.outer
  scopes : R.scopes f.scopes g.scopes
  population : sheltered = true ∨ R.ambient → Option.Rel R.Rows f.population g.population

/-- What a statement may have in it. -/
def Admits : Feature → Prop
  | .literal v => R.value v v
  | .window name sheltered => (sheltered = true ∨ R.ambient) ∧ (name = "ROW_NUMBER" → R.identity)
  | .table t => R.table t
  | .sortKey => R.sorts
  | .distinct => R.identity
  | .setOperation op => op = .unionAll ∨ R.identity

/-- What a statement with all these features may be. -/
abbrev AdmitsAll (features : List Feature) : Prop := ∀ x ∈ features, R.Admits x

/-! ### Actions that end alike -/

variable {α β γ δ : Type}

/-- Two failures that correspond, with the ledgers that they leave: to load a table, or to sort by
disordered keys that correspond. -/
inductive Failed : Failure → Failure → Ledger → Ledger → Prop where
  | load {e e' : LoadError} {l l' : Ledger} (failure : R.failure e e' l l') :
      Failed (.load e) (.load e') l l'
  | disorder {keys keys' : List (List Value)} {l l' : Ledger} (sorts : R.sorts)
      (disordered : Disordered keys) (values : List.Forall₂ (List.Forall₂ R.value) keys keys')
      (ledger : R.ledger l l') : Failed (.disorder keys) (.disorder keys') l l'

/-- Two ends of actions: both with a result or both with a failure. -/
inductive Ends (post : Frame → Frame → Prop) (A : α → β → Prop) :
    Except Failure α × Session → Except Failure β × Session → Prop where
  | ok {a : α} {b : β} {s t : Session} (value : A a b) (frames : post s.frame t.frame)
      (ledger : R.ledger s.ledger t.ledger) : Ends post A (.ok a, s) (.ok b, t)
  | error {e e' : Failure} {s t : Session} (frames : post s.frame t.frame)
      (failure : R.Failed e e' s.ledger t.ledger) : Ends post A (.error e, s) (.error e', t)

/-- Actions that end alike from two frames, and give these back. -/
def Coupled (f g : Frame) (A : α → β → Prop) (m : Exec α) (m' : Exec β) : Prop :=
  ∀ s t : Session, s.frame = f → t.frame = g → R.ledger s.ledger t.ledger →
    R.Ends (fun f' g' => f' = f ∧ g' = g) A (m.run.run s) (m'.run.run t)

end Coupling

namespace Coupling

variable {R : Coupling} {α β γ δ : Type} {f g : Frame}

theorem Ends.mono {post post' : Frame → Frame → Prop} {A A' : α → β → Prop}
    (hpost : ∀ f g, post f g → post' f g) (hA : ∀ a b, A a b → A' a b)
    {x : Except Failure α × Session} {y : Except Failure β × Session}
    (h : R.Ends post A x y) : R.Ends post' A' x y := by
  cases h with
  | ok h hf hl => exact .ok (hA _ _ h) (hpost _ _ hf) hl
  | error hf he => exact .error (hpost _ _ hf) he

theorem Coupled.mono {A A' : α → β → Prop} {m : Exec α} {m' : Exec β}
    (h : R.Coupled f g A m m') (hA : ∀ a b, A a b → A' a b) : R.Coupled f g A' m m' :=
  fun s t hs ht hl => (h s t hs ht hl).mono (fun _ _ h => h) hA

/-! ### Putting actions together -/

theorem Coupled.pure {A : α → β → Prop} {a : α} {b : β} (h : A a b) :
    R.Coupled f g A (pure a) (pure b) :=
  fun _ _ hs ht hl => .ok h ⟨hs, ht⟩ hl

theorem Coupled.throw {A : α → β → Prop} {e e' : Failure}
    (h : ∀ l l', R.ledger l l' → R.Failed e e' l l') : R.Coupled f g A (throw e) (throw e') :=
  fun _ _ hs ht hl => .error ⟨hs, ht⟩ (h _ _ hl)

theorem Coupled.bind {A : α → β → Prop} {B : γ → δ → Prop} {m : Exec α} {m' : Exec β}
    {k : α → Exec γ} {k' : β → Exec δ} (hm : R.Coupled f g A m m')
    (hk : ∀ a b, A a b → R.Coupled f g B (k a) (k' b)) :
    R.Coupled f g B (m >>= k) (m' >>= k') := by
  intro s t hs ht hl
  have h := hm s t hs ht hl
  rw [Exec.run_bind, Exec.run_bind]
  generalize m.run.run s = x at h ⊢
  generalize m'.run.run t = y at h ⊢
  cases h with
  | ok h hf hl => exact hk _ _ h _ _ hf.1 hf.2 hl
  | error hf he => exact .error hf he

/-- An action that goes on with the session as it is. -/
theorem Coupled.reading {B : γ → δ → Prop} {k : Session → Exec γ} {k' : Session → Exec δ}
    (h : ∀ s t, s.frame = f → t.frame = g → R.ledger s.ledger t.ledger →
      R.Coupled f g B (k s) (k' t)) :
    R.Coupled f g B (get >>= k) (get >>= k') :=
  fun s t hs ht hl => h s t hs ht hl s t hs ht hl

theorem Coupled.mapM {A : α → β → Prop} {B : γ → δ → Prop} {k : α → Exec γ} {k' : β → Exec δ}
    {xs : List α} {ys : List β} (hxs : List.Forall₂ A xs ys)
    (hk : ∀ a b, A a b → R.Coupled f g B (k a) (k' b)) :
    R.Coupled f g (List.Forall₂ B) (xs.mapM k) (ys.mapM k') := by
  induction hxs with
  | nil => simpa only [List.mapM_nil] using Coupled.pure .nil
  | cons hab _ ih =>
    simp only [List.mapM_cons]
    exact (hk _ _ hab).bind fun _ _ hc => ih.bind fun _ _ hcs => .pure (.cons hc hcs)

/-! ### Entering and leaving frames -/

/-- An action in a frame that is entered before and left after it. -/
theorem Coupled.between {A : α → β → Prop} {m : Exec α} {m' : Exec β} {f' g' : Frame}
    {enter leave enter' leave' : Session → Session}
    (henter : ∀ s, s.frame = f → (enter s).frame = f' ∧ (enter s).ledger = s.ledger)
    (hleave : ∀ s, s.frame = f' → (leave s).frame = f ∧ (leave s).ledger = s.ledger)
    (henter' : ∀ t, t.frame = g → (enter' t).frame = g' ∧ (enter' t).ledger = t.ledger)
    (hleave' : ∀ t, t.frame = g' → (leave' t).frame = g ∧ (leave' t).ledger = t.ledger)
    (h : R.Coupled f' g' A m m') :
    R.Coupled f g A (Exec.between enter leave m) (Exec.between enter' leave' m') := by
  intro s t hs ht hl
  have hm := h (enter s) (enter' t) (henter s hs).1 (henter' t ht).1
    (by rw [(henter s hs).2, (henter' t ht).2]; exact hl)
  show R.Ends _ _ ((m.run.run (enter s)).1, leave (m.run.run (enter s)).2)
    ((m'.run.run (enter' t)).1, leave' (m'.run.run (enter' t)).2)
  generalize m.run.run (enter s) = x at hm ⊢
  generalize m'.run.run (enter' t) = y at hm ⊢
  cases hm with
  | ok h hf hl =>
    obtain ⟨hs', hls⟩ := hleave _ hf.1
    obtain ⟨ht', hlt⟩ := hleave' _ hf.2
    exact .ok h ⟨hs', ht'⟩ (by rw [hls, hlt]; exact hl)
  | error hf he =>
    obtain ⟨hs', hls⟩ := hleave _ hf.1
    obtain ⟨ht', hlt⟩ := hleave' _ hf.2
    exact .error ⟨hs', ht'⟩ (by rw [hls, hlt]; exact he)

theorem Coupled.withOuter {A : α → β → Prop} {m : Exec α} {m' : Exec β} {r r' : Record}
    (h : R.Coupled { f with outer := r :: f.outer } { g with outer := r' :: g.outer } A m m') :
    R.Coupled f g A (Exec.withOuter r m) (Exec.withOuter r' m') := by
  refine Coupled.between ?_ ?_ ?_ ?_ h
  · rintro s rfl; exact ⟨rfl, rfl⟩
  · intro s hs
    obtain ⟨ho, hc, hp⟩ := Frame.mk.injEq .. ▸ hs
    exact ⟨by simp [Session.frame, ho, hc, hp], rfl⟩
  · rintro t rfl; exact ⟨rfl, rfl⟩
  · intro t ht
    obtain ⟨ho, hc, hp⟩ := Frame.mk.injEq .. ▸ ht
    exact ⟨by simp [Session.frame, ho, hc, hp], rfl⟩

theorem Coupled.withPopulation {A : α → β → Prop} {m : Exec α} {m' : Exec β}
    {rows rows' : List Record}
    (h : R.Coupled { f with population := some rows } { g with population := some rows' } A m m') :
    R.Coupled f g A (Exec.withPopulation rows m) (Exec.withPopulation rows' m') := by
  refine Coupled.reading fun s₀ t₀ hs₀ ht₀ _ => ?_
  refine Coupled.between ?_ ?_ ?_ ?_ h
  · rintro s rfl; exact ⟨rfl, rfl⟩
  · intro s hs
    obtain ⟨ho, hc, -⟩ := Frame.mk.injEq .. ▸ hs
    subst hs₀
    exact ⟨by simp [Session.frame, ho, hc], rfl⟩
  · rintro t rfl; exact ⟨rfl, rfl⟩
  · intro t ht
    obtain ⟨ho, hc, -⟩ := Frame.mk.injEq .. ▸ ht
    subst ht₀
    exact ⟨by simp [Session.frame, ho, hc], rfl⟩

end Coupling

end RowQuery
