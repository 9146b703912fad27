/-
# Executions on one source

A source gives the same answer whenever it is asked. So what an action on it does
depends on the frame that it starts in, and not on what was loaded before: an
action that is coupled with itself and once had a result *yields* it, from every
session of this frame whose cache is faithful to the source.

What a sequence of actions yields, its parts yield, and the other way round. So
one execution tells what every part of it would give by itself, and parts of it
can be put together anew.

Key definitions: `Coupling.again`, `Exec.Steady`, `Exec.Yields`.
Key theorems: `Steady.yields`, `Steady.evaluate`, `Yields.of_bind`, `Yields.of_mapM`,
`Yields.of_withPopulation`, `Query.filter_steady`, `Query.project_steady`.
-/
import RowQuery.Proofs.Coupling.Engine

namespace RowQuery

open List

namespace Coupling

/-- The coupling of two executions on one source, whatever each has in its cache. -/
def again (source : Source) : Coupling where
  value := (· = ·)
  scopes := Forall₂ (ScopeLike (· = ·))
  ledger l l' := l.Faithful source ∧ l'.Faithful source
  failure e e' _ _ := e = e'
  table _ := True
  sorts := True
  identity := True
  ambient := True

variable {source : Source} {options : Options}

theorem again_lawful : (again source).Lawful :=
  lawful_of_eq (fun _ _ h => h) (fun _ _ => rfl) rfl

theorem again_admits (features : List Feature) : (again source).AdmitsAll features :=
  fun _ _ => admits_of_unrestricted (fun _ => trivial) trivial trivial (fun _ => trivial)
    fun _ _ => rfl

theorem again_executors : (again source).Executors (Engine.executor ⟨source, options⟩)
    (Engine.executor ⟨source, options⟩) := by
  refine executors_of_fetch rfl rfl rfl (.inl rfl) fun kind name l l' hl => ?_
  obtain ⟨hresult, hledger⟩ := hl.1.fetch options kind name
  obtain ⟨hresult', hledger'⟩ := hl.2.fetch options kind name
  exact fetchAlike_of_eq (hresult.trans hresult'.symm)
    (fun rows _ => ⟨rows_refl (fun _ => rfl) rows, hledger, hledger'⟩) fun _ _ => rfl

theorem Failed.again_eq {e e' : Failure} {l l' : Ledger} (h : (again source).Failed e e' l l') :
    e = e' :=
  h.eq (fun _ _ h => h) fun _ _ _ _ h => h

theorem Failed.again_symm {e e' : Failure} {l l' : Ledger} (h : (again source).Failed e e' l l') :
    (again source).Failed e' e l' l := by
  cases h with
  | load h => exact .load (Eq.symm h)
  | disorder _ hdisordered hkeys hledger =>
    obtain rfl := keys_eq (fun _ _ h => h) hkeys
    exact .disorder trivial hdisordered hkeys hledger.symm

/-- Statements are executed the same way again, to every depth. -/
theorem again_runs (source : Source) (options : Options) (depth : Nat) :
    (again source).Runs ((Engine.executor ⟨source, options⟩).executeTo depth)
      ((Engine.executor ⟨source, options⟩).executeTo depth) :=
  executeTo_runs again_lawful again_executors depth

theorem again_row (r : Record) : (again source).Row r r := rowLike_refl (fun _ => rfl) r

theorem again_rows (rows : List Record) : (again source).Rows rows rows :=
  rows_refl (fun _ => rfl) rows

theorem again_frames (f : Frame) (sheltered : Bool) : (again source).Frames sheltered f f where
  outer := again_rows f.outer
  scopes := scopes_refl (fun _ => rfl) f.scopes
  population _ := by
    cases f.population with
    | none => exact .none
    | some rows => exact .some (again_rows rows)

end Coupling

namespace Exec

/-- An action that has from a frame one result, whatever was loaded before. -/
def Steady {α : Type} (source : Source) (f : Frame) (m : Exec α) : Prop :=
  (Coupling.again source).Coupled f f (· = ·) m m

/-- An action that has a result from a frame, whatever was loaded before; it leaves the frame as it
was and a cache that is faithful. -/
def Yields {α : Type} (source : Source) (f : Frame) (m : Exec α) (a : α) : Prop :=
  ∀ s : Session, s.frame = f → s.ledger.Faithful source →
    ∃ s', m.run.run s = (.ok a, s') ∧ s'.frame = f ∧ s'.ledger.Faithful source

variable {α β : Type} {source : Source} {f : Frame} {m : Exec α} {k : α → Exec β} {a : α} {b : β}

/-! ### Actions with one result -/

/-- **A steady action that once had a result yields it.** -/
theorem Steady.yields {s : Session} (h : Steady source f m) (hs : s.frame = f)
    (hl : s.ledger.Faithful source) (hok : (m.run.run s).1 = .ok a) : Yields source f m a := by
  intro t ht hl'
  have hends := h s t hs ht ⟨hl, hl'⟩
  generalize m.run.run s = x at hends hok
  generalize m.run.run t = y at hends
  cases hends with
  | ok hab hframes hledgers =>
    obtain rfl := Except.ok.inj hok
    subst hab
    exact ⟨_, rfl, hframes.2, hledgers.2⟩
  | error => cases hok

theorem Steady.bind (hm : Steady source f m) (hk : ∀ a, Steady source f (k a)) :
    Steady source f (m >>= k) :=
  Coupling.Coupled.bind hm fun a _ hab => hab ▸ hk a

theorem Steady.mapM {k : α → Exec β} {xs : List α} (hk : ∀ x ∈ xs, Steady source f (k x)) :
    Steady source f (xs.mapM k) :=
  (Coupling.Coupled.mapM_same hk).mono fun _ _ h => forall₂_eq h

theorem Steady.withPopulation {rows : List Record}
    (h : Steady source { f with population := some rows } m) :
    Steady source f (Exec.withPopulation rows m) :=
  Coupling.Coupled.withPopulation h

section Expressions

variable {run : Runner} (hrun : (Coupling.again source).Runs run run)

include hrun

theorem Steady.evaluate (e : Expr) (row : Record) : Steady source f (e.evaluate run row) :=
  Coupling.evaluate_coupled Coupling.again_lawful hrun e (Coupling.again_frames f true)
    (Coupling.again_admits _) (Coupling.again_row row)

theorem Steady.evaluateAll (es : List Expr) (row : Record) :
    Steady source f (Expr.evaluateAll run es row) :=
  (Coupling.evaluateAll_coupled Coupling.again_lawful hrun es (Coupling.again_frames f true)
    (Coupling.again_admits _) (Coupling.again_row row)).mono fun _ _ h => forall₂_eq h

theorem Steady.evaluateKeys (keys : List SortKey) (row : Record) :
    Steady source f (Expr.evaluateKeys run keys row) :=
  (Coupling.evaluateKeys_coupled Coupling.again_lawful hrun keys (Coupling.again_frames f true)
    (Coupling.again_admits _) (Coupling.again_row row)).mono fun _ _ h => forall₂_eq h.2

end Expressions

/-! ### Results -/

/-- There is a session of every frame in which nothing was loaded. -/
theorem exists_session (source : Source) (f : Frame) :
    ∃ s : Session, s.frame = f ∧ s.ledger.Faithful source :=
  ⟨⟨f.outer, f.scopes, f.population, [], []⟩, rfl, Ledger.faithful_start source⟩

namespace Yields

theorem result_eq (h : Yields source f m a) {s : Session} (hs : s.frame = f)
    (hl : s.ledger.Faithful source) : (m.run.run s).1 = .ok a := by
  obtain ⟨s', hrun, -⟩ := h s hs hl
  rw [hrun]

theorem unique {a' : α} (h : Yields source f m a) (h' : Yields source f m a') : a = a' := by
  obtain ⟨s, hs, hl⟩ := exists_session source f
  exact Except.ok.inj ((h.result_eq hs hl).symm.trans (h'.result_eq hs hl))

theorem pure (a : α) : Yields source f (pure a) a := fun s hs hl => ⟨s, rfl, hs, hl⟩

theorem bind (hm : Yields source f m a) (hk : Yields source f (k a) b) :
    Yields source f (m >>= k) b := by
  intro s hs hl
  obtain ⟨s₁, hrun, hs₁, hl₁⟩ := hm s hs hl
  rw [Exec.run_bind, hrun]
  exact hk s₁ hs₁ hl₁

theorem mapM {k : α → Exec β} {xs : List α} {ys : List β}
    (h : Forall₂ (fun x y => Yields source f (k x) y) xs ys) :
    Yields source f (xs.mapM k) ys := by
  induction h with
  | nil => exact .pure []
  | cons hx _ ih =>
    rw [mapM_cons]
    exact hx.bind (ih.bind (.pure _))

/-- Actions for the items of a list yield what a function says they yield. -/
theorem mapM_map {k : α → Exec β} {g : α → β} {xs : List α}
    (h : ∀ x ∈ xs, Yields source f (k x) (g x)) : Yields source f (xs.mapM k) (xs.map g) :=
  mapM (forall₂_map_right_iff.2 (forall₂_same.2 h))

/-! ### Results of the parts -/

/-- **The parts of a sequence yield** what it yields together. -/
theorem of_bind (hm : Steady source f m) (hk : ∀ a, Steady source f (k a))
    (h : Yields source f (m >>= k) b) : ∃ a, Yields source f m a ∧ Yields source f (k a) b := by
  obtain ⟨s, hs, hl⟩ := exists_session source f
  obtain ⟨s', hrun, -⟩ := h s hs hl
  obtain ⟨a, s₁, hfirst, hnext⟩ := Exec.run_bind_ok hrun
  have ha : Yields source f m a := hm.yields hs hl (by rw [hfirst])
  -- The sequence goes on from the session that the first part leaves.
  obtain ⟨s₂, hfirst', hs₂, hl₂⟩ := ha s hs hl
  obtain ⟨-, rfl⟩ := Prod.mk.inj (hfirst.symm.trans hfirst')
  exact ⟨a, ha, (hk a).yields hs₂ hl₂ (by rw [hnext])⟩

theorem of_mapM {k : α → Exec β} : ∀ {xs : List α} {ys : List β},
    (∀ x ∈ xs, Steady source f (k x)) → Yields source f (xs.mapM k) ys →
    Forall₂ (fun x y => Yields source f (k x) y) xs ys
  | [], ys, _, h => by
    obtain rfl := h.unique (.pure [])
    exact .nil
  | x :: xs, ys, hk, h => by
    obtain ⟨hx, hxs⟩ := forall_mem_cons.1 hk
    rw [mapM_cons] at h
    have hrest : ∀ y, Steady source f (do return y :: (← xs.mapM k)) := fun y =>
      (Steady.mapM hxs).bind fun _ => .pure rfl
    obtain ⟨y, hy, h⟩ := of_bind hx hrest h
    obtain ⟨ys', hys, h⟩ := of_bind (Steady.mapM hxs) (fun _ => .pure rfl) h
    obtain rfl := h.unique (.pure (y :: ys'))
    exact .cons hy (of_mapM hxs hys)

theorem withPopulation {rows : List Record}
    (h : Yields source { f with population := some rows } m a) :
    Yields source f (Exec.withPopulation rows m) a := by
  intro s hs hl
  let enter : Session := { s with population := some rows }
  let leave (s' : Session) : Session := { s' with population := s.population }
  obtain ⟨s', hrun, hframe, hledger⟩ := h enter (by rw [← hs]; rfl) hl
  refine ⟨leave s', ?_, ?_, hledger⟩
  · show ((m.run.run enter).1, leave (m.run.run enter).2) = _
    rw [hrun]
  · subst hs
    obtain ⟨houter, hscopes, -⟩ := Frame.mk.injEq .. ▸ hframe
    simp [leave, Session.frame, houter, hscopes]

theorem of_withPopulation {rows : List Record}
    (hm : Steady source { f with population := some rows } m)
    (h : Yields source f (Exec.withPopulation rows m) a) :
    Yields source { f with population := some rows } m a := by
  obtain ⟨s, hs, hl⟩ := exists_session source f
  have hok : (m.run.run { s with population := some rows }).1 = .ok a := h.result_eq hs hl
  exact hm.yields (s := { s with population := some rows }) (by rw [← hs]; rfl) hl hok

end Yields

end Exec

/-! ### The clauses of a query -/

namespace Query

section Source

open Coupling
open Exec (Steady)

variable {source : Source} {run : Runner} (hrun : (again source).Runs run run) {f : Frame}

include hrun

theorem again_evaluate : (again source).Values f f (fun e r => e.evaluate run r)
    (fun e r => e.evaluate run r) :=
  evaluate_values again_lawful hrun (again_frames f true)

theorem again_evaluateGrouped (group : List Record) :
    (again source).Values f f (fun e r => e.evaluateGrouped run group r)
      (fun e r => e.evaluateGrouped run group r) :=
  evaluateGrouped_values again_lawful hrun (again_frames f true) (again_rows group)

omit hrun in
theorem projection_steady {value : Expr → Record → Exec Value}
    (hvalue : (again source).Values f f value value) (q : Query) (row : Record) :
    Steady source f (q.projection (value · row) row) :=
  (projection_coupled hvalue (again_admits _) (again_row row)).mono
    fun _ _ h => RowLike.eq (fun _ _ h => h) h

theorem sortKey_steady {value : Expr → Record → Exec Value}
    (hvalue : (again source).Values f f value value) (row projected : Record) (key : SortKey) :
    Steady source f (sortKey run value row projected key) := by
  unfold sortKey
  split
  · exact Steady.evaluate hrun _ row
  · exact hvalue _ (again_admits _) (again_row _)

theorem sortKeys_steady {value : Expr → Record → Exec Value}
    (hvalue : (again source).Values f f value value) (q : Query) (row projected : Record) :
    Steady source f (q.sortKeys run value row projected) :=
  Steady.mapM fun key _ => sortKey_steady hrun hvalue row projected key

theorem isWanted_steady (q : Query) (group : List Record) (row projected : Record) :
    Steady source f (q.isWanted run group row projected) :=
  isWanted_coupled again_lawful hrun (again_frames f true)
    (admitsQuery (again_admits (q.features true))) (again_rows group) (again_row row)
    (again_row projected)

theorem projectGroup_steady (q : Query) (group : List Record) :
    Steady source f (q.projectGroup run group) := by
  refine (projection_steady (again_evaluateGrouped hrun group) q _).bind fun record => ?_
  refine (isWanted_steady hrun q group _ record).bind fun wanted => ?_
  split
  · exact (sortKeys_steady hrun (again_evaluateGrouped hrun group) q _ record).bind
      fun _ => .pure rfl
  · exact .pure rfl

theorem projectRow_steady (q : Query) (row : Record) : Steady source f (q.projectRow run row) :=
  (projection_steady (again_evaluate hrun) q row).bind fun record =>
    (sortKeys_steady hrun (again_evaluate hrun) q row record).bind fun _ => .pure rfl

theorem groups_steady (e : Expr) (rows : List Record) :
    Steady source f (Query.groups run e rows) :=
  (Steady.mapM fun row _ => Steady.evaluate hrun e row).bind fun _ => .pure rfl

theorem project_steady (q : Query) (rows : List Record) :
    Steady source f (q.project run rows) := by
  unfold project
  split
  · exact (groups_steady hrun _ rows).bind fun groups =>
      (Steady.mapM fun g _ => projectGroup_steady hrun q g.2).bind fun _ => .pure rfl
  · split
    · exact (projectGroup_steady hrun q rows).bind fun _ => .pure rfl
    · exact Steady.mapM fun row _ => projectRow_steady hrun q row

theorem filter_steady (indexed : Bool) (q : Query) (rows : List Record) :
    Steady source f (q.filter run indexed rows) :=
  (filter_coupled again_lawful hrun (.inl rfl) q (again_frames f true) (again_admits _)
    (again_rows rows)).mono fun _ _ h => Rows.eq (fun _ _ h => h) h

end Source

end Query

end RowQuery
