/-
# HAVING decides about groups

A query with HAVING evaluates the condition once for each group, with aggregates over the
group, on the first row of the group overlaid with the columns of its result; a group for
which it is true has a result, any other has none. This is so for the groups of GROUP BY and
for all rows as one group, whether aggregates stand in the select list or in the condition
alone.

A query that has neither GROUP BY nor an aggregate in its select list has a result for each
row. Its condition is not evaluated.

Key definitions: `Exec.Chain`, `Query.resultGroups`, `Query.Judges`, `Query.HavingDecides`.
Key theorems: `Exec.chain_of_mapM`, `Query.project_eq`, `having_decides`,
`having_ignored_without_groups`.
-/
import RowQuery.Evaluation.Statement
import RowQuery.Proofs.Coupling.Basic
import RowQuery.Source.Memory

namespace RowQuery

open List

/-! ### One item after the other -/

namespace Exec

variable {α β : Type} {step : α → Session → β → Session → Prop} {k : α → Exec β}

/-- Steps on items one after the other, each from the session that the one before left. -/
inductive Chain (step : α → Session → β → Session → Prop) :
    List α → Session → List β → Session → Prop
  | nil {s : Session} : Chain step [] s [] s
  | cons {x : α} {xs : List α} {y : β} {ys : List β} {s s₁ s' : Session}
      (head : step x s y s₁) (tail : Chain step xs s₁ ys s') : Chain step (x :: xs) s (y :: ys) s'

/-- An action for each item of a list is a chain of what the action is for one item. -/
theorem chain_of_mapM (hstep : ∀ x s y s', (k x).run.run s = (.ok y, s') → step x s y s') :
    ∀ {xs : List α} {ys : List β} {s s' : Session},
      (xs.mapM k).run.run s = (.ok ys, s') → Chain step xs s ys s'
  | [], ys, s, s', h => by
    obtain ⟨hys, rfl⟩ := Prod.mk.inj h
    obtain rfl := Except.ok.inj hys
    exact .nil
  | x :: xs, ys, s, s', h => by
    rw [mapM_cons] at h
    obtain ⟨y, s₁, hy, h⟩ := run_bind_ok h
    obtain ⟨ys', s₂, hys, h⟩ := run_bind_ok h
    obtain ⟨hcons, rfl⟩ := Prod.mk.inj h
    obtain rfl := Except.ok.inj hcons
    exact .cons (hstep x s y s₁ hy) (chain_of_mapM hstep hys)

namespace Chain

theorem length_eq {xs : List α} {ys : List β} {s s' : Session} (h : Chain step xs s ys s') :
    xs.length = ys.length := by
  induction h with
  | nil => rfl
  | cons _ _ ih => rw [length_cons, length_cons, ih]

/-- The items and the results may be those of other steps. -/
theorem map {γ δ : Type} {f : α → γ} {g : β → δ} {step' : γ → Session → δ → Session → Prop}
    {xs : List α} {ys : List β} {s s' : Session}
    (h : Chain (fun x s y s' => step' (f x) s (g y) s') xs s ys s') :
    Chain step' (xs.map f) s (ys.map g) s' := by
  induction h with
  | nil => exact .nil
  | cons head _ ih => exact .cons head ih

end Chain

end Exec

namespace Query

variable (run : Runner) (q : Query)

/-! ### What HAVING is about -/

/-- The groups that results stand for: those of GROUP BY; else all rows, if a selected item calls an
aggregate; else each row by itself. -/
def resultGroups (rows : List Record) : Exec (List (List Record)) :=
  match q.groupBy with
  | k :: _ => do return (← groups run k rows).map Prod.snd
  | [] => pure (if q.aggregates then [rows] else rows.map fun row => [row])

/-- The row that stands for a group. -/
abbrev firstRow (group : List Record) : Record := group.head?.getD .empty

/-- What a condition makes of a group, from one session to another: its record is made, and it has a
result with this record just if the condition is true, with aggregates over the group, of the row
that stands for it overlaid with the record. -/
inductive Judges (condition : Expr) (group : List Record) :
    Session → Option Projected → Session → Prop
  | emitted {s s₁ s₂ s₃ : Session} {record : Record} {verdict : Value} {keys : List Value}
      (made : (q.projection (fun e => e.evaluateGrouped run group (firstRow group))
        (firstRow group)).run.run s = (.ok record, s₁))
      (decided : (condition.evaluateGrouped run group ((firstRow group).merge record)).run.run s₁ =
        (.ok verdict, s₂))
      (holds : verdict.isTrue = true)
      (sorted : (q.sortKeys run (fun e r => e.evaluateGrouped run group r) (firstRow group)
        record).run.run s₂ = (.ok keys, s₃)) :
      Judges condition group s (some ⟨record, keys⟩) s₃
  | withheld {s s₁ s₂ : Session} {record : Record} {verdict : Value}
      (made : (q.projection (fun e => e.evaluateGrouped run group (firstRow group))
        (firstRow group)).run.run s = (.ok record, s₁))
      (decided : (condition.evaluateGrouped run group ((firstRow group).merge record)).run.run s₁ =
        (.ok verdict, s₂))
      (fails : verdict.isTrue = false) :
      Judges condition group s none s₂

/-- The results of a query with HAVING are those of the groups for which the condition is true: all
of them, in order, and no others. -/
def HavingDecides : Prop :=
  ∀ condition ∈ q.having, ∀ (rows : List Record) (results : List Projected) (s s' : Session),
    (q.project run rows).run.run s = (.ok results, s') →
    ∃ groups s₁ found, (q.resultGroups run rows).run.run s = (.ok groups, s₁) ∧
      Exec.Chain (q.Judges run condition) groups s₁ found s' ∧ results = found.filterMap id

/-! ### Groups under a condition -/

variable {run q}

/-- The result of a group is what the condition makes of it. -/
theorem judges_of_projectGroup {condition : Expr} (hq : q.having = some condition)
    {group : List Record} {o : Option Projected} {s s' : Session}
    (h : (q.projectGroup run group).run.run s = (.ok o, s')) :
    q.Judges run condition group s o s' := by
  obtain ⟨record, s₁, hrecord, h⟩ := Exec.run_bind_ok h
  obtain ⟨wanted, s₂, hwanted, h⟩ := Exec.run_bind_ok h
  unfold isWanted at hwanted
  rw [hq] at hwanted
  obtain ⟨verdict, s₃, hverdict, hwanted⟩ := Exec.run_bind_ok hwanted
  obtain ⟨htrue, rfl⟩ := Prod.mk.inj hwanted
  obtain rfl := Except.ok.inj htrue
  by_cases hholds : verdict.isTrue = true
  · rw [if_pos hholds] at h
    obtain ⟨keys, s₄, hkeys, h⟩ := Exec.run_bind_ok h
    obtain ⟨ho, rfl⟩ := Prod.mk.inj h
    obtain rfl := Except.ok.inj ho
    exact .emitted hrecord hverdict hholds hkeys
  · rw [if_neg hholds] at h
    obtain ⟨ho, rfl⟩ := Prod.mk.inj h
    obtain rfl := Except.ok.inj ho
    exact .withheld hrecord hverdict (Bool.eq_false_iff.2 hholds)

/-- A query about groups has the results of its groups, as far as these are wanted. -/
theorem project_eq (h : q.groupBy ≠ [] ∨ q.aggregates = true) (rows : List Record) :
    q.project run rows = do
      let groups ← q.resultGroups run rows
      return (← groups.mapM (q.projectGroup run)).filterMap id := by
  unfold project resultGroups
  cases hgroupBy : q.groupBy with
  | cons k rest =>
    dsimp only
    simp only [bind_assoc, pure_bind, mapM_map]
    rfl
  | nil =>
    have hwhole : q.aggregates = true := h.resolve_left fun hne => hne hgroupBy
    dsimp only
    rw [if_pos hwhole, if_pos hwhole, pure_bind, mapM_cons, mapM_nil]
    simp only [bind_assoc, pure_bind]
    refine congrArg (q.projectGroup run rows >>= ·) (funext fun o => ?_)
    cases o with
    | none => rfl
    | some p => rfl

end Query

/-- **HAVING decides which groups have a result.** In a query with GROUP BY or with an aggregate in
its select list, and whatever the loader answers, a group has a result exactly if the condition of
HAVING is true, with aggregates over the group, of the first row of the group overlaid with the
columns of the result. -/
theorem having_decides (executor : Executor) (depth : Nat) (q : Query)
    (h : q.groupBy ≠ [] ∨ q.aggregates = true) :
    q.HavingDecides (executor.executeTo depth) := by
  intro condition hcondition rows results s s' hproject
  rw [Query.project_eq h] at hproject
  obtain ⟨groups, s₁, hgroups, hproject⟩ := Exec.run_bind_ok hproject
  obtain ⟨found, s₂, hfound, hlast⟩ := Exec.run_bind_ok hproject
  obtain ⟨hresults, rfl⟩ := Prod.mk.inj hlast
  refine ⟨groups, s₁, found, hgroups, ?_, (Except.ok.inj hresults).symm⟩
  exact Exec.chain_of_mapM (fun _ _ _ _ => Query.judges_of_projectGroup hcondition) hfound

/-- Groups with a repeated row, by a condition in which alone an aggregate is called. -/
theorem having_decides_repeated :
    let run := (Engine.executor ⟨.memory [], {}⟩).executeTo 0
    let q : Query := { Query.all "t" with
      items := [⟨.identifier "a", none⟩], groupBy := [.identifier "a"],
      having := some (.binary (.call "COUNT" [.star]) .greater (.literal (.integer 1))) }
    let rows : List Record := [⟨[("a", .integer 1)]⟩, ⟨[("a", .integer 2)]⟩, ⟨[("a", .integer 1)]⟩]
    (q.groupBy ≠ [] ∨ q.aggregates = true) ∧ q.HavingDecides run ∧
      ((q.project run rows).run.run .start).1.toOption.map (·.map Projected.record) =
        some [⟨[("a", .integer 1)]⟩] := by
  intro run q rows
  have h : q.groupBy ≠ [] ∨ q.aggregates = true := .inl (cons_ne_nil _ _)
  exact ⟨h, having_decides (Engine.executor ⟨.memory [], {}⟩) 0 q h, rfl⟩

/-- `SELECT a FROM t HAVING a > 5` has the row in which `a` is one. -/
theorem having_ignored_without_groups :
    ¬ ∀ (executor : Executor) (depth : Nat) (q : Query),
      q.HavingDecides (executor.executeTo depth) := by
  intro h
  let executor : Executor := Engine.executor ⟨.memory [], {}⟩
  let condition : Expr := .binary (.identifier "a") .greater (.literal (.integer 5))
  let q : Query := { Query.all "t" with
    items := [⟨.identifier "a", none⟩], having := some condition }
  let row : Record := ⟨[("a", .integer 1)]⟩
  obtain ⟨groups, s₁, found, hgroups, hchain, hresults⟩ :=
    h executor 0 q condition rfl [row] [⟨row, []⟩] .start .start rfl
  obtain ⟨hgroup, rfl⟩ := Prod.mk.inj hgroups
  obtain rfl : [[row]] = groups := Except.ok.inj hgroup
  obtain _ | ⟨hjudged, hrest⟩ := hchain
  cases hrest
  have hmade : (q.projection (fun e => e.evaluateGrouped (executor.executeTo 0) [row] row)
      row).run.run .start = (.ok row, .start) := rfl
  have hdecided : (condition.evaluateGrouped (executor.executeTo 0) [row] (row.merge row)).run.run
      .start = (.ok (.boolean false), .start) := rfl
  cases hjudged with
  | withheld => cases hresults
  | emitted made decided holds =>
    obtain ⟨hrecord, rfl⟩ := Prod.mk.inj (hmade.symm.trans made)
    obtain rfl := Except.ok.inj hrecord
    obtain ⟨hverdict, -⟩ := Prod.mk.inj (hdecided.symm.trans decided)
    obtain rfl := Except.ok.inj hverdict
    cases holds

end RowQuery
