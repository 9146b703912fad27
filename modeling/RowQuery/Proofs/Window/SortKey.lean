/-
# Windows within sort keys

A sort key sees the row that was picked with the columns of the result over it. A key that is
a window is evaluated on the picked row alone. A window within a larger key is not: it looks
itself up, and finds its partition, with the columns of the result over the row. So its value
there is the one it has on the picked row as long as it cannot tell the two rows apart: its
partition expressions make one key on both and, if it is ROW_NUMBER, both have one canonical
text. Then a key means what it does with the values that its windows have on the picked row
in their places. Else ROW_NUMBER may find no row, and have no number.

Key definitions: `Expr.windows`, `Expr.settle`, `Expr.PlacedAlike`, `Query.settledRow`.
Key theorems: `Expr.settle_alike`, `Expr.window_alike_of_placed`, `Query.sortKey_alike`,
`windows_in_sort_keys`, `windows_in_sort_keys_unplaced`.
-/
import RowQuery.Proofs.Identity
import RowQuery.Proofs.Index.Filter
import RowQuery.Proofs.Window.RowNumber

namespace RowQuery

open List

namespace Expr

/-! ### Windows of an expression -/

/-- Whether an expression is a window, and not one that has windows in it. -/
def isWindow : Expr → Bool
  | .window .. => true
  | _ => false

mutual

/-- The windows in an expression that are not within others or in subqueries. -/
def windows : Expr → List Expr
  | .window name args partitionBy orderBy => [.window name args partitionBy orderBy]
  | .call _ args => exprsWindows args
  | .binary left _ right => left.windows ++ right.windows
  | .isNull operand _ => operand.windows
  | .inList left candidates _ => left.windows ++ exprsWindows candidates
  | .like left pattern _ => left.windows ++ pattern.windows
  | .case branches otherwise => branchesWindows branches ++ optionWindows otherwise
  | .identifier _ => []
  | .literal _ => []
  | .star => []
  | .subquery _ => []

def exprsWindows : List Expr → List Expr
  | [] => []
  | e :: rest => e.windows ++ exprsWindows rest

def branchesWindows : List Branch → List Expr
  | [] => []
  | ⟨condition, result⟩ :: rest => condition.windows ++ result.windows ++ branchesWindows rest

def optionWindows : Option Expr → List Expr
  | none => []
  | some e => e.windows

end

section Settle

variable (value : Expr → Value)

mutual

/-- The expression with a literal for each of its windows. -/
def settle : Expr → Expr
  | .window name args partitionBy orderBy =>
    .literal (value (.window name args partitionBy orderBy))
  | .call name args => .call name (settleAll args)
  | .binary left op right => .binary left.settle op right.settle
  | .isNull operand negated => .isNull operand.settle negated
  | .inList left candidates negated => .inList left.settle (settleAll candidates) negated
  | .like left pattern negated => .like left.settle pattern.settle negated
  | .case branches otherwise => .case (settleBranches branches) (settleOption otherwise)
  | .identifier name => .identifier name
  | .literal v => .literal v
  | .star => .star
  | .subquery s => .subquery s

def settleAll : List Expr → List Expr
  | [] => []
  | e :: rest => e.settle :: settleAll rest

def settleBranches : List Branch → List Branch
  | [] => []
  | ⟨condition, result⟩ :: rest => ⟨condition.settle, result.settle⟩ :: settleBranches rest

def settleOption : Option Expr → Option Expr
  | none => none
  | some e => some e.settle

end

variable {value}

/-- An expression is a subquery with the values of windows in place just if it is one before. -/
theorem settle_eq_subquery_iff {e : Expr} {s : Statement} :
    e.settle value = .subquery s ↔ e = .subquery s := by
  cases e <;> simp [settle]

/-! ### Values in place of windows -/

open Exec (Alike Steady Yields)

variable {source : Source} {run : Runner} {f : Frame} {row : Record}

mutual

/-- **Values in place of windows mean what the windows mean** on a row on which the windows have
these values. -/
theorem settle_alike (hrun : (Coupling.again source).Runs run run) :
    ∀ e : Expr, (∀ w ∈ e.windows, Yields source f (w.evaluate run row) (value w)) →
    Alike source f ((e.settle value).evaluate run row) (e.evaluate run row)
  | .window name args partitionBy orderBy, h => by
    simp only [windows, mem_singleton, forall_eq] at h
    rw [settle, evaluate]
    exact .of_yields h
  | .call name args, h => by
    simp only [windows] at h
    simp only [settle, evaluate]
    exact (settleAll_alike hrun args h).bind fun _ => .pure rfl
  | .binary left op right, h => by
    simp only [windows, forall_mem_append] at h
    have hl := settle_alike hrun left h.1
    have hr := settle_alike hrun right h.2
    by_cases hop : op = .and
    · subst hop
      simp only [settle, evaluate]
      refine hl.bind fun v => Coupling.Coupled.ite rfl ?_ (.pure rfl)
      exact hr.bind fun _ => .pure rfl
    · rw [settle, evaluate, evaluate]
      · exact hl.bind fun _ => hr.bind fun _ => .pure rfl
      · exact hop
      · exact hop
  | .isNull operand negated, h => by
    simp only [windows] at h
    simp only [settle, evaluate]
    exact (settle_alike hrun operand h).bind fun _ => .pure rfl
  | .inList left candidates negated, h => by
    simp only [windows, forall_mem_append] at h
    simp only [settle, evaluate]
    refine (settle_alike hrun left h.1).bind fun v => ?_
    exact (settleAll_isAmong_alike hrun candidates h.2 v).bind fun _ => .pure rfl
  | .like left pattern negated, h => by
    simp only [windows, forall_mem_append] at h
    simp only [settle, evaluate]
    refine (settle_alike hrun left h.1).bind fun v => ?_
    exact (settle_alike hrun pattern h.2).bind fun _ => .pure rfl
  | .case branches otherwise, h => by
    simp only [windows, forall_mem_append] at h
    simp only [settle, evaluate]
    refine (settleBranches_alike hrun branches h.1).bind fun o => ?_
    cases o with
    | none => exact settleOption_alike hrun otherwise h.2
    | some v => exact .pure rfl
  | .identifier name, _ => by
    rw [settle]
    exact (Steady.evaluate hrun _ row).alike
  | .literal v, _ => by
    rw [settle]
    exact (Steady.evaluate hrun _ row).alike
  | .star, _ => by
    rw [settle]
    exact (Steady.evaluate hrun _ row).alike
  | .subquery s, _ => by
    rw [settle]
    exact (Steady.evaluate hrun _ row).alike

theorem settleAll_alike (hrun : (Coupling.again source).Runs run run) :
    ∀ es : List Expr, (∀ w ∈ exprsWindows es, Yields source f (w.evaluate run row) (value w)) →
    Alike source f (evaluateAll run (settleAll value es) row) (evaluateAll run es row)
  | [], _ => by
    simp only [settleAll]
    exact (Steady.evaluateAll hrun [] row).alike
  | e :: rest, h => by
    simp only [exprsWindows, forall_mem_append] at h
    simp only [settleAll, evaluateAll]
    refine (settle_alike hrun e h.1).bind fun v => ?_
    exact (settleAll_alike hrun rest h.2).bind fun _ => .pure rfl

theorem settleAll_isAmong_alike (hrun : (Coupling.again source).Runs run run) :
    ∀ es : List Expr,
    (∀ w ∈ exprsWindows es, Yields source f (w.evaluate run row) (value w)) → ∀ v : Value,
    Alike source f (isAmong run v (settleAll value es) row) (isAmong run v es row)
  | [], _, v => by
    simp only [settleAll, isAmong]
    exact .pure rfl
  | e :: rest, h, v => by
    simp only [exprsWindows, forall_mem_append] at h
    have ih := settleAll_isAmong_alike hrun rest h.2 v
    by_cases hs : ∃ s, e = .subquery s
    · obtain ⟨s, rfl⟩ := hs
      simp only [settleAll, settle, isAmong]
      refine (subqueryRows_steady hrun s row).alike.bind fun rows => ?_
      exact Coupling.Coupled.ite rfl (.pure rfl) ih
    · have hs : ∀ s, e = .subquery s → False := fun s h => hs ⟨s, h⟩
      rw [settleAll, isAmong, isAmong]
      · exact (settle_alike hrun e h.1).bind fun v => Coupling.Coupled.ite rfl (.pure rfl) ih
      · exact hs
      · exact fun s he => hs s (settle_eq_subquery_iff.1 he)

theorem settleBranches_alike (hrun : (Coupling.again source).Runs run run) :
    ∀ branches : List Branch,
    (∀ w ∈ branchesWindows branches, Yields source f (w.evaluate run row) (value w)) →
    Alike source f (firstResult run (settleBranches value branches) row)
      (firstResult run branches row)
  | [], _ => by
    simp only [settleBranches, firstResult]
    exact .pure rfl
  | ⟨condition, result⟩ :: rest, h => by
    simp only [branchesWindows, forall_mem_append] at h
    simp only [settleBranches, firstResult]
    refine (settle_alike hrun condition h.1.1).bind fun v => ?_
    refine Coupling.Coupled.ite rfl ?_ (settleBranches_alike hrun rest h.2)
    exact (settle_alike hrun result h.1.2).bind fun _ => .pure rfl

theorem settleOption_alike (hrun : (Coupling.again source).Runs run run) :
    ∀ o : Option Expr, (∀ w ∈ optionWindows o, Yields source f (w.evaluate run row) (value w)) →
    Alike source f (evaluateOption run (settleOption value o) row) (evaluateOption run o row)
  | none, _ => by
    simp only [settleOption, evaluateOption]
    exact .pure rfl
  | some e, h => by
    simp only [optionWindows] at h
    simp only [settleOption, evaluateOption]
    exact settle_alike hrun e h

end

end Settle

/-! ### Windows on two rows -/

section Placed

open Exec (Alike Steady Yields)

variable {source : Source} {run : Runner} {f : Frame} {row row' : Record}

/-- A window that cannot tell two rows apart: the partition expressions make one key on both, and if
rows are looked up by their canonical texts, both have one. -/
inductive PlacedAlike (source : Source) (run : Runner) (f : Frame) (row row' : Record) :
    Expr → Prop where
  | window {name : String} {args partitionBy : List Expr} {orderBy : List SortKey}
      {key key' : List Value} (left : Yields source f (evaluateAll run partitionBy row) key)
      (right : Yields source f (evaluateAll run partitionBy row') key')
      (same : partitionKey key = partitionKey key')
      (text : name = "ROW_NUMBER" → row.canonical = row'.canonical) :
      PlacedAlike source run f row row' (.window name args partitionBy orderBy)

theorem overPartition_of_canonical {name : String} (run : Runner) (args : List Expr)
    (orderBy : List SortKey) (partition : List Record)
    (h : name = "ROW_NUMBER" → row.canonical = row'.canonical) :
    overPartition run name args orderBy row partition =
      overPartition run name args orderBy row' partition := by
  unfold overPartition
  split
  · rename_i hname
    unfold rowNumber
    rw [h hname]
  · rfl

/-- **A window that cannot tell two rows apart** ends alike on both. -/
theorem window_alike_of_placed (hrun : (Coupling.again source).Runs run run) {w : Expr}
    (h : PlacedAlike source run f row row' w) :
    Alike source f (w.evaluate run row) (w.evaluate run row') := by
  cases h with
  | @window name args partitionBy orderBy key key' hkey hkey' hsame htext =>
    rw [evaluate_window, evaluate_window]
    refine Coupling.Coupled.reading fun s t hs ht _ => ?_
    have hpopulation : t.population = s.population :=
      congrArg Frame.population (ht.trans hs.symm)
    rw [hpopulation]
    cases s.population with
    | none => exact .pure rfl
    | some rows =>
      refine Alike.of_yields_bind hkey (Alike.symm (Alike.of_yields_bind hkey' ?_))
      rw [hsame]
      have hkeys : Steady source f (rows.mapM fun r => evaluateAll run partitionBy r) :=
        Steady.mapM fun r _ => Steady.evaluateAll hrun partitionBy r
      refine hkeys.alike.bind fun keys => ?_
      rw [overPartition_of_canonical run args orderBy _ htext]
      exact (overPartition_steady hrun name args orderBy row' _).alike

end Placed

end Expr

/-! ### Sort keys -/

namespace Query

open Exec (Alike Steady Yields)

/-- The result for one row, in whose sort keys windows have given values. -/
def settledRow (run : Runner) (q : Query) (value : Expr → Value) (row : Record) :
    Exec Projected := do
  let record ← q.projection (fun e => e.evaluate run row) row
  return ⟨record, ← q.orderBy.mapM fun key =>
    (key.expr.settle value).evaluate run (row.merge record)⟩

section Source

variable {source : Source} {run : Runner} {f : Frame} {q : Query} {row : Record}
  {value : Expr → Value} (hrun : (Coupling.again source).Runs run run)

include hrun

/-- **A sort key has the values of its windows in place** if it is a window, or its windows cannot
tell the row with the columns of the result over it from the row itself. -/
theorem sortKey_alike {key : SortKey} {projected : Record}
    (hvalue : ∀ w ∈ key.expr.windows, Yields source f (w.evaluate run row) (value w))
    (hplaced : key.expr.isWindow = false → ∀ w ∈ key.expr.windows,
      w.PlacedAlike source run f row (row.merge projected)) :
    Alike source f ((key.expr.settle value).evaluate run (row.merge projected))
      (sortKey run (fun e r => e.evaluate run r) row projected key) := by
  obtain ⟨e, direction⟩ := key
  by_cases hwindow : e.isWindow
  · cases e with
    | window name args partitionBy orderBy =>
      have hyields := hvalue (.window name args partitionBy orderBy) mem_cons_self
      simp only [Expr.settle, Expr.evaluate]
      exact .of_yields hyields
    | _ => cases hwindow
  · have hoverlaid : ∀ w ∈ e.windows,
        Yields source f (w.evaluate run (row.merge projected)) (value w) := fun w hw =>
      (Expr.window_alike_of_placed hrun
        (hplaced (Bool.eq_false_of_not_eq_true hwindow) w hw)).yields_iff.1 (hvalue w hw)
    have hkey : sortKey run (fun e r => e.evaluate run r) row projected ⟨e, direction⟩ =
        e.evaluate run (row.merge projected) := by
      cases e with
      | window => exact absurd rfl hwindow
      | _ => rfl
    rw [hkey]
    exact Expr.settle_alike hrun e hoverlaid

theorem projectRow_alike
    (hvalue : ∀ key ∈ q.orderBy, ∀ w ∈ key.expr.windows,
      Yields source f (w.evaluate run row) (value w))
    (hplaced : ∀ record, Yields source f (q.projection (fun e => e.evaluate run row) row) record →
      ∀ key ∈ q.orderBy, key.expr.isWindow = false → ∀ w ∈ key.expr.windows,
        w.PlacedAlike source run f row (row.merge record)) :
    Alike source f (q.settledRow run value row) (q.projectRow run row) := by
  refine (projection_steady (again_evaluate hrun) q row).bind_alike fun record hrecord => ?_
  have hkeys : Alike source f
      (q.orderBy.mapM fun key => (key.expr.settle value).evaluate run (row.merge record))
      (q.sortKeys run (fun e r => e.evaluate run r) row record) :=
    Alike.mapM fun key hkey =>
      sortKey_alike hrun (hvalue key hkey) (hplaced record hrecord key hkey)
  exact hkeys.bind fun _ => .pure rfl

end Source

end Query

/-- **Windows within sort keys have the values that they have on the rows that were picked.** On a
source, let a query without groups and aggregates project rows on which the windows of its sort keys
have values. If a key is not a window itself, let no window in it tell the row from the row with the
columns of its result over it. Then the query has for each row the record that it selects, and as
sort keys the values, over the row with the columns of this record, of the expressions that have the
values of their windows on the row in place. -/
theorem windows_in_sort_keys (source : Source) (options : Options) (depth : Nat) {q : Query}
    (hgroupBy : q.groupBy = []) (haggregates : q.aggregates = false) {picked : List Record}
    {s : Session} (hs : s.ledger.Faithful source) {value : Record → Expr → Value}
    (hvalue : ∀ row ∈ picked, ∀ key ∈ q.orderBy, ∀ w ∈ key.expr.windows,
      ((w.evaluate ((Engine.executor ⟨source, options⟩).executeTo depth) row).run.run s).1 =
        .ok (value row w))
    (hplaced : ∀ row ∈ picked, ∀ record, Exec.Yields source s.frame
      (q.projection (fun e => e.evaluate ((Engine.executor ⟨source, options⟩).executeTo depth) row)
        row) record →
      ∀ key ∈ q.orderBy, key.expr.isWindow = false → ∀ w ∈ key.expr.windows, w.PlacedAlike source
        ((Engine.executor ⟨source, options⟩).executeTo depth) s.frame row (row.merge record)) :
    let run := (Engine.executor ⟨source, options⟩).executeTo depth
    Exec.Alike source s.frame (picked.mapM fun row => q.settledRow run (value row) row)
      (q.project run picked) := by
  intro run
  have hrun : (Coupling.again source).Runs run run := Coupling.again_runs source options depth
  have hproject : q.project run picked = picked.mapM (q.projectRow run) := by
    unfold Query.project
    rw [hgroupBy]
    dsimp only
    rw [if_neg (Bool.eq_false_iff.1 haggregates)]
  rw [hproject]
  refine Exec.Alike.mapM fun row hrow => Query.projectRow_alike hrun (fun key hkey w hw => ?_)
    (hplaced row hrow)
  exact (Exec.Steady.evaluate hrun w row).yields rfl hs (hvalue row hrow key hkey w hw)

/-- Rows in descending order of how many have their integer, counted within a difference by a column
that the result leaves out. -/
theorem windows_in_sort_keys_count :
    let run := (Engine.executor ⟨.memory [], {}⟩).executeTo 0
    let count : Expr := .window "COUNT" [.star] [.identifier "a"] []
    let q : Query := { Query.all "t" with
      items := [⟨.identifier "a", some "b"⟩]
      orderBy := [⟨.binary (.literal (.integer 0)) .subtract count, .ascending⟩] }
    let picked : List Record :=
      [⟨[("a", .integer 1)]⟩, ⟨[("a", .integer 2)]⟩, ⟨[("a", .integer 2)]⟩]
    let s : Session := { Session.start with population := some picked }
    Exec.Yields (.memory []) s.frame (q.project run picked)
      [⟨⟨[("b", .integer 1)]⟩, [.integer (-1)]⟩, ⟨⟨[("b", .integer 2)]⟩, [.integer (-2)]⟩,
        ⟨⟨[("b", .integer 2)]⟩, [.integer (-2)]⟩] := by
  intro run count q picked s
  let value (row : Record) (_ : Expr) : Value := s.resolve row "a"
  have hpicked : ∀ row ∈ picked, row = ⟨[("a", .integer 1)]⟩ ∨ row = ⟨[("a", .integer 2)]⟩ := by
    simp [picked]
  have hvalue : ∀ row ∈ picked, ∀ key ∈ q.orderBy, ∀ w ∈ key.expr.windows,
      ((w.evaluate run row).run.run s).1 = .ok (value row w) := by
    simp only [q, forall_mem_singleton, Expr.windows, nil_append, count]
    intro row hrow
    rcases hpicked row hrow with rfl | rfl
    · simp only [Expr.evaluate]
      rfl
    · simp only [Expr.evaluate]
      rfl
  have hplaced : ∀ row ∈ picked, ∀ record, Exec.Yields (.memory []) s.frame
      (q.projection (fun e => e.evaluate run row) row) record →
      ∀ key ∈ q.orderBy, key.expr.isWindow = false → ∀ w ∈ key.expr.windows,
        w.PlacedAlike (.memory []) run s.frame row (row.merge record) := by
    simp only [q, forall_mem_singleton, Expr.windows, nil_append, count]
    intro row hrow record hrecord _
    have hkey : ∀ v rest, Exec.Yields (.memory []) s.frame
        (Expr.evaluateAll run [.identifier "a"] ⟨("a", v) :: rest⟩) [v] := by
      simp only [Expr.evaluateAll, Expr.evaluate]
      exact fun v rest t ht hl => ⟨t, rfl, ht, hl⟩
    have hb : ∀ v, Exec.Yields (.memory []) s.frame
        (q.projection (fun e => e.evaluate run ⟨[("a", v)]⟩) ⟨[("a", v)]⟩) ⟨[("b", v)]⟩ :=
      fun v t ht hl => ⟨t, rfl, ht, hl⟩
    obtain ⟨v, rfl⟩ : ∃ v, row = ⟨[("a", v)]⟩ := by
      rcases hpicked row hrow with rfl | rfl
      · exact ⟨_, rfl⟩
      · exact ⟨_, rfl⟩
    obtain rfl := hrecord.unique (hb v)
    exact .window (hkey v []) (hkey v [("b", v)]) rfl fun h => absurd h (by decide)
  have halike := windows_in_sort_keys (.memory []) {} 0 (q := q) rfl rfl (Ledger.faithful_start _)
    (s := s) hvalue hplaced
  refine halike.yields_iff.1 ?_
  exact fun t ht hl => ⟨t, rfl, ht, hl⟩

/-- ROW_NUMBER finds no row with the column of the result over it: within a difference it is null,
though it has a value on each row that was picked. -/
theorem windows_in_sort_keys_unplaced :
    let run := (Engine.executor ⟨.memory [], {}⟩).executeTo 0
    let number : Expr := .window "ROW_NUMBER" [] [] []
    let q : Query := { Query.all "t" with
      items := [⟨.identifier "a", some "b"⟩]
      orderBy := [⟨.binary (.literal (.integer 0)) .subtract number, .ascending⟩] }
    let picked : List Record := [⟨[("a", .integer 1)]⟩, ⟨[("a", .integer 2)]⟩]
    let value (row : Record) (_ : Expr) : Value := rowNumber row picked
    let s : Session := { Session.start with population := some picked }
    (∀ row ∈ picked, (number.evaluate run row).run.run s = (.ok (value row number), s)) ∧
    (picked.mapM fun row => q.settledRow run (value row) row).run.run s =
      (.ok [⟨⟨[("b", .integer 1)]⟩, [.integer (-1)]⟩, ⟨⟨[("b", .integer 2)]⟩, [.integer (-2)]⟩],
        s) ∧
    (q.project run picked).run.run s =
      (.ok [⟨⟨[("b", .integer 1)]⟩, [.null]⟩, ⟨⟨[("b", .integer 2)]⟩, [.null]⟩], s) := by
  intro run number q picked value s
  have hnumber : ∀ row, (number.evaluate run row).run.run s = (.ok (rowNumber row picked), s) :=
    Expr.run_rowNumber rfl run []
  have hexact : ∀ n, (⟨[("a", .integer n)]⟩ : Record).Exact := fun n =>
    ⟨.ofFields [("a", .integer n)], forall_mem_singleton.2 (.integer n)⟩
  have hoverlaid : ∀ n, (⟨[("a", .integer n), ("b", .integer n)]⟩ : Record).Exact := fun n =>
    ⟨.ofFields [("a", .integer n), ("b", .integer n)],
      forall_mem_cons.2 ⟨.integer n, forall_mem_singleton.2 (.integer n)⟩⟩
  have hother : ∀ m n, (⟨[("a", .integer m)]⟩ : Record).canonical ≠
      (⟨[("a", .integer n), ("b", .integer n)]⟩ : Record).canonical := by
    intro m n heq
    cases ((Record.canonical_eq_iff (hexact m) (hoverlaid n)).1 heq).values "b"
  have hdifferent : (⟨[("a", .integer 1)]⟩ : Record).canonical ≠
      (⟨[("a", .integer 2)]⟩ : Record).canonical := by
    intro heq
    cases ((Record.canonical_eq_iff (hexact 1) (hexact 2)).1 heq).values "a"
  have hfirst : rowNumber ⟨[("a", .integer 1)]⟩ picked = .integer 1 := by
    simp [rowNumber, picked, findIdx?_cons]
  have hsecond : rowNumber ⟨[("a", .integer 2)]⟩ picked = .integer 2 := by
    simp [rowNumber, picked, findIdx?_cons, hdifferent]
  have hnone : ∀ n, rowNumber ⟨[("a", .integer n), ("b", .integer n)]⟩ picked = .null := by
    simp [rowNumber, picked, findIdx?_cons, hother]
  have hkey : ∀ n, ((Expr.binary (.literal (.integer 0)) .subtract number).evaluate run
      ⟨[("a", .integer n), ("b", .integer n)]⟩).run.run s = (.ok .null, s) := by
    intro n
    rw [Expr.evaluate, Expr.evaluate, pure_bind, Exec.run_bind, hnumber, hnone]
    · rfl
    · intro hand
      cases hand
  have hrow : ∀ n, (q.projectRow run ⟨[("a", .integer n)]⟩).run.run s =
      (.ok ⟨⟨[("b", .integer n)]⟩, [.null]⟩, s) := by
    intro n
    have hkeys : (q.sortKeys run (fun e r => e.evaluate run r) ⟨[("a", .integer n)]⟩
        ⟨[("b", .integer n)]⟩).run.run s = (.ok [.null], s) := by
      unfold Query.sortKeys
      exact Exec.run_mapM_of_ok (h := fun _ => Value.null) fun key hmem => by
        obtain rfl := mem_singleton.1 hmem
        exact hkey n
    have hrecord : (q.projection (fun e => e.evaluate run ⟨[("a", .integer n)]⟩)
        ⟨[("a", .integer n)]⟩).run.run s = (.ok ⟨[("b", .integer n)]⟩, s) := rfl
    rw [Query.projectRow, Exec.run_bind, hrecord]
    dsimp only
    rw [Exec.run_bind, hkeys]
    rfl
  refine ⟨fun row _ => hnumber row, ?_, ?_⟩
  · have hone : value ⟨[("a", .integer 1)]⟩ = fun _ => .integer 1 := funext fun _ => hfirst
    have htwo : value ⟨[("a", .integer 2)]⟩ = fun _ => .integer 2 := funext fun _ => hsecond
    simp only [picked, mapM_cons, mapM_nil, hone, htwo]
    rfl
  · show ((picked.mapM (q.projectRow run)).run.run s) = _
    rw [mapM_cons, Exec.run_bind, hrow 1]
    dsimp only
    rw [Exec.run_bind, mapM_cons, Exec.run_bind, hrow 2]
    rfl

end RowQuery
