/-
# Windows agree with groups

GROUP BY makes the groups of all rows in one pass. A window finds the rows of its partition
anew for each row that it is evaluated on, by the texts of the partition expressions on all
rows it ranges over. With one partition expression both find the same rows in the same order,
whatever the texts are; so an aggregate means the same over a window and over a group, also
where the order of the rows matters. A window without partition expressions finds all rows.

The arguments of the aggregate may fail. The window and the group then fail alike.

Key definition: `Expr.overPartition`.
Key theorems: `Expr.evaluate_window`, `Expr.window_alike_over`, `Query.mem_group_iff`,
`window_agrees_with_groups`.
-/
import RowQuery.Proofs.GroupBy

namespace RowQuery

open List

/-! ### Rows of one text -/

theorem partitionKey_singleton (v : Value) : partitionKey [v] = v.text := by
  simp [partitionKey]

/-- Items that are picked by what each makes a pair with. -/
theorem map_filter_of_leftInverse {α β : Type} {pair : α → β} {item : β → α}
    (h : Function.LeftInverse item pair) (p : β → Bool) (xs : List α) :
    ((xs.map pair).filter p).map item = xs.filter (p ∘ pair) := by
  rw [filter_map, map_map, h.comp_eq_id, map_id]

/-- The rows of a partition, by the keys that the rows have. -/
theorem partition_eq_filter (keys : Record → List Value) (p : List Value → Bool)
    (rows : List Record) :
    ((rows.zip (rows.map keys)).filter fun x => p x.2).map Prod.fst =
      rows.filter fun r => p (keys r) := by
  have hzip : rows.zip (rows.map keys) = rows.map fun r => (r, keys r) := by
    simpa using zip_map' (f := id) (g := keys) (l := rows)
  rw [hzip]
  exact map_filter_of_leftInverse (fun _ => rfl) _ rows

namespace Query

/-- The groups of rows by the texts of values. -/
abbrev groupsOf (value : Record → Value) (rows : List Record) : Groups Record :=
  Groups.ofList (((rows.map value).map Value.text).zip rows)

variable {value : Record → Value} {rows : List Record} {g : String × List Record} {r : Record}

theorem groupsOf_eq (value : Record → Value) (rows : List Record) :
    groupsOf value rows = Groups.ofList (rows.map fun r => ((value r).text, r)) := by
  have hzip : (rows.map (Value.text ∘ value)).zip rows = rows.map fun r => ((value r).text, r) := by
    simpa using zip_map' (f := Value.text ∘ value) (g := id) (l := rows)
  rw [groupsOf, map_map, hzip]

/-- A group is the rows of its text, in order. -/
theorem group_eq_filter (hg : g ∈ groupsOf value rows) :
    g.2 = rows.filter fun r => (value r).text == g.1 := by
  rw [groupsOf_eq] at hg
  rw [Groups.snd_of_mem_ofList hg]
  exact map_filter_of_leftInverse (fun _ => rfl) _ rows

/-- A row is in the group of its text, and in no other. -/
theorem mem_group_iff (hg : g ∈ groupsOf value rows) (hr : r ∈ rows) :
    r ∈ g.2 ↔ g.1 = (value r).text := by
  rw [group_eq_filter hg, mem_filter, beq_iff_eq]
  exact ⟨fun h => h.2.symm, fun h => ⟨hr, h.symm⟩⟩

/-- Every row is in one group. -/
theorem existsUnique_group (value : Record → Value) (hr : r ∈ rows) :
    ∃! g, g ∈ groupsOf value rows ∧ r ∈ g.2 := by
  have htext : (value r).text ∈ (rows.map fun r => ((value r).text, r)).map Prod.fst := by
    rw [map_map]
    exact mem_map_of_mem hr
  obtain ⟨g, ⟨hg, hkey⟩, hunique⟩ := Groups.existsUnique_of_key htext
  rw [← groupsOf_eq] at hg
  refine ⟨g, ⟨hg, (mem_group_iff hg hr).2 hkey⟩, fun g' ⟨hg', hr'⟩ => hunique g' ⟨?_, ?_⟩⟩
  · rwa [← groupsOf_eq]
  · exact (mem_group_iff hg' hr).1 hr'

end Query

/-! ### The value of a window -/

namespace Expr

open Exec (Alike Steady Yields)

variable {source : Source} {run : Runner} {f : Frame} {rows : List Record} {name : String}
  {args partitionBy : List Expr} {a : Aggregate}

theorem evaluateAll_singleton {k : Expr} {row : Record} {v : Value}
    (h : Yields source f (k.evaluate run row) v) :
    Yields source f (evaluateAll run [k] row) [v] := by
  simp only [evaluateAll, pure_bind]
  exact h.bind (.pure _)

/-- Expressions have one value each. -/
theorem evaluateAll_gives (run : Runner) (row : Record) (es : List Expr) :
    Exec.Gives (fun values => values.length = es.length) (evaluateAll run es row) := by
  induction es with
  | nil =>
    simp only [evaluateAll]
    exact .pure rfl
  | cons e rest ih =>
    simp only [evaluateAll]
    refine Exec.Gives.any.bind fun v _ => ih.bind fun values hvalues => ?_
    exact .pure (by rw [length_cons, hvalues, length_cons])

/-- The value of a window on a row, given the rows of its partition. -/
def overPartition (run : Runner) (name : String) (args : List Expr) (orderBy : List SortKey)
    (row : Record) (partition : List Record) : Exec Value := do
  if name = "ROW_NUMBER" then
    let keys ← partition.mapM fun r => evaluateKeys run orderBy r
    let directions := orderBy.map SortKey.direction
    return rowNumber row (← Exec.sorted keyedRowSize directions (partition.zip keys))
  else
    match Aggregate.ofName? name with
    | some f => aggregate run args f partition
    | none => return .null

/-- **A window is evaluated over the rows that have the key of the present row**, if there are rows
that windows range over. -/
theorem evaluate_window (run : Runner) (name : String) (args partitionBy : List Expr)
    (orderBy : List SortKey) (row : Record) :
    (Expr.window name args partitionBy orderBy).evaluate run row = get >>= fun s =>
      match s.population with
      | none => pure .null
      | some rows => evaluateAll run partitionBy row >>= fun key =>
        (rows.mapM fun r => evaluateAll run partitionBy r) >>= fun keys =>
          overPartition run name args orderBy row
            (((rows.zip keys).filter fun p => partitionKey p.2 == partitionKey key).map
              Prod.fst) := by
  simp only [evaluate]
  rfl

/-- What a window does once the keys of all rows are found. -/
theorem window_run {row : Record} {s s₁ s₂ : Session} {key : List Value} {keys : List (List Value)}
    (hrows : s.population = some rows)
    (hkey : (evaluateAll run partitionBy row).run.run s = (.ok key, s₁))
    (hkeys : (rows.mapM fun r => evaluateAll run partitionBy r).run.run s₁ = (.ok keys, s₂))
    (name : String) (args : List Expr) (orderBy : List SortKey) :
    ((Expr.window name args partitionBy orderBy).evaluate run row).run.run s =
      (overPartition run name args orderBy row
        (((rows.zip keys).filter fun p => partitionKey p.2 == partitionKey key).map
          Prod.fst)).run.run s₂ := by
  rw [evaluate_window, Exec.run_get_bind, hrows]
  dsimp only
  rw [Exec.run_bind, hkey]
  dsimp only
  rw [Exec.run_bind, hkeys]

theorem overPartition_of_aggregate (run : Runner) (args : List Expr) (orderBy : List SortKey)
    (row : Record) (hname : Aggregate.ofName? name = some a) (partition : List Record) :
    overPartition run name args orderBy row partition = aggregate run args a partition := by
  have hnumber : name ≠ "ROW_NUMBER" := by
    rintro rfl
    cases hname
  unfold overPartition
  rw [if_neg hnumber, hname]

section Steady

variable (hrun : (Coupling.again source).Runs run run)

include hrun

theorem overPartition_steady (name : String) (args : List Expr) (orderBy : List SortKey)
    (row : Record) (partition : List Record) :
    Steady source f (overPartition run name args orderBy row partition) := by
  unfold overPartition
  split
  · exact Coupling.rowNumber_coupled Coupling.again_lawful trivial (Coupling.again_row row)
      (Coupling.again_rows partition) (fun _ _ h => Coupling.evaluateKeys_coupled
        Coupling.again_lawful hrun orderBy (Coupling.again_frames f true) (Coupling.again_admits _) h)
      _ (.inr trivial)
  · split
    · exact aggregate_steady hrun args _ partition
    · exact .pure rfl

/-- A window ends as it does over the rows on which the partition expressions make the key that they
make on the present row. -/
theorem window_alike_over (name : String) (args : List Expr) (orderBy : List SortKey)
    (hpopulation : f.population = some rows) {row : Record} {key : List Value}
    {keys : Record → List Value} (hkey : Yields source f (evaluateAll run partitionBy row) key)
    (hkeys : ∀ r ∈ rows, Yields source f (evaluateAll run partitionBy r) (keys r)) :
    Alike source f ((Expr.window name args partitionBy orderBy).evaluate run row)
      (overPartition run name args orderBy row
        (rows.filter fun r => partitionKey (keys r) == partitionKey key)) := by
  rw [evaluate_window]
  refine Alike.of_get fun s hs => ?_
  have hrows : s.population = some rows := by
    rw [← hpopulation, ← hs]
    rfl
  rw [hrows]
  refine Alike.of_yields_bind hkey (Alike.of_yields_bind (Yields.mapM_map hkeys) ?_)
  rw [partition_eq_filter keys (fun values => partitionKey values == partitionKey key)]
  exact (overPartition_steady hrun name args orderBy row _).alike

end Steady

/-- **A window ends as its aggregate does over the rows of its partition.** -/
theorem window_alike (args : List Expr) (orderBy : List SortKey)
    (hrun : (Coupling.again source).Runs run run) (hpopulation : f.population = some rows)
    (hname : Aggregate.ofName? name = some a)
    {row : Record} {key : List Value} {keys : Record → List Value}
    (hkey : Yields source f (evaluateAll run partitionBy row) key)
    (hkeys : ∀ r ∈ rows, Yields source f (evaluateAll run partitionBy r) (keys r)) :
    Alike source f ((Expr.window name args partitionBy orderBy).evaluate run row)
      (aggregate run args a (rows.filter fun r => partitionKey (keys r) == partitionKey key)) := by
  rw [← overPartition_of_aggregate run args orderBy row hname]
  exact window_alike_over hrun name args orderBy hpopulation hkey hkeys

/-- An aggregate has a value over rows on each of which its argument has one. -/
theorem aggregate_yields (hargs : ∀ x ∈ args.head?, ∀ r ∈ rows,
    ∃ v, Yields source f (x.evaluate run r) v) :
    ∃ v, Yields source f (aggregate run args a rows) v := by
  by_cases hcount : a = .count
  · subst hcount
    simp only [aggregate]
    exact ⟨_, .pure _⟩
  cases args with
  | nil =>
    rw [aggregate]
    · exact ⟨_, .pure _⟩
    · exact hcount
  | cons x rest =>
    choose! value hvalue using hargs x rfl
    rw [aggregate]
    · exact ⟨_, (Yields.mapM_map hvalue).bind (.pure _)⟩
    · exact hcount

end Expr

/-- **Windows agree with groups.** On a source, let windows range over some rows, on each of which
an expression has a value. Then these rows have groups by the expression; every one of them is in
one group; and evaluated on it, an aggregate over the window that is partitioned by the expression
ends as the aggregate does over that group. An aggregate over the window without partitions ends,
on any row, as it does over all rows without GROUP BY. If the argument has a value on every row,
the windows have values. -/
theorem window_agrees_with_groups (source : Source) (options : Options) (depth : Nat)
    {name : String} {a : Aggregate} (hname : Aggregate.ofName? name = some a) (args : List Expr)
    (k : Expr) (orderBy : List SortKey) {rows : List Record} {s : Session}
    (hs : s.ledger.Faithful source) (hrows : s.population = some rows)
    (hk : ∀ row ∈ rows, ∃ v,
      ((k.evaluate ((Engine.executor ⟨source, options⟩).executeTo depth) row).run.run s).1 =
        .ok v) :
    let run := (Engine.executor ⟨source, options⟩).executeTo depth
    let windowed (partitionBy : List Expr) (r : Record) : Exec Value :=
      (Expr.window name args partitionBy orderBy).evaluate run r
    let grouped (group : List Record) (row : Record) : Exec Value :=
      (Expr.call name args).evaluateGrouped run group row
    (∃ groups, Exec.Yields source s.frame (Query.groups run k rows) groups ∧
      ∀ r ∈ rows, ∃ g ∈ groups, r ∈ g.2 ∧ (∀ g' ∈ groups, r ∈ g'.2 → g' = g) ∧
        ∀ row, Exec.Alike source s.frame (windowed [k] r) (grouped g.2 row)) ∧
    (∀ r row, Exec.Alike source s.frame (windowed [] r) (grouped rows row)) ∧
    ((∀ x ∈ args.head?, ∀ row ∈ rows, ∃ v, ((x.evaluate run row).run.run s).1 = .ok v) →
      (∀ r ∈ rows, ∃ v, Exec.Yields source s.frame (windowed [k] r) v) ∧
      ∀ r, ∃ v, Exec.Yields source s.frame (windowed [] r) v) := by
  intro run windowed grouped
  have hrun : (Coupling.again source).Runs run run := Coupling.again_runs source options depth
  have hpopulation : s.frame.population = some rows := hrows
  have hyields : ∀ {e : Expr} {row : Record},
      (∃ v, ((e.evaluate run row).run.run s).1 = .ok v) →
      ∃ v, Exec.Yields source s.frame (e.evaluate run row) v := fun ⟨v, hv⟩ =>
    ⟨v, (Exec.Steady.evaluate hrun _ _).yields rfl hs hv⟩
  choose! value hvalue using fun row hrow => hyields (hk row hrow)
  -- Both kinds of windows, as aggregates over the rows that they find.
  have hpartition : ∀ r ∈ rows, Exec.Alike source s.frame (windowed [k] r)
      (Expr.aggregate run args a (rows.filter fun r' => (value r').text == (value r).text)) := by
    intro r hr
    have hkeys : ∀ r' ∈ rows,
        Exec.Yields source s.frame (Expr.evaluateAll run [k] r') [value r'] := fun r' hr' =>
      Expr.evaluateAll_singleton (hvalue r' hr')
    have hwindow := Expr.window_alike args orderBy hrun hpopulation hname (hkeys r hr) hkeys
    simpa only [partitionKey_singleton] using hwindow
  have hall : ∀ r, Exec.Alike source s.frame (windowed [] r) (Expr.aggregate run args a rows) := by
    intro r
    have hkeys : ∀ r', Exec.Yields source s.frame (Expr.evaluateAll run [] r') [] :=
      fun _ => .pure _
    have hwindow := Expr.window_alike args orderBy hrun hpopulation hname (hkeys r) fun r' _ =>
      hkeys r'
    simpa only [beq_self_eq_true, filter_true] using hwindow
  have hgroup : ∀ group row, grouped group row = Expr.aggregate run args a group :=
    fun group row => Expr.evaluateGrouped_call run group hname row
  refine ⟨⟨Query.groupsOf value rows, ?_, fun r hr => ?_⟩, fun r row => ?_, fun hargs => ?_⟩
  · exact (Exec.Yields.mapM_map hvalue).bind (.pure _)
  · obtain ⟨g, ⟨hg, hmem⟩, hunique⟩ := Query.existsUnique_group value hr
    refine ⟨g, hg, hmem, fun g' hg' hr' => hunique g' ⟨hg', hr'⟩, fun row => ?_⟩
    rw [hgroup, Query.group_eq_filter hg, (Query.mem_group_iff hg hr).1 hmem]
    exact hpartition r hr
  · rw [hgroup]
    exact hall r
  · have hvalues : ∀ group ⊆ rows, ∃ v,
        Exec.Yields source s.frame (Expr.aggregate run args a group) v := fun group hsub =>
      Expr.aggregate_yields fun x hx r hr => hyields (hargs x hx r (hsub hr))
    refine ⟨fun r hr => ?_, fun r => ?_⟩
    · obtain ⟨v, hv⟩ := hvalues _ (filter_subset_self _)
      exact ⟨v, (hpartition r hr).yields_iff.2 hv⟩
    · obtain ⟨v, hv⟩ := hvalues rows (Subset.refl rows)
      exact ⟨v, (hall r).yields_iff.2 hv⟩

/-- Rows with null, with a bar and with the empty text in the column that they are divided by: the
window on each sums up what its group sums up. -/
theorem window_agrees_with_groups_null :
    let run := (Engine.executor ⟨.memory [], {}⟩).executeTo 0
    let rows : List Record := [⟨[("a", .null), ("b", .integer 1)]⟩,
      ⟨[("a", .string "|"), ("b", .integer 2)]⟩, ⟨[("a", .string ""), ("b", .integer 4)]⟩]
    let s : Session := { Session.start with population := some rows }
    let windowed (r : Record) : Exec Value :=
      (Expr.window "SUM" [.identifier "b"] [.identifier "a"] []).evaluate run r
    let grouped (group : List Record) : Exec Value :=
      (Expr.call "SUM" [.identifier "b"]).evaluateGrouped run group .empty
    (∀ row ∈ rows, ∃ v, (((Expr.identifier "a").evaluate run row).run.run s).1 = .ok v) ∧
      ∃ groups, Exec.Yields (.memory []) s.frame (Query.groups run (.identifier "a") rows) groups ∧
        ∀ r ∈ rows, ∃ g ∈ groups, r ∈ g.2 ∧ ∃ v, Exec.Yields (.memory []) s.frame (windowed r) v ∧
          Exec.Yields (.memory []) s.frame (grouped g.2) v := by
  intro run rows s windowed grouped
  have hname : Aggregate.ofName? "SUM" = some .sum := rfl
  have hvalues : ∀ name, ∀ row ∈ rows,
      ∃ v, (((Expr.identifier name).evaluate run row).run.run s).1 = .ok v :=
    fun name row _ => ⟨s.resolve row name, by simp only [Expr.evaluate]; rfl⟩
  obtain ⟨⟨groups, hgroups, halike⟩, -, hyields⟩ :=
    window_agrees_with_groups (.memory []) {} 0 hname [.identifier "b"] (.identifier "a") []
      (Ledger.faithful_start _) (s := s) rfl (hvalues "a")
  have hargs := (hyields (by rintro x ⟨⟩; exact hvalues "b")).1
  refine ⟨hvalues "a", groups, hgroups, fun r hr => ?_⟩
  obtain ⟨g, hg, hmem, -, hends⟩ := halike r hr
  obtain ⟨v, hv⟩ := hargs r hr
  exact ⟨g, hg, hmem, v, hv, (hends .empty).yields_iff.1 hv⟩

end RowQuery
