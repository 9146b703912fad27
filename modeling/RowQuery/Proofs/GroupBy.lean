/-
# GROUP BY divides the rows

The rows that a query picked are divided by the text of the first grouping expression, one
group for each text. No row is lost, repeated or moved within its group, and without HAVING
each group has one result, so that the counts of the groups add up to the number of rows.

The grouping expression may be of any kind and the loader may answer anything: all that is
asked is that the expression has a value on each row, when it is evaluated on one row after
the other.

Key theorems: `Query.groups_run`, `Query.project_of_groups`, `Query.projection_column`,
`group_by_partitions`.
-/
import RowQuery.Proofs.Columns
import RowQuery.Proofs.Partition
import RowQuery.Proofs.Reduction
import RowQuery.Source.Memory

namespace RowQuery

open List

/-- An item makes no column of a name from a row. -/
def SelectItem.Avoids (item : SelectItem) (name : String) (source : Record) : Prop :=
  if item.isStar then name ∉ source.columns else item.columnName ≠ name

namespace Query

variable {run : Runner} {q : Query} {k : Expr} {rest : List Expr} {rows : List Record}

/-! ### Groups -/

/-- Rows with a value each fall into the groups of the texts of these values. -/
theorem groups_run {values : List Value} {s s₁ : Session}
    (h : (rows.mapM fun row => k.evaluate run row).run.run s = (.ok values, s₁)) :
    (Query.groups run k rows).run.run s =
      (.ok (Groups.ofList ((values.map Value.text).zip rows)), s₁) := by
  unfold Query.groups
  rw [Exec.run_bind, h]
  rfl

/-- With GROUP BY the results are those of the groups, as far as these are wanted. -/
theorem project_of_groups (hq : q.groupBy = k :: rest) {groups : Groups Record}
    {results : List Projected} {s s₁ s' : Session}
    (hgroups : (Query.groups run k rows).run.run s = (.ok groups, s₁))
    (h : (q.project run rows).run.run s = (.ok results, s')) :
    ∃ found, (groups.mapM fun g => q.projectGroup run g.2).run.run s₁ = (.ok found, s') ∧
      results = found.filterMap id := by
  unfold project at h
  rw [hq] at h
  dsimp only at h
  rw [Exec.run_bind, hgroups] at h
  obtain ⟨found, s₂, hfound, hlast⟩ := Exec.run_bind_ok h
  obtain ⟨hresults, rfl⟩ := Prod.mk.inj hlast
  exact ⟨found, hfound, (Except.ok.inj hresults).symm⟩

theorem select_groupBy_cons (others : List Expr) (indexed : Bool) (rows : List Record) :
    { q with groupBy := k :: others }.select run indexed rows =
      { q with groupBy := [k] }.select run indexed rows := rfl

/-! ### Columns of results -/

section Gives

open Exec (Gives)

variable {value : Expr → Exec Value} {source : Record}

theorem itemFields_gives (item : SelectItem) :
    Gives (fun fields => if item.isStar then fields = source.fields
      else ∃ v, fields = [(item.columnName, v)]) (itemFields value source item) := by
  unfold itemFields
  split
  · exact .pure rfl
  · exact Gives.any.bind fun v _ => .pure ⟨v, rfl⟩

theorem itemFields_avoids {name : String} {item : SelectItem} (h : item.Avoids name source) :
    Gives (fun fields => name ∉ fields.map Prod.fst) (itemFields value source item) := by
  refine (itemFields_gives item).mono fun fields hfields => ?_
  unfold SelectItem.Avoids at h
  split at hfields
  · rename_i hstar
    rw [if_pos hstar] at h
    rw [hfields]
    exact h
  · rename_i hstar
    rw [if_neg hstar] at h
    obtain ⟨v, rfl⟩ := hfields
    simpa using h.symm

/-- **The last item of a name has its value in the record.** -/
theorem projection_column {before after : List SelectItem} {item : SelectItem} {v : Value}
    (hq : q.items = before ++ item :: after) (hstar : item.isStar = false)
    (hvalue : value item.expr = pure v)
    (hafter : ∀ other ∈ after, other.Avoids item.columnName source) :
    Gives (fun record => record.get? item.columnName = some v) (q.projection value source) := by
  unfold projection
  rw [hq, mapM_append, mapM_cons]
  simp only [bind_assoc, pure_bind]
  refine Gives.any.bind fun front _ => ?_
  have hitem : itemFields value source item = pure [(item.columnName, v)] := by
    simp only [itemFields, hstar, hvalue, Bool.false_eq_true, if_false, pure_bind]
  rw [hitem, pure_bind]
  refine (Gives.mapM fun other hother => itemFields_avoids (hafter other hother)).bind
    fun back hback => .pure ?_
  rw [flatten_append, flatten_cons, singleton_append]
  refine Record.get?_ofFields_of_last v front.flatten ?_
  simpa using hback.2

/-! ### Results of groups -/

omit value source in
/-- Where every item has a result, the results are one for each item. -/
theorem forall₂_of_some {α β : Type} {A : α → β → Prop} {xs : List α} {found : List (Option β)}
    (h : Forall₂ (fun x o => ∃ y, o = some y ∧ A x y) xs found) :
    found = (found.filterMap id).map some ∧ Forall₂ A xs (found.filterMap id) := by
  induction h with
  | nil => exact ⟨rfl, .nil⟩
  | @cons _ _ _ found h _ ih =>
    obtain ⟨y, rfl, hy⟩ := h
    obtain ⟨hfound, hforall⟩ := ih
    have hcons : (some y :: found).filterMap id = y :: found.filterMap id := rfl
    rw [hcons, map_cons, ← hfound]
    exact ⟨rfl, .cons hy hforall⟩

/-- Without HAVING a group has a result. -/
theorem projectGroup_of_no_having (hq : q.having = none) {group : List Record}
    (column : Record → Prop)
    (h : Gives column (q.projection (fun e => e.evaluateGrouped run group (group.head?.getD .empty))
      (group.head?.getD .empty))) :
    Gives (fun o => ∃ p : Projected, o = some p ∧ column p.record) (q.projectGroup run group) := by
  refine h.bind fun record hrecord => ?_
  unfold isWanted
  rw [hq]
  dsimp only
  rw [pure_bind, if_pos rfl]
  exact Gives.any.bind fun keys _ => .pure ⟨_, rfl, hrecord⟩

/-- Rows that are counted have a column with their number, if no item puts another one in its
place. -/
theorem projectGroup_count (hq : q.having = none) {before after : List SelectItem}
    {item : SelectItem} {args : List Expr} (hitems : q.items = before ++ item :: after)
    (hcount : item.expr = .call "COUNT" args) {group : List Record} (hgroup : group ≠ [])
    (hafter : ∀ other ∈ after, ∀ row ∈ group, other.Avoids item.columnName row) :
    Gives (fun o => ∃ p : Projected, o = some p ∧
        p.record.get? item.columnName = some (.integer (Int64.ofNat group.length)))
      (q.projectGroup run group) := by
  obtain ⟨row, others, rfl⟩ := exists_cons_of_ne_nil hgroup
  have hstar : item.isStar = false := by
    simp [SelectItem.isStar, hcount]
  have hvalue : item.expr.evaluateGrouped run (row :: others) row =
      pure (.integer (Int64.ofNat (row :: others).length)) := by
    rw [hcount, Expr.evaluateGrouped_call run (row :: others) (a := .count) rfl]
    simp only [Expr.aggregate]
  exact projectGroup_of_no_having hq _
    (projection_column hitems hstar hvalue fun other hother => hafter other hother row mem_cons_self)

/-- Without HAVING every group has one result, and in a column that counts rows the results have the
numbers of rows in the groups. -/
theorem results_of_no_having (hq : q.having = none) {groups : Groups Record}
    (hgroups : ∀ g ∈ groups, g.2 ≠ []) {found : List (Option Projected)} {s s' : Session}
    (h : (groups.mapM fun g => q.projectGroup run g.2).run.run s = (.ok found, s')) :
    let results := found.filterMap id
    found = results.map some ∧ results.length = groups.length ∧
      ∀ before item after args, q.items = before ++ item :: after →
        item.expr = .call "COUNT" args →
        (∀ other ∈ after, ∀ g ∈ groups, ∀ row ∈ g.2, other.Avoids item.columnName row) →
        results.map (fun p => p.record.get? item.columnName) =
          groups.map fun g => some (.integer (Int64.ofNat g.2.length)) := by
  intro results
  have hresults : ∀ {A : String × List Record → Projected → Prop},
      (∀ g ∈ groups, Gives (fun o => ∃ p, o = some p ∧ A g p) (q.projectGroup run g.2)) →
      found = results.map some ∧ Forall₂ A groups results :=
    fun hgives => forall₂_of_some (Gives.mapM_forall₂ hgives s found s' h)
  obtain ⟨hsome, hall⟩ := hresults (A := fun _ _ => True) fun g _ =>
    projectGroup_of_no_having hq (fun _ => True) .any
  refine ⟨hsome, hall.length_eq.symm, fun before item after args hitems hcount hafter => ?_⟩
  have hcounts := (hresults fun g hg => projectGroup_count hq hitems hcount (hgroups g hg)
    fun other hother row hrow => hafter other hother g hg row hrow).2
  exact (map_eq_of_rel (fun _ _ h => h.symm) hcounts).symm

end Gives

end Query

/-- **GROUP BY divides the rows that were picked.** If the first grouping expression has a value on
every row, there is one group for each text of these values, in the order in which the texts come up
first; a group is the rows of its text, in order, of which there is one at least; every row belongs
to one group, and the groups together are the rows, rearranged. Results are those of the groups, in
order; without HAVING every group has one, and in a column that counts rows they have the numbers of
rows in the groups, which add up to the number of all rows. Further grouping expressions change
nothing. -/
theorem group_by_partitions (executor : Executor) (depth : Nat) (q : Query) {k : Expr}
    {rest : List Expr} (hq : q.groupBy = k :: rest) (rows : List Record) {values : List Value}
    {s s₁ : Session}
    (hvalues : (rows.mapM fun row => k.evaluate (executor.executeTo depth) row).run.run s =
      (.ok values, s₁)) :
    let run := executor.executeTo depth
    let texts := values.map Value.text
    ∃ groups : Groups Record,
      (Query.groups run k rows).run.run s = (.ok groups, s₁) ∧
      groups.map Prod.fst = texts.eraseDups ∧ (groups.map Prod.fst).Nodup ∧
      (∀ g ∈ groups, g.2 ≠ [] ∧ g.2 = ((texts.zip rows).filter fun p => p.1 == g.1).map Prod.snd) ∧
      (∀ p ∈ texts.zip rows, ∃! g, g ∈ groups ∧ g.1 = p.1) ∧
      groups.flatMap Prod.snd ~ rows ∧ (groups.map fun g => g.2.length).sum = rows.length ∧
      (∀ results s', (q.project run rows).run.run s = (.ok results, s') →
        ∃ found, (groups.mapM fun g => q.projectGroup run g.2).run.run s₁ = (.ok found, s') ∧
          results = found.filterMap id ∧
          (q.having = none → found = results.map some ∧ results.length = groups.length ∧
            ∀ before item after args, q.items = before ++ item :: after →
              item.expr = .call "COUNT" args →
              (∀ other ∈ after, ∀ row ∈ rows, other.Avoids item.columnName row) →
              results.map (fun p => p.record.get? item.columnName) =
                groups.map fun g => some (.integer (Int64.ofNat g.2.length)))) ∧
      ∀ others indexed picked, { q with groupBy := k :: others }.select run indexed picked =
        q.select run indexed picked := by
  intro run texts
  let groups : Groups Record := Groups.ofList (texts.zip rows)
  have hlength : texts.length = rows.length := by
    rw [length_map]
    exact ((Exec.Gives.mapM fun _ _ => .any) s values s₁ hvalues).1
  have hmembers : ∀ g ∈ groups, ∀ row ∈ g.2, row ∈ rows := by
    intro g hg row hrow
    rw [Groups.snd_of_mem_ofList hg] at hrow
    obtain ⟨p, hp, rfl⟩ := mem_map.1 hrow
    exact (of_mem_zip (mem_filter.1 hp).1).2
  have hperm : groups.flatMap Prod.snd ~ rows := by
    have hall := Groups.flatMap_ofList_perm (texts.zip rows)
    rwa [map_snd_zip hlength.ge] at hall
  refine ⟨groups, Query.groups_run hvalues, ?_,
    Groups.keys_ofList_nodup _, fun g hg => ⟨Groups.ne_nil_of_mem_ofList hg,
      Groups.snd_of_mem_ofList hg⟩, fun p hp => Groups.existsUnique_of_key (mem_map_of_mem hp),
    hperm, ?_, fun results s' h => ?_, fun others indexed picked => ?_⟩
  · have hkeys := Groups.keys_ofList (texts.zip rows)
    rwa [map_fst_zip hlength.le] at hkeys
  · rw [← length_flatMap, hperm.length_eq]
  · obtain ⟨found, hfound, rfl⟩ := Query.project_of_groups hq (Query.groups_run hvalues) h
    refine ⟨found, hfound, rfl, fun hhaving => ?_⟩
    obtain ⟨hsome, hlength, hcounts⟩ :=
      Query.results_of_no_having hhaving (fun g hg => Groups.ne_nil_of_mem_ofList hg) hfound
    refine ⟨hsome, hlength, fun before item after args hitems hcount hafter => ?_⟩
    exact hcounts before item after args hitems hcount fun other hother g hg row hrow =>
      hafter other hother row (hmembers g hg row hrow)
  · have hself : { q with groupBy := k :: rest } = q := by
      cases q
      cases hq
      rfl
    calc { q with groupBy := k :: others }.select run indexed picked
      _ = { q with groupBy := [k] }.select run indexed picked :=
        Query.select_groupBy_cons others indexed picked
      _ = { q with groupBy := k :: rest }.select run indexed picked :=
        (Query.select_groupBy_cons rest indexed picked).symm
      _ = q.select run indexed picked := by rw [hself]

/-- Rows with null and with the empty text in the column that they are grouped by: one group. -/
theorem group_by_partitions_null :
    let run := (Engine.executor ⟨.memory [], {}⟩).executeTo 0
    let q : Query := { Query.all "t" with
      items := [⟨.call "COUNT" [.star], some "n"⟩], groupBy := [.identifier "a", .identifier "b"] }
    let rows : List Record :=
      [⟨[("a", .null)]⟩, ⟨[("a", .string "x")]⟩, ⟨[("a", .string "")]⟩]
    (rows.mapM fun row => (Expr.identifier "a").evaluate run row).run.run .start =
        (.ok [.null, .string "x", .string ""], .start) ∧
      ∃ (groups : Groups Record) (results : List Projected),
        groups.map Prod.fst = ["", "x"] ∧ groups.flatMap Prod.snd ~ rows ∧
        (q.project run rows).run.run .start = (.ok results, .start) ∧
        results.map (fun p => p.record.get? "n") =
          groups.map fun g => some (.integer (Int64.ofNat g.2.length)) := by
  intro run q rows
  have hvalues : (rows.mapM fun row => (Expr.identifier "a").evaluate run row).run.run .start =
      (.ok [.null, .string "x", .string ""], .start) := rfl
  obtain ⟨results, hresults⟩ :
      ∃ results, (q.project run rows).run.run .start = (.ok results, .start) := ⟨_, rfl⟩
  obtain ⟨groups, -, hkeys, -, -, -, hperm, -, hproject, -⟩ :=
    group_by_partitions (Engine.executor ⟨.memory [], {}⟩) 0 q rfl rows hvalues
  obtain ⟨found, -, -, hcounts⟩ := hproject results .start hresults
  obtain ⟨-, -, hcounts⟩ := hcounts rfl
  refine ⟨hvalues, groups, results, ?_, hperm, hresults, ?_⟩
  · rw [hkeys]
    decide
  · exact hcounts [] ⟨.call "COUNT" [.star], some "n"⟩ [] [.star] rfl rfl (forall_mem_nil _)

end RowQuery
