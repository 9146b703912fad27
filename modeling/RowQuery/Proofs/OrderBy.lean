/-
# Order and pages of a result

A query finds its results with their sort keys, leaves out repeated ones, puts the rest
in order and picks a page of it. The keys of a result belong to the row, or the group
of rows, that its record is made of, and stay with it until it has its place.

On a source, what a result is does not depend on whether sort keys are found along with
it. So the results that are put in order are those of the query without ORDER BY.

Key definitions: `Query.results`, `Query.unordered`, `Query.Projects`, `Query.Belongs`.
Key theorems: `Query.select_run`, `Query.results_gives`, `Query.project_yields`,
`Query.results_yields`, `Limit.getElem?_apply`, `order_by_sorts_and_limit_pages`.
-/
import RowQuery.Proofs.Coupling.Again
import RowQuery.Proofs.Distinct
import RowQuery.Proofs.Sorting
import RowQuery.Proofs.Within

namespace RowQuery

open List

/-! ### Pages -/

namespace Limit

/-- **A page has the items from the offset on**, up to the count. -/
theorem getElem?_apply {α : Type} (limit : Limit) (items : List α) (i : Nat) :
    (limit.apply items)[i]? =
      if ∀ count ∈ limit.count, i < count then items[limit.offset + i]? else none := by
  unfold Limit.apply
  cases limit.count with
  | none => simp
  | some count => simp [getElem?_take, getElem?_drop]

/-- Two pages one after the other. -/
theorem apply_append {α : Type} (items : List α) (n : Nat) :
    (⟨some n, 0⟩ : Limit).apply items ++ (⟨some (items.length - n), n⟩ : Limit).apply items =
      items := by
  have hrest : (items.drop n).take (items.length - n) = items.drop n :=
    take_of_length_le (by rw [length_drop])
  unfold Limit.apply
  dsimp only
  rw [drop_zero, hrest, take_append_drop]

end Limit

namespace Query

variable {run : Runner} {q : Query} {rows : List Record}

/-! ### Results before they are in order -/

/-- The results of a query with their sort keys, of which none is repeated if this is asked. -/
def results (run : Runner) (indexed : Bool) (q : Query) (rows : List Record) :
    Exec (List Projected) := do
  let picked ← q.filter run indexed rows
  return q.distinctRows (← Exec.withPopulation picked (q.project run picked))

theorem select_eq {indexed : Bool} : q.select run indexed rows =
    q.results run indexed rows >>= fun base => q.order base >>= fun records =>
      pure (q.page records) := by
  unfold select results
  simp only [bind_assoc, pure_bind]

/-- Order and limit are about the results, and change nothing else. -/
theorem select_run {indexed : Bool} {base sorted : List Projected} {s s' : Session}
    (h : (q.results run indexed rows).run.run s = (.ok base, s'))
    (hsorted : q.sorted? base = some sorted) :
    (q.select run indexed rows).run.run s =
      (.ok (q.page (sorted.map Projected.record)), s') := by
  rw [select_eq, Exec.run_bind, h]
  dsimp only
  rw [order_of_some hsorted]
  rfl

theorem distinctRows_sublist (q : Query) (results : List Projected) :
    q.distinctRows results <+ results := by
  unfold distinctRows
  split
  · exact distinctBy_sublist _ results
  · exact Sublist.refl results

section Gives

open Exec (Gives)

theorem sortKeys_gives {value : Expr → Record → Exec Value} {source projected : Record} :
    Gives (fun keys => keys.length = q.orderBy.length) (q.sortKeys run value source projected) :=
  (Gives.mapM fun _ _ => .any).mono fun _ h => h.1

theorem projectGroup_gives {group : List Record} :
    Gives (fun o => ∀ p ∈ o, p.keys.length = q.orderBy.length) (q.projectGroup run group) := by
  refine .bind .any fun record _ => .bind .any fun wanted _ => ?_
  split
  · refine sortKeys_gives.bind fun keys hkeys => .pure ?_
    rintro p ⟨⟩
    exact hkeys
  · exact .pure nofun

/-- A result has a key for each expression to sort by. -/
theorem project_gives :
    Gives (fun results => ∀ p ∈ results, p.keys.length = q.orderBy.length)
      (q.project run rows) := by
  unfold project
  split
  · refine .bind .any fun groups _ => (Gives.mapM fun g _ => projectGroup_gives).bind
      fun results hresults => .pure fun p hp => ?_
    obtain ⟨o, ho, hp⟩ := mem_filterMap.1 hp
    exact hresults.2 o ho p hp
  · split
    · exact projectGroup_gives.bind fun o ho => .pure fun p hp => ho p (Option.mem_toList.1 hp)
    · refine (Gives.mapM fun row _ => ?_).mono fun _ h => h.2
      exact .bind .any fun record _ => sortKeys_gives.bind fun keys hkeys => .pure hkeys

theorem results_gives {indexed : Bool} :
    Gives (fun base => ∀ p ∈ base, p.keys.length = q.orderBy.length)
      (q.results run indexed rows) :=
  .bind .any fun _ _ => project_gives.withPopulation.bind fun results hresults =>
    .pure fun p hp => hresults p ((q.distinctRows_sublist results).subset hp)

end Gives

/-! ### Results on a source -/

/-- The query without ORDER BY and LIMIT. -/
def unordered (q : Query) : Query := { q with orderBy := [], limit := none }

/-- The record and the sort keys of a result are those of a row, given the values of expressions on
rows. A key that is a window is found on the row, others with the columns of the record too. -/
structure Projects (source : Source) (run : Runner) (f : Frame) (q : Query)
    (value : Expr → Record → Exec Value) (row : Record) (p : Projected) : Prop where
  record : Exec.Yields source f (q.projection (value · row) row) p.record
  keys : Forall₂ (fun key v => Exec.Yields source f (sortKey run value row p.record key) v)
    q.orderBy p.keys

/-- A result belongs to one of the rows that were picked, or to a group of them that is wanted. -/
inductive Belongs (source : Source) (run : Runner) (f : Frame) (q : Query)
    (picked : List Record) : Projected → Prop
  | row {row : Record} {p : Projected} (mem : row ∈ picked)
      (projects : q.Projects source run f (fun e r => e.evaluate run r) row p) :
      Belongs source run f q picked p
  | group {group : List Record} {p : Projected} (mem : ∀ r ∈ group, r ∈ picked)
      (wanted : Exec.Yields source f
        (q.isWanted run group (group.head?.getD .empty) p.record) true)
      (projects : q.Projects source run f (fun e r => e.evaluateGrouped run group r)
        (group.head?.getD .empty) p) :
      Belongs source run f q picked p

end Query

/-- A result without its sort keys. -/
def Projected.unkeyed (p : Projected) : Projected := ⟨p.record, []⟩

/-! ### What is in a group -/

theorem Groups.mem_add {α : Type} {key : String} {item : α} : ∀ {groups : Groups α}
    {g : String × List α}, g ∈ Groups.add key item groups →
    ∀ a ∈ g.2, a = item ∨ ∃ g' ∈ groups, a ∈ g'.2
  | [], g, hg, a, ha => by
    obtain rfl := mem_singleton.1 hg
    exact .inl (mem_singleton.1 ha)
  | (k, items) :: rest, g, hg, a, ha => by
    unfold Groups.add at hg
    split at hg
    · rcases mem_cons.1 hg with rfl | hg
      · rcases mem_append.1 ha with ha | ha
        · exact .inr ⟨_, mem_cons_self, ha⟩
        · exact .inl (mem_singleton.1 ha)
      · exact .inr ⟨g, mem_cons_of_mem _ hg, ha⟩
    · rcases mem_cons.1 hg with rfl | hg
      · exact .inr ⟨_, mem_cons_self, ha⟩
      · obtain heq | ⟨g', hg', ha'⟩ := mem_add hg a ha
        · exact .inl heq
        · exact .inr ⟨g', mem_cons_of_mem _ hg', ha'⟩

theorem Groups.mem_foldl_add {α : Type} : ∀ {items : List (String × α)} {groups : Groups α}
    {g : String × List α}, g ∈ items.foldl (fun groups (key, item) => add key item groups) groups →
    ∀ a ∈ g.2, (∃ key, (key, a) ∈ items) ∨ ∃ g' ∈ groups, a ∈ g'.2
  | [], _, g, hg, _, ha => .inr ⟨g, hg, ha⟩
  | (key, item) :: items, groups, g, hg, a, ha => by
    rw [foldl_cons] at hg
    obtain ⟨k, hk⟩ | ⟨g', hg', ha'⟩ := mem_foldl_add hg a ha
    · exact .inl ⟨k, mem_cons_of_mem _ hk⟩
    · obtain rfl | hgroups := mem_add hg' a ha'
      · exact .inl ⟨key, mem_cons_self⟩
      · exact .inr hgroups

/-- What is in a group was among the items. -/
theorem Groups.mem_ofList {α : Type} {items : List (String × α)} {g : String × List α}
    (hg : g ∈ Groups.ofList items) {a : α} (ha : a ∈ g.2) : ∃ key, (key, a) ∈ items := by
  obtain h | ⟨g', hg', -⟩ := mem_foldl_add hg a ha
  · exact h
  · cases hg'

namespace Query

section Source

open Coupling
open Exec (Steady Yields)

variable {source : Source} {run : Runner} (hrun : (again source).Runs run run) {f : Frame}
  {q : Query} {rows : List Record}

include hrun

theorem results_steady (indexed : Bool) (q : Query) (rows : List Record) :
    Steady source f (q.results run indexed rows) :=
  (filter_steady hrun indexed q rows).bind fun picked =>
    (project_steady hrun q picked).withPopulation.bind fun _ => .pure rfl

/-! ### What results are made of -/

/-- The record of a result, and each of its keys, is what the row has by itself. -/
theorem projects_of_yields {value : Expr → Record → Exec Value}
    (hvalue : (again source).Values f f value value) {row record : Record} {keys : List Value}
    (hrecord : Yields source f (q.projection (value · row) row) record)
    (hkeys : Yields source f (q.sortKeys run value row record) keys) :
    q.Projects source run f value row ⟨record, keys⟩ where
  record := hrecord
  keys := Yields.of_mapM (fun key _ => sortKey_steady hrun hvalue row record key) hkeys

theorem projectRow_yields {row : Record} {p : Projected}
    (h : Yields source f (q.projectRow run row) p) :
    q.Projects source run f (fun e r => e.evaluate run r) row p := by
  have hkeys := fun record => sortKeys_steady hrun (again_evaluate hrun (f := f)) q row record
  obtain ⟨record, hrecord, h⟩ := Yields.of_bind (projection_steady (again_evaluate hrun) q row)
    (fun record => (hkeys record).bind fun _ => .pure rfl) h
  obtain ⟨keys, hkeys, h⟩ := Yields.of_bind (hkeys record) (fun _ => .pure rfl) h
  obtain rfl := h.unique (.pure _)
  exact projects_of_yields hrun (again_evaluate hrun) hrecord hkeys

/-- A group that is wanted has a result. -/
theorem projectGroup_yields {group : List Record} {o : Option Projected}
    (h : Yields source f (q.projectGroup run group) o) :
    ∃ record wanted,
      Yields source f (q.projection (fun e => e.evaluateGrouped run group (group.head?.getD .empty))
        (group.head?.getD .empty)) record ∧
      Yields source f (q.isWanted run group (group.head?.getD .empty) record) wanted ∧
      if wanted then ∃ p, o = some p ∧ p.record = record ∧
        q.Projects source run f (fun e r => e.evaluateGrouped run group r)
          (group.head?.getD .empty) p
      else o = none := by
  have hkeys := fun record => sortKeys_steady hrun (again_evaluateGrouped hrun group (f := f)) q
    (group.head?.getD .empty) record
  have hlast : ∀ (record : Record) (wanted : Bool), Steady source f (if wanted then do
      return some (Projected.mk record (← q.sortKeys run (fun e r => e.evaluateGrouped run group r)
        (group.head?.getD .empty) record))
      else pure none) := by
    intro record wanted
    split
    · exact (hkeys record).bind fun _ => .pure rfl
    · exact .pure rfl
  have hwanted := fun record =>
    isWanted_steady hrun (f := f) q group (group.head?.getD .empty) record
  obtain ⟨record, hrecord, h⟩ := Yields.of_bind
    (projection_steady (again_evaluateGrouped hrun group) q _)
    (fun record => (hwanted record).bind (hlast record)) h
  obtain ⟨wanted, hwanted, h⟩ := Yields.of_bind (hwanted record) (hlast record) h
  refine ⟨record, wanted, hrecord, hwanted, ?_⟩
  cases wanted with
  | false => exact h.unique (.pure none)
  | true =>
    obtain ⟨keys, hkeys, h⟩ := Yields.of_bind (hkeys record) (fun _ => .pure rfl) h
    obtain rfl := h.unique (.pure _)
    exact ⟨_, rfl, rfl,
      projects_of_yields hrun (again_evaluateGrouped hrun group) hrecord hkeys⟩

/-- Every group has a result or none. -/
theorem grouped_yields {e : Expr} {results : List Projected}
    (h : Yields source f (do
      let groups ← Query.groups run e rows
      return (← groups.mapM fun g => q.projectGroup run g.2).filterMap id) results) :
    ∃ groups found, Yields source f (Query.groups run e rows) groups ∧
      Forall₂ (fun g o => Yields source f (q.projectGroup run g.2) o) groups found ∧
      results = found.filterMap id := by
  have hgroup := fun (groups : Groups Record) =>
    Steady.mapM fun g (_ : g ∈ groups) => projectGroup_steady hrun (f := f) q g.2
  obtain ⟨groups, hgroups, h⟩ := Yields.of_bind (groups_steady hrun e rows)
    (fun groups => (hgroup groups).bind fun _ => .pure rfl) h
  obtain ⟨found, hfound, h⟩ := Yields.of_bind (hgroup groups) (fun _ => .pure rfl) h
  exact ⟨groups, found, hgroups,
    Yields.of_mapM (fun g _ => projectGroup_steady hrun q g.2) hfound, h.unique (.pure _)⟩

/-! ### Results without sort keys -/

omit hrun in
theorem projectRow_unordered {row : Record} {p : Projected}
    (h : q.Projects source run f (fun e r => e.evaluate run r) row p) :
    Yields source f (q.unordered.projectRow run row) p.unkeyed :=
  h.record.bind ((Yields.mapM .nil).bind (.pure _))

theorem projectGroup_unordered {group : List Record} {o : Option Projected}
    (h : Yields source f (q.projectGroup run group) o) :
    Yields source f (q.unordered.projectGroup run group) (o.map Projected.unkeyed) := by
  obtain ⟨record, wanted, hrecord, hwanted, h⟩ := projectGroup_yields hrun h
  refine hrecord.bind (hwanted.bind ?_)
  cases wanted with
  | false =>
    obtain rfl : o = none := h
    exact .pure none
  | true =>
    obtain ⟨p, rfl, rfl, -⟩ := h
    exact (Yields.mapM .nil).bind (.pure _)

theorem project_unordered {results : List Projected}
    (h : Yields source f (q.project run rows) results) :
    Yields source f (q.unordered.project run rows) (results.map Projected.unkeyed) := by
  have haggregates : q.unordered.aggregates = q.aggregates := rfl
  have hgroupBy : q.unordered.groupBy = q.groupBy := rfl
  unfold project at h ⊢
  rw [haggregates, hgroupBy]
  split at h
  · obtain ⟨groups, found, hgroups, hfound, rfl⟩ := grouped_yields hrun h
    have hunkeyed : Yields source f (groups.mapM fun g => q.unordered.projectGroup run g.2)
        (found.map (Option.map Projected.unkeyed)) :=
      Yields.mapM (forall₂_map_right_iff.2 (hfound.imp fun _ _ h => projectGroup_unordered hrun h))
    have hwanted : (found.map (Option.map Projected.unkeyed)).filterMap id =
        (found.filterMap id).map Projected.unkeyed := by
      rw [filterMap_map, map_filterMap]
      rfl
    rw [← hwanted]
    exact hgroups.bind (hunkeyed.bind (.pure _))
  · split at h
    · rename_i hwhole
      rw [if_pos hwhole]
      obtain ⟨o, ho, h⟩ := Yields.of_bind (projectGroup_steady hrun q rows) (fun _ => .pure rfl) h
      obtain rfl := h.unique (.pure _)
      refine (projectGroup_unordered hrun ho).bind ?_
      cases o <;> exact .pure _
    · rename_i hwhole
      rw [if_neg hwhole]
      have hrows := Yields.of_mapM (fun row _ => projectRow_steady hrun q row) h
      refine Yields.mapM (forall₂_map_right_iff.2 (hrows.imp fun row p hp => ?_))
      exact projectRow_unordered (projectRow_yields hrun hp)

/-! ### Which row a result belongs to -/

theorem mem_of_groups {e : Expr} {groups : Groups Record}
    (h : Yields source f (Query.groups run e rows) groups) {g : String × List Record}
    (hg : g ∈ groups) : ∀ r ∈ g.2, r ∈ rows := by
  obtain ⟨values, -, h⟩ := Yields.of_bind (Steady.mapM fun row _ => Steady.evaluate hrun e row)
    (fun _ => .pure rfl) h
  obtain rfl := h.unique (.pure _)
  intro r hr
  obtain ⟨key, hmem⟩ := Groups.mem_ofList hg hr
  exact (of_mem_zip hmem).2

theorem projectGroup_belongs {group : List Record} {p : Projected}
    (hgroup : ∀ r ∈ group, r ∈ rows) (h : Yields source f (q.projectGroup run group) (some p)) :
    q.Belongs source run f rows p := by
  obtain ⟨record, wanted, -, hwanted, h⟩ := projectGroup_yields hrun h
  cases wanted with
  | false => cases h
  | true =>
    obtain ⟨_, ⟨⟩, rfl, hp⟩ := h
    exact .group hgroup hwanted hp

theorem project_belongs {results : List Projected}
    (h : Yields source f (q.project run rows) results) :
    ∀ p ∈ results, q.Belongs source run f rows p := by
  intro p hp
  unfold project at h
  split at h
  · obtain ⟨groups, found, hgroups, hfound, rfl⟩ := grouped_yields hrun h
    obtain ⟨o, ho, rfl⟩ := mem_filterMap.1 hp
    obtain ⟨g, hg, hgroup⟩ := (exists_of_mem ((forall₂_and_left _ _).2 ⟨fun g hg => hg, hfound⟩)).2
      _ ho
    exact projectGroup_belongs hrun (mem_of_groups hrun hgroups hg) hgroup
  · split at h
    · obtain ⟨o, ho, h⟩ := Yields.of_bind (projectGroup_steady hrun q rows) (fun _ => .pure rfl) h
      obtain rfl := h.unique (.pure _)
      obtain rfl := Option.mem_toList.1 hp
      exact projectGroup_belongs hrun (fun _ hr => hr) ho
    · have hrows := Yields.of_mapM (fun row _ => projectRow_steady hrun q row) h
      obtain ⟨row, hrow, hproject⟩ :=
        (exists_of_mem ((forall₂_and_left _ _).2 ⟨fun row hrow => hrow, hrows⟩)).2 p hp
      exact .row hrow (projectRow_yields hrun hproject)

/-! ### Without ORDER BY -/

omit hrun in
theorem distinctRows_unkeyed (results : List Projected) :
    q.unordered.distinctRows (results.map Projected.unkeyed) =
      (q.distinctRows results).map Projected.unkeyed := by
  unfold distinctRows
  show (if q.distinct then _ else _) = _
  split
  · exact (map_distinctBy (fun p : Projected => p.record.canonical) Projected.unkeyed results).symm
  · rfl

/-- **The results that are put in order are those of the query without ORDER BY**, and each belongs
to rows that were picked. -/
theorem results_yields {indexed : Bool} {base : List Projected}
    (h : Yields source f (q.results run indexed rows) base) :
    Yields source f (q.unordered.select run indexed rows) (base.map Projected.record) ∧
      ∃ picked, Yields source f (q.filter run indexed rows) picked ∧
        ∀ p ∈ base, q.Belongs source run { f with population := some picked } picked p := by
  have hproject := fun picked => project_steady hrun
    (f := { f with population := some picked }) q picked
  obtain ⟨picked, hpicked, h⟩ := Yields.of_bind (filter_steady hrun indexed q rows)
    (fun picked => Steady.bind (hproject picked).withPopulation fun _ => .pure rfl) h
  obtain ⟨results, hresults, h⟩ := Yields.of_bind (hproject picked).withPopulation
    (fun _ => .pure rfl) h
  obtain rfl := h.unique (.pure _)
  have hresults := Yields.of_withPopulation (hproject picked) hresults
  refine ⟨?_, picked, hpicked, fun p hp => ?_⟩
  · have horder : q.unordered.order (q.unordered.distinctRows (results.map Projected.unkeyed)) =
        pure ((q.distinctRows results).map Projected.record) := by
      rw [distinctRows_unkeyed, order_of_nil rfl, map_map]
      rfl
    refine hpicked.bind ((project_unordered hrun hresults).withPopulation.bind ?_)
    rw [horder, pure_bind]
    exact .pure _
  · exact project_belongs hrun hresults p ((q.distinctRows_sublist results).subset hp)

end Source

end Query

/-- **ORDER BY is a stable sort, and LIMIT picks a page of it.** A query that has a result first has
results with sort keys, after grouping and DISTINCT. On a source, these are the rows that the query
has without ORDER BY and LIMIT, and each is made of rows that were picked, as are its keys. If in
each place of the keys there are values that the order of values is a preorder of, the rows without
LIMIT are these results sorted by the directions of the keys, those with equal keys in the order in
which they were found. With LIMIT there are the rows of its places, so that two pages that follow
each other are all rows. -/
theorem order_by_sorts_and_limit_pages (executor : Executor) (depth : Nat) (q : Query)
    (indexed : Bool) (rows : List Record) {s s' : Session} {out : List Record}
    (h : (q.select (executor.executeTo depth) indexed rows).run.run s = (.ok out, s')) :
    let run := executor.executeTo depth
    let limited (limit : Option Limit) :=
      ({ q with limit := limit }.select run indexed rows).run.run s
    ∃ base sorted : List Projected,
      (q.results run indexed rows).run.run s = (.ok base, s') ∧
      (∀ (source : Source) (options : Options), executor = Engine.executor ⟨source, options⟩ →
        s.ledger.Faithful source →
        Exec.Yields source s.frame (q.unordered.select run indexed rows)
          (base.map Projected.record) ∧
        ∃ picked, Exec.Yields source s.frame (q.filter run indexed rows) picked ∧
          ∀ p ∈ base, q.Belongs source run { s.frame with population := some picked } picked p) ∧
      ((∀ i : Nat, Value.PreorderOn {v | ∃ p ∈ base, p.keys[i]? = some v}) →
        StablySorted (q.orderBy.map SortKey.direction) Projected.keys base sorted) ∧
      limited none = (.ok (sorted.map Projected.record), s') ∧
      (∀ limit : Limit, ∃ page, limited (some limit) = (.ok page, s') ∧ ∀ i : Nat, page[i]? =
        if ∀ count ∈ limit.count, i < count then (sorted.map Projected.record)[limit.offset + i]?
        else none) ∧
      (∀ n ≤ sorted.length, ∃ first rest, limited (some ⟨some n, 0⟩) = (.ok first, s') ∧
        limited (some ⟨some (sorted.length - n), n⟩) = (.ok rest, s') ∧
        first ++ rest = sorted.map Projected.record) := by
  intro run limited
  obtain ⟨base, sorted, hbase, hsorted⟩ : ∃ base sorted,
      (q.results run indexed rows).run.run s = (.ok base, s') ∧ q.sorted? base = some sorted := by
    rw [Query.select_eq] at h
    obtain ⟨base, s₁, hbase, hrest⟩ := Exec.run_bind_ok h
    obtain ⟨records, s₂, horder, hlast⟩ := Exec.run_bind_ok hrest
    obtain ⟨-, rfl⟩ := Prod.mk.inj hlast
    obtain ⟨sorted, hsorted, -, rfl⟩ := Query.order_run_ok horder
    exact ⟨base, sorted, hbase, hsorted⟩
  have hlimited : ∀ limit, limited limit =
      (.ok (({ q with limit := limit } : Query).page (sorted.map Projected.record)), s') :=
    fun limit => Query.select_run (q := { q with limit := limit }) hbase hsorted
  refine ⟨base, sorted, hbase, ?_, fun hpreorder => ?_, hlimited none, fun limit => ?_,
    fun n _ => ?_⟩
  · rintro source options rfl hs
    have hrun : (Coupling.again source).Runs run run := Coupling.again_runs source options depth
    exact Query.results_yields hrun
      ((Query.results_steady hrun indexed q rows).yields rfl hs (by rw [hbase]))
  · have hlength := Query.results_gives s base s' hbase
    have hcomparable : Comparable Projected.keys base :=
      ⟨fun a ha b hb => by rw [hlength a ha, hlength b hb], hpreorder⟩
    obtain ⟨sorted', hsorted', hstable⟩ := exists_sortBy Projected.size hcomparable
    obtain rfl := Option.some.inj (hsorted.symm.trans hsorted')
    exact hstable
  · exact ⟨_, hlimited _, limit.getElem?_apply _⟩
  · refine ⟨_, _, hlimited _, hlimited _, ?_⟩
    have happend := Limit.apply_append (sorted.map Projected.record) n
    rwa [length_map] at happend

/-- Two rows, in descending order of a column of integers. -/
theorem order_by_sorts_and_limit_pages_two :
    let executor := Engine.executor ⟨.memory [], {}⟩
    let q : Query := { Query.all "t" with orderBy := [⟨.identifier "a", .descending⟩] }
    let rows : List Record := [⟨[("a", .integer 1)]⟩, ⟨[("a", .integer 2)]⟩]
    ∃ out, (q.select (executor.executeTo 0) false rows).run.run .start = (.ok out, .start) ∧
      ∃ base sorted : List Projected, base.map Projected.keys = [[.integer 1], [.integer 2]] ∧
        StablySorted [.descending] Projected.keys base sorted ∧
        ({ q with limit := none }.select (executor.executeTo 0) false rows).run.run .start =
          (.ok (sorted.map Projected.record), .start) := by
  intro executor q rows
  obtain ⟨out, hout⟩ : ∃ out,
      (q.select (executor.executeTo 0) false rows).run.run .start = (.ok out, .start) := ⟨_, rfl⟩
  obtain ⟨base, sorted, hbase, -, hsorted, hall, -⟩ :=
    order_by_sorts_and_limit_pages executor 0 q false rows hout
  have hresults : (q.results (executor.executeTo 0) false rows).run.run .start =
      (.ok [⟨⟨[("a", .integer 1)]⟩, [.integer 1]⟩, ⟨⟨[("a", .integer 2)]⟩, [.integer 2]⟩],
        .start) := rfl
  obtain rfl := Except.ok.inj (Prod.mk.inj (hbase.symm.trans hresults)).1
  refine ⟨out, hout, _, sorted, rfl, hsorted fun i => ?_, hall⟩
  have hmem : ∀ (n : Int64) (v : Value), [Value.integer n][i]? = some v → v = .integer n :=
    fun n v h => mem_singleton.1 (mem_of_getElem? h)
  have hkey : ∀ v ∈ {v | ∃ p ∈ [Projected.mk ⟨[("a", .integer 1)]⟩ [.integer 1],
      ⟨⟨[("a", .integer 2)]⟩, [.integer 2]⟩], p.keys[i]? = some v},
      v = .integer 1 ∨ v = .integer 2 := by
    rintro v ⟨p, hp, hv⟩
    rcases mem_pair.1 hp with rfl | rfl
    · exact .inl (hmem 1 v hv)
    · exact .inr (hmem 2 v hv)
  refine .of_numbers (fun v hv => ?_) (fun v hv => ?_) fun v hv m hm => ?_
  · rcases hkey v hv with rfl | rfl <;> rfl
  · rcases hkey v hv with rfl | rfl <;> rfl
  · rcases hkey v hv with rfl | rfl <;> cases hm <;> decide

end RowQuery
