/-
# Row numbers

ROW_NUMBER finds the number of each row anew: it divides all rows, sorts those of one
partition and looks the present row up by its canonical text. Rows of one partition see
the same partition, and sorting it gives the same list for each; so their numbers are the
places of one list, which are different if the texts are. As sorting is stable, the numbers
are in the order of the sort keys, and among equal keys in the order of the rows.

Key definitions: `Record.placeIn`, `sortedRows`.
Key theorems: `map_placeIn`, `placeIn_lt_of_lt`, `pairwise_placeIn_of_eq`,
`Expr.rowNumber_yields`, `row_number_numbers_partitions`.
-/
import Mathlib.Data.List.Pairwise
import RowQuery.Proofs.Identity
import RowQuery.Proofs.Sorting
import RowQuery.Proofs.Window

namespace RowQuery

open List

/-! ### Places -/

/-- The place of a row among rows, counted from one: that of the first with its canonical text. -/
def Record.placeIn (row : Record) (rows : List Record) : Nat :=
  (rows.map Record.canonical).idxOf row.canonical + 1

section Places

variable {row a b : Record} {rows : List Record}

/-- A row that is among others has its place as its number. -/
theorem rowNumber_of_mem (h : row ∈ rows) :
    rowNumber row rows = .integer (Int64.ofNat (row.placeIn rows)) := by
  have hfind : (rows.findIdx? fun r => r.canonical == row.canonical) =
      some (rows.findIdx fun r => r.canonical == row.canonical) :=
    findIdx?_eq_some_of_exists ⟨row, h, beq_self_eq_true _⟩
  have hplace : row.placeIn rows = (rows.findIdx fun r => r.canonical == row.canonical) + 1 := by
    unfold Record.placeIn idxOf
    rw [findIdx_map]
    rfl
  unfold rowNumber
  rw [hfind, hplace]

theorem placeIn_le (h : row ∈ rows) : row.placeIn rows ≤ rows.length := by
  have hlt : (rows.map Record.canonical).idxOf row.canonical < (rows.map Record.canonical).length :=
    idxOf_lt_length_of_mem (mem_map_of_mem h)
  rw [length_map] at hlt
  exact hlt

variable (hdistinct : (rows.map Record.canonical).Nodup)

include hdistinct

/-- **The places of different rows** are one, two and so on. -/
theorem map_placeIn : rows.map (·.placeIn rows) = range' 1 rows.length := by
  refine ext_getElem (by simp) fun i hi _ => ?_
  have hlt : i < (rows.map Record.canonical).length := by simpa using hi
  have hplace : (rows.map Record.canonical).idxOf (rows.map Record.canonical)[i] = i :=
    hdistinct.idxOf_getElem i hlt
  rw [getElem_map] at hplace
  rw [getElem_map, getElem_range', Record.placeIn, hplace]
  omega

theorem pairwise_placeIn : rows.Pairwise fun a b => a.placeIn rows < b.placeIn rows := by
  have hpairwise : (rows.map (·.placeIn rows)).Pairwise (· < ·) := by
    rw [map_placeIn hdistinct]
    exact pairwise_lt_range' 1
  exact pairwise_map.1 hpairwise

theorem placeIn_lt_of_sublist (h : [a, b] <+ rows) : a.placeIn rows < b.placeIn rows :=
  pairwise_iff_forall_sublist.1 (pairwise_placeIn hdistinct) h

end Places

/-! ### Places in sorted rows -/

theorem compareKeys_self (directions : List Direction) (as : List Value) :
    compareKeys directions as as = .eq := by
  have hswap := compareKeys_swap directions as as
  cases h : compareKeys directions as as with
  | eq => rfl
  | lt =>
    rw [h] at hswap
    cases hswap
  | gt =>
    rw [h] at hswap
    cases hswap

/-- Rows in the order of their keys, or as they are if sorting breaks off. -/
def sortedRows (directions : List Direction) (keys : Record → List Value) (rows : List Record) :
    List Record :=
  (sortBy keyedRowSize directions keys rows).getD rows

/-- Without keys rows stay in their order. -/
theorem sortedRows_nil (keys : Record → List Value) (rows : List Record) :
    sortedRows [] keys rows = rows := by
  rw [sortedRows, sortBy_nil]
  rfl

section Sorted

variable {directions : List Direction} {keys : Record → List Value} {rows : List Record}

/-- Rows that are sorted along with their keys. -/
theorem sorted_zip (h : (sortBy keyedRowSize directions keys rows).isSome = true) :
    Exec.sorted keyedRowSize directions (rows.zip (rows.map keys)) =
      pure (sortedRows directions keys rows) := by
  obtain ⟨sorted, hsorted⟩ := Option.isSome_iff_exists.1 h
  have hpaired : Exec.sorted keyedRowSize directions (rows.map fun r => (id r, keys r)) =
      pure (sorted.map id) := sorted_of_some hsorted
  rw [map_id] at hpaired
  rw [← map_prod_left_eq_zip, sortedRows, hsorted]
  exact hpaired

theorem sortedRows_perm : sortedRows directions keys rows ~ rows := by
  unfold sortedRows
  cases hsorted : sortBy keyedRowSize directions keys rows with
  | none => exact .refl rows
  | some sorted => exact sortBy_perm hsorted

theorem stablySorted_sortedRows (h : Comparable keys rows) :
    StablySorted directions keys rows (sortedRows directions keys rows) := by
  obtain ⟨sorted, hsorted, hstable⟩ := exists_sortBy keyedRowSize h
  rw [sortedRows, hsorted]
  exact hstable

variable (hdistinct : (rows.map Record.canonical).Nodup)

include hdistinct

theorem nodup_sortedRows : ((sortedRows directions keys rows).map Record.canonical).Nodup :=
  hdistinct.perm (sortedRows_perm.map _).symm

/-- **The places of different rows that are sorted** are one, two and so on, each once. -/
theorem map_placeIn_sortedRows :
    rows.map (·.placeIn (sortedRows directions keys rows)) ~ range' 1 rows.length := by
  have hnodup : ((sortedRows directions keys rows).map Record.canonical).Nodup :=
    nodup_sortedRows hdistinct
  have hplaces := map_placeIn hnodup
  rw [sortedRows_perm.length_eq] at hplaces
  rw [← hplaces]
  exact (sortedRows_perm.map _).symm

variable (hcomparable : Comparable keys rows)

include hcomparable

/-- **A row with smaller keys has a smaller place.** -/
theorem placeIn_lt_of_lt {a b : Record} (ha : a ∈ rows) (hb : b ∈ rows)
    (hlt : compareKeys directions (keys a) (keys b) = .lt) :
    a.placeIn (sortedRows directions keys rows) < b.placeIn (sortedRows directions keys rows) := by
  let place (r : Record) : Nat := r.placeIn (sortedRows directions keys rows)
  -- Of two rows one comes first; so what is to be shown is shown for both orders of them.
  let Agree (a b : Record) : Prop :=
    (compareKeys directions (keys a) (keys b) = .lt → place a < place b) ∧
    (compareKeys directions (keys b) (keys a) = .lt → place b < place a)
  have hsymm : Std.Symm Agree := ⟨fun _ _ hab => ⟨hab.2, hab.1⟩⟩
  have hself : ∀ r ∈ sortedRows directions keys rows, Agree r r := by
    intro r _
    have hne : compareKeys directions (keys r) (keys r) ≠ .lt := by
      rw [compareKeys_self]
      decide
    exact ⟨fun hr => absurd hr hne, fun hr => absurd hr hne⟩
  have hsorted : StablySorted directions keys rows (sortedRows directions keys rows) :=
    stablySorted_sortedRows hcomparable
  have hpairwise : (sortedRows directions keys rows).Pairwise Agree := by
    refine hsorted.ordered.imp₂ (fun a b hle hplace => ⟨fun _ => hplace, fun hgt => ?_⟩)
      (pairwise_placeIn (nodup_sortedRows hdistinct))
    rw [← compareKeys_swap, hgt] at hle
    cases hle
  exact (hpairwise.forall_of_forall hself (sortedRows_perm.mem_iff.2 ha)
    (sortedRows_perm.mem_iff.2 hb)).1 hlt

/-- **Rows with equal keys have places in their order.** -/
theorem pairwise_placeIn_of_eq : rows.Pairwise fun a b =>
    compareKeys directions (keys a) (keys b) = .eq →
      a.placeIn (sortedRows directions keys rows) < b.placeIn (sortedRows directions keys rows) := by
  have hsorted : StablySorted directions keys rows (sortedRows directions keys rows) :=
    stablySorted_sortedRows hcomparable
  refine pairwise_iff_forall_sublist.2 fun {a b} hsub heq => ?_
  have ha : a ∈ rows := hsub.subset mem_cons_self
  have hboth :
      [a, b].filter (fun r => compareKeys directions (keys a) (keys r) = .eq) = [a, b] :=
    filter_eq_self.2 (by simp [compareKeys_self, heq])
  have hfilter : [a, b] <+ (sortedRows directions keys rows).filter fun r =>
      compareKeys directions (keys a) (keys r) = .eq := by
    rw [hsorted.stable a ha, ← hboth]
    exact hsub.filter _
  exact placeIn_lt_of_sublist (nodup_sortedRows hdistinct) (hfilter.trans filter_sublist)

end Sorted

/-! ### The numbers of a partition -/

namespace Expr

open Exec (Alike Steady Yields)

variable {source : Source} {run : Runner} {f : Frame} {orderBy : List SortKey}

theorem evaluateKeys_eq (run : Runner) (orderBy : List SortKey) (row : Record) :
    evaluateKeys run orderBy row = evaluateAll run (orderBy.map SortKey.expr) row := by
  induction orderBy with
  | nil => simp only [map_nil, evaluateKeys, evaluateAll]
  | cons key rest ih =>
    cases key
    simp only [map_cons, evaluateKeys, evaluateAll, ih]

theorem evaluateKeys_gives (run : Runner) (orderBy : List SortKey) (row : Record) :
    Exec.Gives (fun keys => keys.length = orderBy.length) (evaluateKeys run orderBy row) := by
  rw [evaluateKeys_eq]
  exact (evaluateAll_gives run row _).mono fun keys hkeys => by rw [hkeys, length_map]

/-- A row has its place among the sorted rows of its partition as its number, if these can be
sorted. -/
theorem rowNumber_yields (args : List Expr) {keys : Record → List Value} {partition : List Record}
    {row : Record} (hrow : row ∈ partition)
    (hkeys : ∀ r ∈ partition, Yields source f (evaluateKeys run orderBy r) (keys r))
    (hsorts : (sortBy keyedRowSize (orderBy.map SortKey.direction) keys partition).isSome = true) :
    Yields source f (overPartition run "ROW_NUMBER" args orderBy row partition)
      (.integer (Int64.ofNat
        (row.placeIn (sortedRows (orderBy.map SortKey.direction) keys partition)))) := by
  have hmem : row ∈ sortedRows (orderBy.map SortKey.direction) keys partition :=
    sortedRows_perm.mem_iff.2 hrow
  unfold overPartition
  rw [if_pos rfl]
  refine (Yields.mapM_map hkeys).bind ?_
  dsimp only
  rw [sorted_zip hsorts, pure_bind, rowNumber_of_mem hmem]
  exact .pure _

/-- ROW_NUMBER over all rows looks a row up among them as they are. -/
theorem run_rowNumber {rows : List Record} {s : Session} (hrows : s.population = some rows)
    (run : Runner) (args : List Expr) (row : Record) :
    ((Expr.window "ROW_NUMBER" args [] []).evaluate run row).run.run s =
      (.ok (rowNumber row rows), s) := by
  have hall : (rows.mapM fun r => evaluateAll run [] r) = pure (rows.map fun _ => []) := by
    simp only [evaluateAll]
    exact mapM_pure
  have hkeys : (rows.mapM fun r => evaluateKeys run [] r) = pure (rows.map fun _ => []) := by
    simp only [evaluateKeys]
    exact mapM_pure
  have hpartition : ((rows.zip (rows.map fun _ => ([] : List Value))).filter
      fun p => partitionKey p.2 == partitionKey []).map Prod.fst = rows := by
    rw [partition_eq_filter (fun _ => []) (fun values => partitionKey values == partitionKey [])]
    exact filter_eq_self.2 fun _ _ => beq_self_eq_true _
  rw [window_run hrows rfl (by rw [hall]; rfl), hpartition]
  unfold overPartition
  have hsorted : Exec.sorted keyedRowSize [] (rows.zip (rows.map fun _ => [])) = pure rows := by
    rw [sorted_zip (by rw [sortBy_nil]; rfl), sortedRows_nil]
  rw [if_pos rfl, hkeys, pure_bind]
  dsimp only
  rw [map_nil, hsorted]
  rfl

end Expr

/-- **ROW_NUMBER numbers each partition.** On a source, let windows range over rows with different
canonical texts, on each of which the partition expressions and the sort keys of a window have
values. Then every row has a number, at least without sort keys, among few rows, or if in each place
of the keys there are values that the order of values is a preorder of. The numbers of the rows of
one partition are one, two and so on, each once; without sort keys they are in this order. With keys
of such values, a row of the partition with smaller keys has a smaller number, and of two rows with
equal keys the one that comes first has. -/
theorem row_number_numbers_partitions (source : Source) (options : Options) (depth : Nat)
    (args partitionBy : List Expr) (orderBy : List SortKey) {rows : List Record} {s : Session}
    (hs : s.ledger.Faithful source) (hrows : s.population = some rows)
    (hdistinct : (rows.map Record.canonical).Nodup) {parts keys : Record → List Value}
    (hparts : ∀ r ∈ rows, ((Expr.evaluateAll
      ((Engine.executor ⟨source, options⟩).executeTo depth) partitionBy r).run.run s).1 =
        .ok (parts r))
    (hkeys : ∀ r ∈ rows, ((Expr.evaluateKeys
      ((Engine.executor ⟨source, options⟩).executeTo depth) orderBy r).run.run s).1 =
        .ok (keys r)) :
    let run := (Engine.executor ⟨source, options⟩).executeTo depth
    let partition (row : Record) := rows.filter fun r => partitionKey (parts r) ==
      partitionKey (parts row)
    let order (a b : Record) := compareKeys (orderBy.map SortKey.direction) (keys a) (keys b)
    ∃ number : Record → Nat,
      (∀ row ∈ rows, (orderBy = [] ∨ (partition row).length ≤ 20 ∨
          ∀ i : Nat, Value.PreorderOn {v | ∃ r ∈ partition row, (keys r)[i]? = some v}) →
        Exec.Yields source s.frame
          ((Expr.window "ROW_NUMBER" args partitionBy orderBy).evaluate run row)
          (.integer (Int64.ofNat (number row)))) ∧
      (rows.length < 2 ^ 63 → ∀ row ∈ rows, (Int64.ofNat (number row)).toInt = number row) ∧
      ∀ row ∈ rows,
        (partition row).map number ~ range' 1 (partition row).length ∧
        (orderBy = [] → (partition row).map number = range' 1 (partition row).length) ∧
        ((∀ i : Nat, Value.PreorderOn {v | ∃ r ∈ partition row, (keys r)[i]? = some v}) →
          (∀ a ∈ partition row, ∀ b ∈ partition row, order a b = .lt → number a < number b) ∧
          (partition row).Pairwise fun a b => order a b = .eq → number a < number b) := by
  intro run partition order
  have hrun : (Coupling.again source).Runs run run := Coupling.again_runs source options depth
  have hpartsYield : ∀ r ∈ rows,
      Exec.Yields source s.frame (Expr.evaluateAll run partitionBy r) (parts r) := fun r hr =>
    (Exec.Steady.evaluateAll hrun partitionBy r).yields rfl hs (hparts r hr)
  have hkeysYield : ∀ r ∈ rows,
      Exec.Yields source s.frame (Expr.evaluateKeys run orderBy r) (keys r) := fun r hr =>
    (Exec.Steady.evaluateKeys hrun orderBy r).yields rfl hs (hkeys r hr)
  have hlength : ∀ r ∈ rows, (keys r).length = orderBy.length := fun r hr =>
    Expr.evaluateKeys_gives run orderBy r s (keys r) _ (Prod.ext (hkeys r hr) rfl)
  let sorted (row : Record) : List Record :=
    sortedRows (orderBy.map SortKey.direction) keys (partition row)
  let number (row : Record) : Nat := row.placeIn (sorted row)
  have hsub : ∀ row, partition row <+ rows := fun row => filter_sublist
  have hmem : ∀ row ∈ rows, row ∈ partition row := fun row hrow =>
    mem_filter.2 ⟨hrow, beq_self_eq_true _⟩
  have hnodup : ∀ row, ((partition row).map Record.canonical).Nodup := fun row =>
    hdistinct.sublist ((hsub row).map _)
  -- All rows of a partition see the same partition, and are numbered in it.
  have hnumber : ∀ row, ∀ r ∈ partition row, number r = r.placeIn (sorted row) := by
    intro row r hr
    have hkey : partitionKey (parts r) = partitionKey (parts row) :=
      beq_iff_eq.1 (mem_filter.1 hr).2
    have hsame : partition r = partition row := by
      show rows.filter _ = rows.filter _
      rw [hkey]
    show r.placeIn (sortedRows _ keys (partition r)) = _
    rw [hsame]
  have hcomparable : ∀ row, (∀ i : Nat,
      Value.PreorderOn {v | ∃ r ∈ partition row, (keys r)[i]? = some v}) →
      Comparable keys (partition row) := by
    refine fun row hpreorder => ⟨fun a ha b hb => ?_, hpreorder⟩
    rw [hlength a ((hsub row).subset ha), hlength b ((hsub row).subset hb)]
  refine ⟨number, fun row hrow hsortable => ?_, fun hfew row hrow => ?_,
    fun row _ => ⟨?_, fun hnil => ?_, fun hpreorder => ?_⟩⟩
  · refine (Expr.window_alike_over hrun _ args orderBy hrows (hpartsYield row hrow)
      hpartsYield).yields_iff.2 ?_
    refine Expr.rowNumber_yields args (hmem row hrow) (fun r hr =>
      hkeysYield r ((hsub row).subset hr)) (sortBy_isSome _ ?_)
    exact hsortable.imp map_eq_nil_iff.2 (Or.imp_right (hcomparable row))
  · have hplace : number row ≤ (sorted row).length :=
      placeIn_le (sortedRows_perm.mem_iff.2 (hmem row hrow))
    have hle : (sorted row).length ≤ rows.length := by
      rw [sortedRows_perm.length_eq]
      exact (hsub row).length_le
    exact Int64.toInt_ofNat_of_lt (by omega)
  · rw [map_congr_left (hnumber row)]
    exact map_placeIn_sortedRows (hnodup row)
  · have hunsorted : sorted row = partition row := by
      subst hnil
      exact sortedRows_nil keys _
    rw [map_congr_left (hnumber row), hunsorted]
    exact map_placeIn (hnodup row)
  · have hcomparable := hcomparable row hpreorder
    constructor
    · intro a ha b hb hlt
      rw [hnumber row a ha, hnumber row b hb]
      exact placeIn_lt_of_lt (hnodup row) hcomparable ha hb hlt
    · have hplaces : (partition row).Pairwise fun a b =>
          order a b = .eq → a.placeIn (sorted row) < b.placeIn (sorted row) :=
        pairwise_placeIn_of_eq (hnodup row) hcomparable
      refine hplaces.imp_of_mem fun {a b} ha hb hlt heq => ?_
      rw [hnumber row a ha, hnumber row b hb]
      exact hlt heq

/-- Four rows in two partitions, numbered in descending order of a column of integers: two rows of
the first partition have the same integer there, and are numbered in their order. -/
theorem row_number_numbers_partitions_descending :
    let run := (Engine.executor ⟨.memory [], {}⟩).executeTo 0
    let row (a : String) (b c : Int64) : Record :=
      ⟨[("a", .string a), ("b", .integer b), ("c", .integer c)]⟩
    let rows := [row "x" 1 1, row "y" 5 2, row "x" 2 3, row "x" 1 4]
    let s : Session := { Session.start with population := some rows }
    let numbered (r : Record) : Exec Value := (Expr.window "ROW_NUMBER" [] [.identifier "a"]
      [⟨.identifier "b", .descending⟩]).evaluate run r
    (rows.map Record.canonical).Nodup ∧
      Forall₂ (fun r n => Exec.Yields (.memory []) s.frame (numbered r) (.integer n)) rows
        [2, 1, 1, 3] := by
  intro run row rows s numbered
  have hexact : ∀ a b c, (row a b c).Exact := fun a b c =>
    ⟨.ofFields [("a", .string a), ("b", .integer b), ("c", .integer c)], forall_mem_cons.2
      ⟨.string a, forall_mem_cons.2 ⟨.integer b, forall_mem_singleton.2 (.integer c)⟩⟩⟩
  have hother : ∀ {a b c a' b' c'}, c ≠ c' → (row a b c).canonical ≠ (row a' b' c').canonical := by
    intro a b c a' b' c' hne heq
    have hsame := ((Record.canonical_eq_iff (hexact a b c) (hexact a' b' c')).1 heq).values "c"
    exact hne (Number.integer.inj (Value.number.inj (Option.some.inj hsame)))
  have hdistinct : (rows.map Record.canonical).Nodup := by
    simp [rows, hother]
  have hparts : ∀ r ∈ rows, ((Expr.evaluateAll run [.identifier "a"] r).run.run s).1 =
      .ok [s.resolve r "a"] := fun r _ => by
    simp only [Expr.evaluateAll, Expr.evaluate]
    rfl
  have hkeys : ∀ r ∈ rows,
      ((Expr.evaluateKeys run [⟨.identifier "b", .descending⟩] r).run.run s).1 =
        .ok [s.resolve r "b"] := fun r _ => by
    simp only [Expr.evaluateKeys, Expr.evaluate]
    rfl
  obtain ⟨number, hnumber, -, hpartition⟩ := row_number_numbers_partitions (.memory []) {} 0 []
    [.identifier "a"] [⟨.identifier "b", .descending⟩] (Ledger.faithful_start _) (s := s) rfl
    hdistinct hparts hkeys
  have hpart : ∀ a b c, partitionKey [s.resolve (row a b c) "a"] = a := fun a b c =>
    partitionKey_singleton _
  have hx : (rows.filter fun r => partitionKey [s.resolve r "a"] == "x") =
      [row "x" 1 1, row "x" 2 3, row "x" 1 4] := by simp [rows, hpart]
  have hy : (rows.filter fun r => partitionKey [s.resolve r "a"] == "y") = [row "y" 5 2] := by
    simp [rows, hpart]
  obtain ⟨honce, -, hsorted⟩ := hpartition (row "x" 1 1) (by simp [rows])
  obtain ⟨hsingle, -⟩ := hpartition (row "y" 5 2) (by simp [rows])
  simp only [hpart, hx, hy] at honce hsorted hsingle
  have hpreorder : ∀ i : Nat, Value.PreorderOn {v | ∃ r ∈ [row "x" 1 1, row "x" 2 3, row "x" 1 4],
      [s.resolve r "b"][i]? = some v} := by
    intro i
    refine .of_integers fun v hv => ?_
    obtain ⟨r, hr, hv⟩ := hv
    obtain rfl : v = s.resolve r "b" := mem_singleton.1 (mem_of_getElem? hv)
    simp only [mem_cons, not_mem_nil, or_false] at hr
    rcases hr with rfl | rfl | rfl
    · exact ⟨1, rfl, by decide⟩
    · exact ⟨2, rfl, by decide⟩
    · exact ⟨1, rfl, by decide⟩
  obtain ⟨hless, hequal⟩ := hsorted hpreorder
  have hthird : number (row "x" 2 3) < number (row "x" 1 1) :=
    hless _ (by simp) _ (by simp) (by decide +kernel)
  have hlast : number (row "x" 1 1) < number (row "x" 1 4) :=
    pairwise_iff_forall_sublist.1 hequal (by simp) (by decide +kernel)
  have hnumbers : ∀ r ∈ [row "x" 1 1, row "x" 2 3, row "x" 1 4], 1 ≤ number r ∧ number r ≤ 3 := by
    intro r hr
    have hmem := honce.mem_iff.1 (mem_map_of_mem hr)
    simp at hmem
    omega
  simp only [forall_mem_cons] at hnumbers
  have hvalues : rows.map number = [2, 1, 1, 3] := by
    simp at hsingle
    simp [rows, hsingle]
    omega
  refine ⟨hdistinct, ?_⟩
  have hfew : ∀ p : Record → Bool, (rows.filter p).length ≤ 20 := fun p =>
    (length_filter_le p rows).trans (by simp [rows])
  have hyields : Forall₂ (fun r n => Exec.Yields (.memory []) s.frame (numbered r) (.integer n))
      rows (rows.map (Int64.ofNat ∘ number)) :=
    forall₂_map_right_iff.2 (forall₂_same.2 fun r hr => hnumber r hr (.inr (.inl (hfew _))))
  rwa [← map_map, hvalues] at hyields

end RowQuery
