/-
# Sorting is stable

Runs that are cut from items that stand in a list, and then joined, are in order
or still stand as they did; what pivots part comes before and after them. So a
list is sorted if the comparison orders its items, and items that compare equal
stay as they were.

Key definitions: `Lies`, `Run.Fine`, `Lined`, `OrdersItems`.
Key theorems: `cut_lies`, `join_lined`, `mergeRuns_fine`, `driftsort_sorts`,
`quicksort_sorts`, `sort_sorts`, `exists_sort`.
-/
import RowQuery.Proofs.Sort.Order
import RowQuery.Proofs.Sort.Parametric

namespace RowQuery.Sort

open List

variable {α : Type} {less : α → α → Bool} {place : α → Nat}

section Lists

variable (hless : WeakOrder less)

include hless

/-! ### Runs -/

omit hless in
/-- Items that go on from one to the next are related to all after them. -/
theorem goingOn_pairwise {R : α → α → Prop} {goesOn : α → α → Bool}
    (htrans : ∀ x y z, R x y → R y z → R x z)
    (hgoesOn : ∀ x y, goesOn x y = true → place x < place y → R x y) : ∀ {x : α} {rest : List α},
    Standing place (x :: rest) → (x :: rest.take (goingOn goesOn x rest)).Pairwise R
  | x, [], _ => pairwise_singleton R x
  | x, y :: rest, h => by
    obtain ⟨hx, hrest⟩ := pairwise_cons.1 h
    unfold goingOn
    split
    · rename_i hxy
      have hxy : R x y := hgoesOn x y hxy (hx y mem_cons_self)
      have ih := goingOn_pairwise htrans hgoesOn hrest
      rw [take_succ_cons]
      refine pairwise_cons.2 ⟨fun z hz => ?_, ih⟩
      rcases mem_cons.1 hz with rfl | hz
      · exact hxy
      · exact htrans _ _ _ hxy ((pairwise_cons.1 ih).1 z hz)
    · rw [take_zero]
      exact pairwise_singleton R x

/-- The items of a run that was cut lie as is said of them. -/
def Lies (less : α → α → Bool) (place : α → Nat) : List α × Lie → Prop
  | (items, .up) => InOrder less place items
  | (items, .down) => InOrder less place items.reverse
  | (_, .loose) => True

theorem firstRun_lies {least loose n : Nat} {lie : Lie} {x : α} {rest : List α}
    (h : Standing place (x :: rest)) (hfirst : firstRun less least loose (x :: rest) = (n, lie)) :
    Lies less place (x :: rest.take (n - 1), lie) := by
  have hup : (x :: rest.take (goingOn (fun x y => !less y x) x rest)).Pairwise
      (Precedes less place) :=
    goingOn_pairwise (R := Precedes less place) (fun _ _ _ => Precedes.trans hless)
      (fun x y hxy hplace => .inr ⟨by simpa using hxy, hplace⟩) h
  have hdown : (x :: rest.take (goingOn (fun x y => less y x) x rest)).Pairwise
      (flip (Precedes less place)) :=
    goingOn_pairwise (R := flip (Precedes less place)) (fun _ _ _ hxy hyz => hyz.trans hless hxy)
      (fun x y hxy _ => .inl hxy) h
  unfold firstRun stretch at hfirst
  dsimp only at hfirst
  split at hfirst
  all_goals
    dsimp only at hfirst
    split at hfirst
    all_goals obtain ⟨rfl, rfl⟩ := Prod.mk.inj hfirst
  · exact hup
  · trivial
  · exact pairwise_reverse.2 hdown
  · trivial

theorem cut_lies (least loose : Nat) {items : List α} (h : Standing place items) :
    ∀ part ∈ cut less least loose items, Lies less place part := by
  fun_induction cut less least loose items with
  | case1 => exact forall_mem_nil _
  | case2 x rest n lie hfirst ih =>
    have hrest : Standing place (rest.drop (n - 1)) :=
      (pairwise_cons.1 h).2.sublist (drop_sublist _ _)
    exact forall_mem_cons.2 ⟨firstRun_lies hless h hfirst, ih hrest⟩

/-- A run is in order, or its items still stand as they did, where runs may be loose. -/
def Run.Fine (less : α → α → Bool) (place : α → Nat) (eager : Bool) (run : Run α) : Prop :=
  run.ordered = true ∧ InOrder less place run.items ∨
    run.ordered = false ∧ eager = false ∧ Standing place run.items

theorem ofCut_fine (eager : Bool) {part : List α × Lie} (h : Standing place part.1)
    (hlies : Lies less place part) :
    ∃ run, Run.ofCut less eager part = some run ∧ run.Fine less place eager := by
  obtain ⟨items, lie⟩ := part
  cases lie with
  | up => exact ⟨_, rfl, .inl ⟨rfl, hlies⟩⟩
  | down => exact ⟨_, rfl, .inl ⟨rfl, hlies⟩⟩
  | loose =>
    unfold Run.ofCut
    dsimp only
    cases eager with
    | false => exact ⟨_, rfl, .inr ⟨rfl, rfl, h⟩⟩
    | true =>
      obtain ⟨sorted, hsorted, hinOrder⟩ := sortShort_sorts hless items h
      rw [if_pos rfl, hsorted]
      exact ⟨_, rfl, .inl ⟨rfl, hinOrder⟩⟩

/-- Runs that are fine, the last one first, each of which stands before those that precede it in
the list. -/
structure Lined (less : α → α → Bool) (place : α → Nat) (eager : Bool) (runs : List (Run α)) :
    Prop where
  fine : ∀ run ∈ runs, run.Fine less place eager
  apart : runs.Pairwise fun later earlier => StandBefore place earlier.items later.items

theorem ofCuts_lined (eager : Bool) : ∀ (parts : List (List α × Lie)),
    Standing place (parts.map Prod.fst).flatten → (∀ part ∈ parts, Lies less place part) →
    ∃ runs, parts.mapM (Run.ofCut less eager) = some runs ∧ Lined less place eager runs.reverse
  | [], _, _ => ⟨[], rfl, nofun, .nil⟩
  | part :: parts, h, hlies => by
    rw [map_cons, flatten_cons] at h
    obtain ⟨hpart, hparts, hbefore⟩ := standing_append.1 h
    obtain ⟨hlie, hlies⟩ := forall_mem_cons.1 hlies
    obtain ⟨run, hrun, hfine⟩ := ofCut_fine hless eager hpart hlie
    obtain ⟨runs, hruns, hlined⟩ := ofCuts_lined eager parts hparts hlies
    refine ⟨run :: runs, ?_, ?_, ?_⟩
    · rw [mapM_cons, hrun, hruns]
      rfl
    · intro r hr
      rcases mem_cons.1 (mem_reverse.1 hr) with rfl | hr
      · exact hfine
      · exact hlined.fine r (mem_reverse.2 hr)
    · rw [reverse_cons]
      refine pairwise_append.2 ⟨hlined.apart, pairwise_singleton _ run,
        fun later hlater earlier hearlier => ?_⟩
      obtain rfl := mem_singleton.1 hearlier
      have hitems : StandBefore place earlier.items (itemsOf runs) :=
        hbefore.perm (ofCut_perm hrun) (ofCuts_perm hruns)
      exact fun x hx y hy => hitems x hx y (mem_flatMap.2 ⟨later, mem_reverse.1 hlater, hy⟩)

section Merging

variable {settle : List α → Option (List α)} {space : Nat} {eager : Bool}
  (hperm : ∀ items sorted, settle items = some sorted → sorted ~ items)
  (hsettle : eager = false → Sorts less place settle)

include hsettle

omit hless in
theorem settled_inOrder {run : Run α} (h : run.Fine less place eager) :
    ∃ out, run.settled settle = some out ∧ InOrder less place out := by
  unfold Run.settled
  rcases h with ⟨hordered, hitems⟩ | ⟨hordered, heager, hitems⟩
  · rw [if_pos hordered]
    exact ⟨run.items, rfl, hitems⟩
  · rw [if_neg (by simp [hordered])]
    exact hsettle heager run.items hitems

include hperm

theorem join_fine (space : Nat) {left right : Run α} (hl : left.Fine less place eager)
    (hr : right.Fine less place eager) (hbefore : StandBefore place left.items right.items) :
    ∃ run, Run.join less settle space left right = some run ∧ run.Fine less place eager := by
  unfold Run.join
  split
  · rename_i hloose
    simp only [Bool.and_eq_true, Bool.not_eq_true'] at hloose
    obtain ⟨⟨hloose, hloose'⟩, -⟩ := hloose
    rcases hl with ⟨hordered, -⟩ | ⟨-, heager, hleft⟩
    · rw [hordered] at hloose
      cases hloose
    · rcases hr with ⟨hordered, -⟩ | ⟨-, -, hright⟩
      · rw [hordered] at hloose'
        cases hloose'
      · exact ⟨_, rfl, .inr ⟨rfl, heager, standing_append.2 ⟨hleft, hright, hbefore⟩⟩⟩
  · obtain ⟨front, hfront, hleft⟩ := settled_inOrder hsettle hl
    obtain ⟨back, hback, hright⟩ := settled_inOrder hsettle hr
    have hbefore := hbefore.perm (settled_perm hperm hfront) (settled_perm hperm hback)
    rw [hfront, hback]
    exact ⟨_, rfl, .inl ⟨rfl, merge_inOrder hless hleft hright hbefore⟩⟩

/-- Two neighbours among runs can be joined. -/
theorem join_lined (space : Nat) {xs ys : List (Run α)} {run before : Run α}
    (h : Lined less place eager (xs ++ run :: before :: ys)) :
    ∃ joined, Run.join less settle space before run = some joined ∧
      Lined less place eager (xs ++ joined :: ys) := by
  obtain ⟨hfine, hapart⟩ := h
  obtain ⟨hxs, hrest, hcross⟩ := pairwise_append.1 hapart
  obtain ⟨hrun, hrest⟩ := pairwise_cons.1 hrest
  obtain ⟨hbefore, hys⟩ := pairwise_cons.1 hrest
  obtain ⟨joined, hjoined, hfineJoined⟩ := join_fine hless hperm hsettle space
    (hfine before (by simp)) (hfine run (by simp)) (hrun before mem_cons_self)
  have hmem : ∀ x ∈ joined.items, x ∈ before.items ∨ x ∈ run.items := fun x hx =>
    mem_append.1 ((join_perm hperm hjoined).mem_iff.1 hx)
  refine ⟨joined, hjoined, fun r hr => ?_, pairwise_append.2 ⟨hxs, pairwise_cons.2 ⟨?_, hys⟩, ?_⟩⟩
  · rcases mem_append.1 hr with hr | hr
    · exact hfine r (mem_append_left _ hr)
    · rcases mem_cons.1 hr with rfl | hr
      · exact hfineJoined
      · exact hfine r (by simp [hr])
  · intro earlier hearlier x hx y hy
    rcases hmem y hy with hy | hy
    · exact hbefore earlier hearlier x hx y hy
    · exact hrun earlier (mem_cons_of_mem _ hearlier) x hx y hy
  · intro later hlater earlier hearlier x hx y hy
    rcases mem_cons.1 hearlier with rfl | hearlier
    · rcases hmem x hx with hx | hx
      · exact hcross later hlater before (by simp) x hx y hy
      · exact hcross later hlater run mem_cons_self x hx y hy
    · exact hcross later hlater earlier (by simp [hearlier]) x hx y hy

theorem joinDeeper_lined (space depth : Nat) {xs : List (Run α)} : ∀ {waiting : List (Run α × Nat)}
    {run : Run α}, Lined less place eager (xs ++ run :: waiting.map Prod.fst) →
    ∃ waiting' run', joinDeeper less settle space depth waiting run = some (waiting', run') ∧
      Lined less place eager (xs ++ run' :: waiting'.map Prod.fst)
  | [], run, h => ⟨[], run, rfl, h⟩
  | (before, d) :: waiting, run, h => by
    unfold joinDeeper
    split
    · obtain ⟨joined, hjoined, h⟩ := join_lined hless hperm hsettle space h
      rw [hjoined]
      exact joinDeeper_lined space depth h
    · exact ⟨_, run, rfl, h⟩

theorem mergeRuns_fine (space n : Nat) : ∀ (waiting : List (Run α × Nat)) {run : Run α}
    {start : Nat} {rest : List (Run α)},
    Lined less place eager (rest.reverse ++ run :: waiting.map Prod.fst) →
    ∃ out, mergeRuns less settle space n waiting run start rest = some out ∧
      out.Fine less place eager
  | waiting, run, start, [], h => by
    obtain ⟨waiting', out, hjoined, h⟩ := joinDeeper_lined hless hperm hsettle space 0 h
    rw [mergeRuns, hjoined]
    exact ⟨out, rfl, h.fine out mem_cons_self⟩
  | waiting, run, start, next :: rest, h => by
    unfold mergeRuns
    obtain ⟨waiting', run', hjoined, h⟩ := joinDeeper_lined hless hperm hsettle space
      (mergeDepth n (start - run.items.length) start (start + next.items.length)) h
    dsimp only
    rw [hjoined]
    rw [reverse_cons, append_assoc] at h
    exact mergeRuns_fine space n ((run', _) :: waiting') h

theorem mergeAll_inOrder (space n : Nat) {runs : List (Run α)}
    (h : Lined less place eager runs.reverse) :
    ∃ out, mergeAll less settle space n runs = some out ∧ InOrder less place out := by
  cases runs with
  | nil => exact ⟨[], rfl, .nil⟩
  | cons run rest =>
    rw [reverse_cons] at h
    obtain ⟨merged, hmerged, hfine⟩ := mergeRuns_fine hless hperm hsettle space n [] h
    rw [mergeAll, hmerged]
    exact settled_inOrder hsettle hfine

/-- **Runs that are cut and merged are sorted**, if loose ones are. -/
theorem driftsort_sorts : Sorts less place (driftsort less settle space eager) := by
  intro items h
  unfold driftsort
  dsimp only
  obtain ⟨runs, hruns, hlined⟩ := ofCuts_lined hless eager
    (cut less (leastLength items.length)
      (if eager then shortLength else leastLength items.length) items)
    (by rwa [flatten_cut]) (cut_lies hless _ _ h)
  rw [hruns]
  exact mergeAll_inOrder hless hperm hsettle _ _ hlined

end Merging

/-! ### Pivots -/

/-- Items that equal a pivot, as none is less, are in order before those that are greater. -/
theorem inOrder_equal_append {items rest : List α} {pivot : α} (h : Standing place items)
    (hleast : ∀ x ∈ items, less x pivot = false) (hrest : InOrder less place rest)
    (hitems : rest ~ items.filter (less pivot ·)) :
    InOrder less place (items.filter (!less pivot ·) ++ rest) := by
  have hequal : ∀ x ∈ items.filter (!less pivot ·), less pivot x = false := fun x hx => by
    simpa using (mem_filter.1 hx).2
  refine pairwise_append.2 ⟨?_, hrest, fun x hx y hy => .inl ?_⟩
  · refine (h.sublist filter_sublist).imp_of_mem fun {x y} hx hy hplace => .inr ⟨?_, hplace⟩
    exact hless.trans (hequal x hx) (hleast y (mem_filter.1 hy).1)
  · exact hless.less_of_not_less_of_less (hequal x hx) (mem_filter.1 (hitems.mem_iff.1 hy)).2

/-- **Partitioning by pivots sorts**, if no item is less than the bound. -/
theorem quicksort_sorts {otherwise : List α → Option (List α)}
    (hperm : ∀ items out, otherwise items = some out → out ~ items)
    (hotherwise : Sorts less place otherwise) (limit : Nat) (bound : Option α) {items : List α}
    (h : Standing place items) (hbound : ∀ b ∈ bound, ∀ x ∈ items, less x b = false) :
    ∃ out, quicksort less otherwise limit bound items = some out ∧ InOrder less place out := by
  induction limit generalizing bound items with
  | zero =>
    unfold quicksort
    split
    · exact sortShort_sorts hless items h
    · exact hotherwise items h
  | succ limit ih =>
    unfold quicksort
    split
    · exact sortShort_sorts hless items h
    · cases pivot? less items with
      | none => exact hotherwise items h
      | some pivot =>
        have hpart : ∀ p : α → Bool, Standing place (items.filter p) := fun p =>
          h.sublist filter_sublist
        dsimp only
        split
        · rename_i hcase
          obtain ⟨rest, hrest, hinOrder⟩ := ih none (hpart (less pivot ·))
            fun _ hb => (Option.not_mem_none _ hb).elim
          rw [hrest]
          refine ⟨_, rfl, inOrder_equal_append hless h (fun x hx => ?_) hinOrder
            (quicksort_perm hperm _ _ _ hrest)⟩
          -- no item is less than the pivot, be it that the bound is not, or that none was found
          rcases Bool.or_eq_true_iff.1 hcase with hbelow | hempty
          · obtain ⟨b, hb, hpivot⟩ := (Option.any_eq_true _ _).1 hbelow
            exact hless.trans (by simpa using hpivot) (hbound b hb x hx)
          · have hnone := filter_eq_nil_iff.1 (isEmpty_iff.1 hempty)
            simpa using hnone x hx
        · have hgreater : ∀ x ∈ items.filter (!less · pivot), less x pivot = false := fun x hx => by
            simpa using (mem_filter.1 hx).2
          obtain ⟨right, hright, hinOrder⟩ := ih (some pivot) (hpart (!less · pivot))
            fun b hb => Option.mem_some.1 hb ▸ hgreater
          obtain ⟨left, hleft, hinOrder'⟩ := ih bound (hpart (less · pivot))
            fun b hb x hx => hbound b hb x (mem_filter.1 hx).1
          rw [hright, hleft]
          refine ⟨_, rfl, pairwise_append.2 ⟨hinOrder', hinOrder, fun x hx y hy => .inl ?_⟩⟩
          have hx := (quicksort_perm hperm _ _ _ hleft).mem_iff.1 hx
          have hy := (quicksort_perm hperm _ _ _ hright).mem_iff.1 hy
          exact hless.less_of_less_of_not_less (mem_filter.1 hx).2 (hgreater y hy)

/-! ### Any lists -/

/-- **Sorting puts items that stand in a list in order.** -/
theorem sort_sorts (size : Nat) : Sorts less place (sort less size) := by
  have hperm : ∀ space items out, driftsort less some space true items = some out →
      out ~ items := fun _ _ _ => driftsort_eager_perm
  have heager : ∀ space, Sorts less place (driftsort less some space true) := fun space =>
    driftsort_sorts hless (fun items sorted h => .of_eq (Option.some.inj h).symm) nofun
  intro items h
  unfold sort
  dsimp only
  split
  · exact ⟨_, rfl, insertAll_inOrder hless .nil h nofun⟩
  · split
    · exact heager _ items h
    · refine driftsort_sorts hless (fun items out h => quicksort_perm (hperm _) _ _ _ h)
        (fun _ items h => ?_) items h
      exact quicksort_sorts hless (hperm _) (heager _) _ none h nofun

end Lists

/-! ### Items that a comparison orders -/

/-- A comparison that orders the items of a list. -/
structure OrdersItems (less : α → α → Bool) (items : List α) : Prop where
  asymm : ∀ x ∈ items, ∀ y ∈ items, less x y = true → less y x = false
  trans : ∀ x ∈ items, ∀ y ∈ items, ∀ z ∈ items, less y x = false → less z y = false →
    less z x = false

/-- A list of the same items, none of which is less than one before it, and in which equal items
stay as they were. -/
structure StableSort (less : α → α → Bool) (items sorted : List α) : Prop where
  perm : sorted ~ items
  ordered : sorted.Pairwise fun x y => less y x = false
  stable : ∀ p : α → Bool, (∀ x ∈ items, ∀ y ∈ items, p x → p y → less x y = false) →
    sorted.filter p = items.filter p

/-- **A list is sorted if the comparison orders its items.** -/
theorem exists_sort (size : Nat) {items : List α} (h : OrdersItems less items) :
    ∃ sorted, sort less size items = some sorted ∧ StableSort less items sorted := by
  -- Items are told apart by their places, and those of the list alone are compared.
  let Item : Type := { p : α × Nat // p ∈ items.zipIdx }
  let item (p : Item) : α := p.1.1
  let place (p : Item) : Nat := p.1.2
  have hmem : ∀ p : Item, item p ∈ items := fun p => fst_mem_of_mem_zipIdx p.2
  have hitems : items.zipIdx.attach.map item = items := by
    have hfst : items.zipIdx.attach.map item = (items.zipIdx.attach.map Subtype.val).map Prod.fst :=
      (map_map).symm
    rw [hfst, attach_map_subtype_val, zipIdx_map_fst]
  have hstanding : Standing place items.zipIdx.attach := by
    have hsnd : (items.zipIdx.map Prod.snd).Pairwise (· < ·) := by
      rw [zipIdx_map_snd]
      exact pairwise_lt_range'
    rw [← attach_map_subtype_val items.zipIdx, map_map] at hsnd
    exact pairwise_map.1 hsnd
  have hless : WeakOrder fun p q : Item => less (item p) (item q) :=
    ⟨fun {p q} => h.asymm _ (hmem p) _ (hmem q),
      fun {p q r} => h.trans _ (hmem p) _ (hmem q) _ (hmem r)⟩
  obtain ⟨sorted, hsorted, hinOrder⟩ := sort_sorts hless size _ hstanding
  have hperm := sort_perm hsorted
  refine ⟨sorted.map item, ?_, ?_, ?_, fun p hp => ?_⟩
  · have hmap : sort less size (items.zipIdx.attach.map item) = _ := sort_map size _
    rwa [hitems, hsorted] at hmap
  · exact (hperm.map item).trans (.of_eq hitems)
  · exact pairwise_map.2 (hinOrder.imp fun h => h.not_less hless)
  · have hfilter : sorted.filter (fun q => p (item q)) =
        items.zipIdx.attach.filter fun q => p (item q) := by
      have hstands : Standing place (sorted.filter fun q => p (item q)) := by
        refine (hinOrder.sublist filter_sublist).imp_of_mem fun {q r} hq hr hqr => ?_
        have hequal := hp _ (hmem q) _ (hmem r) (mem_filter.1 hq).2 (mem_filter.1 hr).2
        rcases hqr with hqr | ⟨-, hplace⟩
        · exact absurd hqr (by simp [hequal])
        · exact hplace
      exact (hperm.filter _).eq_of_pairwise (fun _ _ _ _ hqr hrq => absurd hqr (Nat.lt_asymm hrq))
        hstands (hstanding.sublist filter_sublist)
    have hmap := congrArg (filter p) hitems
    rw [filter_map] at hmap
    rw [filter_map, ← hmap]
    exact congrArg (map item) hfilter

end RowQuery.Sort
