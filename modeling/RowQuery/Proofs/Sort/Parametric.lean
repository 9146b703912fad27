/-
# Sorting looks at nothing but comparisons

Sorting what items stand for is sorting the items, compared as what they stand
for. So two lists whose items compare alike are sorted alike, and both are if one
of them is.

Key theorems: `takeFronts_map`, `mergeEnds_map`, `sortShort_map`, `cut_map`,
`mergeRuns_map`, `driftsort_map`, `quicksort_map`, `sort_map`.
-/
import RowQuery.Sort

namespace RowQuery.Sort

open List

variable {α β : Type} {less : β → β → Bool} {f : α → β}

/-! ### Insertion -/

theorem insertBack_map (x : α) : ∀ reversed : List α,
    insertBack less (f x) (reversed.map f) =
      (insertBack (fun x y => less (f x) (f y)) x reversed).map f
  | [] => rfl
  | y :: rest => by
    rw [map_cons, insertBack, insertBack, insertBack_map x rest]
    split <;> rfl

theorem foldl_insertBack_map : ∀ items reversed : List α,
    (items.map f).foldl (fun reversed x => insertBack less x reversed) (reversed.map f) =
      (items.foldl (fun reversed x => insertBack (fun x y => less (f x) (f y)) x reversed)
        reversed).map f
  | [], _ => rfl
  | x :: items, reversed => by
    rw [map_cons, foldl_cons, foldl_cons, insertBack_map, foldl_insertBack_map items]

theorem insertAll_map (ordered items : List α) :
    insertAll less (ordered.map f) (items.map f) =
      (insertAll (fun x y => less (f x) (f y)) ordered items).map f := by
  unfold insertAll
  rw [← map_reverse, foldl_insertBack_map, map_reverse]

theorem two_map (x y : α) :
    two less (f x) (f y) = Prod.map f f (two (fun x y => less (f x) (f y)) x y) := by
  unfold two
  split <;> rfl

theorem between_map (first x y last : α) :
    between less (f first) (f x) (f y) (f last) =
      (between (fun x y => less (f x) (f y)) first x y last).map f := by
  unfold between
  rw [two_map]
  rfl

theorem four_map (p q r s : α) :
    four less (f p) (f q) (f r) (f s) =
      (four (fun x y => less (f x) (f y)) p q r s).map f := by
  unfold four twoPairs
  rw [two_map, two_map]
  simp only [Prod.map, between_map]
  split <;> simp only [*]

/-! ### Merging -/

theorem merge_map (left right : List α) :
    merge less (left.map f) (right.map f) =
      (merge (fun x y => less (f x) (f y)) left right).map f := by
  unfold merge
  rw [length_map, length_map]
  split
  · exact (map_merge (s := fun x y => !less y x) fun _ _ _ _ => rfl).symm
  · rw [map_reverse, map_merge (s := fun y x => !less y x) fun _ _ _ _ => rfl, map_reverse,
      map_reverse]

theorem takeFronts_map (less : β → β → Bool) : ∀ (n : Nat) (left right : List α),
    takeFronts less n (left.map f) (right.map f) =
      Prod.map (map f) (Prod.map (map f) (map f))
        (takeFronts (fun x y => less (f x) (f y)) n left right)
  | 0, _, _ => by simp [takeFronts]
  | _ + 1, [], _ => by simp [takeFronts]
  | _ + 1, _ :: _, [] => by simp [takeFronts]
  | n + 1, x :: left, y :: right => by
    have hright := takeFronts_map less n (x :: left) right
    have hleft := takeFronts_map less n left (y :: right)
    rw [map_cons] at hleft hright
    rw [map_cons, map_cons, takeFronts, takeFronts, hleft, hright]
    split <;> rfl

theorem mergeEnds_map (left right : List α) :
    mergeEnds less (left.map f) (right.map f) =
      (mergeEnds (fun x y => less (f x) (f y)) left right).map (map f) := by
  unfold mergeEnds
  simp only [length_map, ← map_reverse, takeFronts_map, Prod.map_fst, Prod.map_snd, ← map_take,
    ← map_drop, ← map_append]
  rw [apply_ite (Option.map (map f))]
  rfl

/-! ### Short lists -/

theorem sortHalf_map (fours : Bool) (items : List α) :
    sortHalf less fours (items.map f) =
      (sortHalf (fun x y => less (f x) (f y)) fours items).map f := by
  match items with
  | [] => exact insertAll_map [] []
  | [p] => exact insertAll_map [] [p]
  | [p, q] => exact insertAll_map [] [p, q]
  | [p, q, r] => exact insertAll_map [] [p, q, r]
  | p :: q :: r :: s :: rest =>
    simp only [map_cons, sortHalf, four_map]
    split
    · exact insertAll_map _ rest
    · exact insertAll_map [] (p :: q :: r :: s :: rest)

theorem sortShort_map (items : List α) :
    sortShort less (items.map f) =
      (sortShort (fun x y => less (f x) (f y)) items).map (map f) := by
  unfold sortShort
  rw [length_map]
  split
  · rfl
  · simp only [← map_take, ← map_drop, sortHalf_map, mergeEnds_map]

/-! ### Runs -/

theorem goingOn_map {goesOn : β → β → Bool} : ∀ (x : α) (items : List α),
    goingOn goesOn (f x) (items.map f) = goingOn (fun x y => goesOn (f x) (f y)) x items
  | _, [] => rfl
  | x, y :: rest => by rw [map_cons, goingOn, goingOn, goingOn_map y rest]

theorem stretch_map (items : List α) :
    stretch less (items.map f) = stretch (fun x y => less (f x) (f y)) items := by
  cases items with
  | nil => rfl
  | cons x rest => simp only [map_cons, stretch, goingOn_map]

theorem cut_map (least loose : Nat) (items : List α) :
    cut less least loose (items.map f) =
      (cut (fun x y => less (f x) (f y)) least loose items).map (Prod.map (map f) id) := by
  fun_induction cut (fun x y => less (f x) (f y)) least loose items with
  | case1 => simp [cut]
  | case2 x rest n lie hfirst ih =>
    have hfirst' : firstRun less least loose (f x :: rest.map f) = (n, lie) := by
      unfold firstRun at hfirst ⊢
      rwa [← map_cons, stretch_map]
    rw [map_cons, cut, hfirst']
    dsimp only
    rw [← map_take, ← map_drop, ih]
    rfl

/-- A run of what the items stand for. -/
def Run.map (f : α → β) (run : Run α) : Run β := ⟨run.items.map f, run.ordered⟩

theorem ofCut_map (eager : Bool) (part : List α × Lie) :
    Run.ofCut less eager (Prod.map (List.map f) id part) =
      (Run.ofCut (fun x y => less (f x) (f y)) eager part).map (Run.map f) := by
  obtain ⟨items, lie⟩ := part
  cases lie with
  | up => rfl
  | down => simp [Run.ofCut, Run.map, Prod.map]
  | loose =>
    simp only [Run.ofCut, Prod.map, id, sortShort_map]
    split
    · rw [Option.map_map, Option.map_map]
      rfl
    · rfl

theorem ofCuts_map (eager : Bool) : ∀ parts : List (List α × Lie),
    (parts.map (Prod.map (List.map f) id)).mapM (Run.ofCut less eager) =
      (parts.mapM (Run.ofCut (fun x y => less (f x) (f y)) eager)).map (List.map (Run.map f))
  | [] => rfl
  | part :: parts => by
    rw [map_cons, mapM_cons, mapM_cons, ofCut_map, ofCuts_map eager parts]
    cases Run.ofCut (fun x y => less (f x) (f y)) eager part with
    | none => rfl
    | some run => cases parts.mapM (Run.ofCut (fun x y => less (f x) (f y)) eager) <;> rfl

section Merging

variable {settle : List β → Option (List β)} {settle' : List α → Option (List α)} {space : Nat}
  (hsettle : ∀ items : List α, settle (items.map f) = (settle' items).map (List.map f))

include hsettle

theorem settled_map (run : Run α) :
    (run.map f).settled settle = (run.settled settle').map (List.map f) := by
  unfold Run.settled
  show (if run.ordered then _ else _) = _
  split
  · rfl
  · exact hsettle run.items

theorem join_map (left right : Run α) :
    Run.join less settle space (left.map f) (right.map f) =
      (Run.join (fun x y => less (f x) (f y)) settle' space left right).map (Run.map f) := by
  unfold Run.join
  rw [settled_map hsettle, settled_map hsettle]
  simp only [Run.map, length_map]
  split
  · simp [Run.map]
  · cases left.settled settle' with
    | none => rfl
    | some front =>
      cases right.settled settle' with
      | none => rfl
      | some back => simp [Run.map, merge_map]

theorem joinDeeper_map (depth : Nat) : ∀ (waiting : List (Run α × Nat)) (run : Run α),
    joinDeeper less settle space depth (waiting.map (Prod.map (Run.map f) id)) (run.map f) =
      (joinDeeper (fun x y => less (f x) (f y)) settle' space depth waiting run).map
        (Prod.map (List.map (Prod.map (Run.map f) id)) (Run.map f))
  | [], run => rfl
  | (before, d) :: waiting, run => by
    rw [map_cons]
    unfold joinDeeper
    simp only [Prod.map, id]
    split
    · rw [join_map hsettle]
      cases Run.join (fun x y => less (f x) (f y)) settle' space before run with
      | none => rfl
      | some joined => exact joinDeeper_map depth waiting joined
    · rfl

theorem mergeRuns_map (n : Nat) : ∀ (waiting : List (Run α × Nat)) (run : Run α) (place : Nat)
    (rest : List (Run α)),
    mergeRuns less settle space n (waiting.map (Prod.map (Run.map f) id)) (run.map f) place
        (rest.map (Run.map f)) =
      (mergeRuns (fun x y => less (f x) (f y)) settle' space n waiting run place rest).map
        (Run.map f)
  | waiting, run, place, [] => by
    rw [map_nil, mergeRuns, mergeRuns, joinDeeper_map hsettle, Option.map_map, Option.map_map]
    rfl
  | waiting, run, place, next :: rest => by
    have hlength : ∀ run : Run α, (run.map f).items.length = run.items.length :=
      fun run => length_map f
    rw [map_cons, mergeRuns, mergeRuns]
    simp only [hlength, joinDeeper_map hsettle]
    cases joinDeeper (fun x y => less (f x) (f y)) settle' space (mergeDepth n
        (place - run.items.length) place (place + next.items.length)) waiting run with
    | none => rfl
    | some joined => exact mergeRuns_map n ((joined.2, _) :: joined.1) next _ rest

theorem mergeAll_map (n : Nat) (runs : List (Run α)) :
    mergeAll less settle space n (runs.map (Run.map f)) =
      (mergeAll (fun x y => less (f x) (f y)) settle' space n runs).map (List.map f) := by
  cases runs with
  | nil => rfl
  | cons run rest =>
    have hlength : (run.map f).items.length = run.items.length := length_map f
    have hmerged : mergeRuns less settle space n [] (run.map f) run.items.length
        (rest.map (Run.map f)) = _ := mergeRuns_map hsettle n [] run run.items.length rest
    rw [map_cons, mergeAll, mergeAll, hlength, hmerged]
    cases mergeRuns (fun x y => less (f x) (f y)) settle' space n [] run run.items.length rest with
    | none => rfl
    | some merged => exact settled_map hsettle merged

theorem driftsort_map (eager : Bool) (items : List α) :
    driftsort less settle space eager (items.map f) =
      (driftsort (fun x y => less (f x) (f y)) settle' space eager items).map (List.map f) := by
  unfold driftsort
  simp only [length_map, cut_map, ofCuts_map]
  generalize (mapM (Run.ofCut (fun x y => less (f x) (f y)) eager) _ : Option (List (Run α))) =
    runs
  cases runs with
  | none => rfl
  | some runs => exact mergeAll_map hsettle _ runs

end Merging

/-! ### Pivots -/

theorem median_map (x y z : α) :
    median less (f x) (f y) (f z) = f (median (fun x y => less (f x) (f y)) x y z) := by
  unfold median
  split
  · split <;> rfl
  · rfl

theorem middle_map (item : Nat → α) (start n : Nat) :
    middle less (fun i => f (item i)) start n =
      f (middle (fun x y => less (f x) (f y)) item start n) := by
  fun_induction middle (fun x y => less (f x) (f y)) item start n with
  | case1 start n step hn ih₁ ih₂ ih₃ =>
    rw [middle, if_pos hn, ih₁, ih₂, ih₃, median_map]
  | case2 start n step hn =>
    rw [middle, if_neg hn, median_map]

theorem pivot?_map (items : List α) :
    pivot? less (items.map f) = (pivot? (fun x y => less (f x) (f y)) items).map f := by
  cases items with
  | nil => rfl
  | cons x rest =>
    have hitem : (((x :: rest).map f).toArray.getD · (f x)) =
        fun i => f ((x :: rest).toArray.getD i x) := by
      funext i
      simp only [Array.getD_eq_getD_getElem?, getElem?_toArray, getElem?_map]
      cases (x :: rest)[i]? <;> rfl
    rw [map_cons] at hitem ⊢
    unfold pivot?
    dsimp only
    rw [hitem, middle_map]
    simp

theorem quicksort_map {otherwise : List β → Option (List β)} {otherwise' : List α → Option (List α)}
    (hotherwise : ∀ items : List α, otherwise (items.map f) = (otherwise' items).map (map f))
    (limit : Nat) (bound : Option α) (items : List α) :
    quicksort less otherwise limit (bound.map f) (items.map f) =
      (quicksort (fun x y => less (f x) (f y)) otherwise' limit bound items).map (map f) := by
  induction limit generalizing bound items with
  | zero =>
    unfold quicksort
    rw [length_map]
    split
    · exact sortShort_map items
    · exact hotherwise items
  | succ limit ih =>
    unfold quicksort
    rw [length_map, pivot?_map]
    split
    · exact sortShort_map items
    · cases pivot? (fun x y => less (f x) (f y)) items with
      | none => exact hotherwise items
      | some pivot =>
        have hfilter : ∀ p : β → Bool, (items.map f).filter p =
            (items.filter fun x => p (f x)).map f := fun p => filter_map
        have hbound : (bound.map f).any (fun b => !less b (f pivot)) =
            bound.any fun b => !less (f b) (f pivot) := by cases bound <;> rfl
        simp only [Option.map_some, hfilter, hbound, isEmpty_map]
        split
        · have hrest := ih none (items.filter fun x => less (f pivot) (f x))
          rw [Option.map_none] at hrest
          rw [hrest]
          cases quicksort (fun x y => less (f x) (f y)) otherwise' limit none
              (items.filter fun x => less (f pivot) (f x)) with
          | none => rfl
          | some rest => exact congrArg some map_append.symm
        · have hright := ih (some pivot) (items.filter fun x => !less (f x) (f pivot))
          rw [Option.map_some] at hright
          rw [hright, ih]
          cases quicksort (fun x y => less (f x) (f y)) otherwise' limit (some pivot)
              (items.filter fun x => !less (f x) (f pivot)) with
          | none => rfl
          | some right =>
            cases quicksort (fun x y => less (f x) (f y)) otherwise' limit bound
                (items.filter fun x => less (f x) (f pivot)) with
            | none => rfl
            | some left => exact congrArg some map_append.symm

/-! ### Any lists -/

/-- **Sorting what items stand for** is sorting the items. -/
theorem sort_map (size : Nat) (items : List α) :
    sort less size (items.map f) =
      (sort (fun x y => less (f x) (f y)) size items).map (map f) := by
  have heager : ∀ space (items : List α), driftsort less some space true (items.map f) =
      (driftsort (fun x y => less (f x) (f y)) some space true items).map (map f) :=
    fun space items => driftsort_map (fun _ => rfl) true items
  unfold sort
  rw [length_map]
  dsimp only
  split
  · exact congrArg some (insertAll_map [] items)
  · split
    · exact heager _ items
    · refine driftsort_map (fun items => ?_) false items
      rw [length_map]
      exact quicksort_map (heager _) _ none items

end RowQuery.Sort
