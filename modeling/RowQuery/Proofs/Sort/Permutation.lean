/-
# Sorting loses nothing

Whatever two items compare like, what sorting gives is a permutation of what it
was given.

Key theorems: `takeFronts_spec`, `mergeEnds_perm`, `sortShort_perm`, `flatten_cut`,
`mergeRuns_perm`, `driftsort_perm`, `quicksort_perm`, `sort_perm`.
-/
import RowQuery.Sort
import Mathlib.Data.List.Perm.Basic

namespace RowQuery.Sort

open List

variable {α : Type} {less : α → α → Bool}

/-! ### Insertion -/

theorem insertBack_perm (x : α) : ∀ reversed : List α, insertBack less x reversed ~ x :: reversed
  | [] => .refl _
  | y :: rest => by
    unfold insertBack
    split
    · exact ((insertBack_perm x rest).cons y).trans (.swap x y rest)
    · exact .refl _

theorem foldl_insertBack_perm : ∀ items reversed : List α,
    items.foldl (fun reversed x => insertBack less x reversed) reversed ~ reversed ++ items
  | [], reversed => by rw [append_nil, foldl_nil]
  | x :: items, reversed => by
    rw [foldl_cons]
    refine (foldl_insertBack_perm items _).trans ?_
    refine ((insertBack_perm x reversed).append_right items).trans ?_
    exact perm_middle.symm

theorem insertAll_perm (ordered items : List α) :
    insertAll less ordered items ~ ordered ++ items :=
  calc insertAll less ordered items
    _ ~ items.foldl (fun reversed x => insertBack less x reversed) ordered.reverse := reverse_perm _
    _ ~ ordered.reverse ++ items := foldl_insertBack_perm items _
    _ ~ ordered ++ items := (reverse_perm ordered).append_right items

theorem two_perm (x y : α) : [(two less x y).1, (two less x y).2] ~ [x, y] := by
  unfold two
  split
  · exact .swap x y []
  · exact .refl _

theorem between_perm (first x y last : α) :
    between less first x y last ~ [first, x, y, last] :=
  ((two_perm x y).append_right [last]).cons first

theorem twoPairs_perm (a b c d : α) : twoPairs less a b c d ~ [a, b, c, d] := by
  have hlast : [a, c, d, b] ~ [a, b, c, d] := (perm_append_singleton b [c, d]).cons a
  have hfirst : ∀ last, [c, a, b, last] ~ [a, b, c, last] := fun last =>
    ((perm_append_singleton c [a, b]).symm).append_right [last]
  unfold twoPairs
  split
  · exact between_perm a b c d
  · exact (between_perm a c d b).trans hlast
  · exact (between_perm c a b d).trans (hfirst d)
  · refine (between_perm c a d b).trans ?_
    exact (Perm.swap a c [d, b]).trans hlast

theorem four_perm (p q r s : α) : four less p q r s ~ [p, q, r, s] :=
  (twoPairs_perm _ _ _ _).trans ((two_perm p q).append (two_perm r s))

/-! ### Merging -/

theorem merge_back_perm (le : α → α → Bool) (left right : List α) :
    (right.reverse.merge left.reverse le).reverse ~ left ++ right :=
  calc (right.reverse.merge left.reverse le).reverse
    _ ~ right.reverse.merge left.reverse le := reverse_perm _
    _ ~ right.reverse ++ left.reverse := merge_perm_append _
    _ ~ right ++ left := (reverse_perm right).append (reverse_perm left)
    _ ~ left ++ right := perm_append_comm

theorem merge_perm (left right : List α) : merge less left right ~ left ++ right := by
  unfold merge
  split
  · exact merge_perm_append _
  · exact merge_back_perm _ left right

/-- What is taken from the fronts of two lists is the beginning of what they are merged to, and what
is left of them is merged to the rest of it. -/
theorem takeFronts_spec (less : α → α → Bool) : ∀ (n : Nat) (left right : List α),
    n ≤ left.length → n ≤ right.length → ∃ i j, i + j = n ∧
      takeFronts less n left right =
        ((left.merge right fun x y => !less y x).take n, left.drop i, right.drop j) ∧
      ((left.drop i).merge (right.drop j) fun x y => !less y x) =
        (left.merge right fun x y => !less y x).drop n
  | 0, left, right, _, _ => ⟨0, 0, rfl, by simp [takeFronts], rfl⟩
  | n + 1, x :: left, y :: right, hl, hr => by
    rw [length_cons] at hl hr
    unfold takeFronts
    cases hless : less y x with
    | true =>
      obtain ⟨i, j, hn, htaken, hrest⟩ := takeFronts_spec less n (x :: left) right
        (by rw [length_cons]; omega) (by omega)
      refine ⟨i, j + 1, by omega, ?_, ?_⟩
      · rw [if_pos rfl, htaken, cons_merge_cons_neg _ _ _ (by simp [hless])]
        rfl
      · rw [drop_succ_cons, hrest, cons_merge_cons_neg _ _ _ (by simp [hless]), drop_succ_cons]
    | false =>
      obtain ⟨i, j, hn, htaken, hrest⟩ := takeFronts_spec less n left (y :: right)
        (by omega) (by rw [length_cons]; omega)
      refine ⟨i + 1, j, by omega, ?_, ?_⟩
      · rw [if_neg Bool.false_ne_true, htaken, cons_merge_cons_pos _ _ _ (by simp [hless])]
        rfl
      · rw [drop_succ_cons, hrest, cons_merge_cons_pos _ _ _ (by simp [hless]), drop_succ_cons]

theorem take_merge_perm (less : α → α → Bool) {n i j : Nat} {left right : List α}
    (hrest : ((left.drop i).merge (right.drop j) fun x y => !less y x) =
      (left.merge right fun x y => !less y x).drop n) :
    (left.merge right fun x y => !less y x).take n ~ left.take i ++ right.take j := by
  classical
  have hwhole : (left.merge right fun x y => !less y x) ~ left ++ right := merge_perm_append _
  have hparts : ((left.drop i).merge (right.drop j) fun x y => !less y x) ~
    left.drop i ++ right.drop j := merge_perm_append _
  rw [hrest] at hparts
  refine perm_iff_count.2 fun e => ?_
  have hwhole := hwhole.count_eq e
  have hparts := hparts.count_eq e
  have hmerged := congrArg (count e) (take_append_drop n (left.merge right fun x y => !less y x))
  have hleft := congrArg (count e) (take_append_drop i left)
  have hright := congrArg (count e) (take_append_drop j right)
  rw [count_append] at hwhole hparts hmerged hleft hright ⊢
  omega

/-- A list taken from both ends and between them. -/
theorem take_both_perm (xs : List α) (i k j : Nat) (h : i + k + j = xs.length) :
    xs.take i ++ (xs.drop i).take k ++ xs.reverse.take j ~ xs := by
  have hback : xs.reverse.take j = (xs.drop (i + k)).reverse := by
    rw [take_reverse]
    congr 2
    omega
  have hfront : xs.take i ++ (xs.drop i).take k = xs.take (i + k) := take_add.symm
  rw [hback, hfront]
  exact ((reverse_perm _).append_left _).trans (.of_eq (take_append_drop _ _))

/-- What the ends of a merge take from either list. -/
theorem mergeEnds_parts (less : α → α → Bool) {left right : List α}
    (hlength : left.length ≤ right.length) :
    ∃ i j i' j' : Nat, i + j = left.length ∧ i' + j' = left.length ∧
      takeFronts less left.length left right =
        ((left.merge right fun x y => !less y x).take left.length, left.drop i, right.drop j) ∧
      takeFronts (fun x y => less y x) left.length right.reverse left.reverse =
        ((right.reverse.merge left.reverse fun x y => !less x y).take left.length,
          right.reverse.drop j', left.reverse.drop i') ∧
      (left.merge right fun x y => !less y x).take left.length ~ left.take i ++ right.take j ∧
      (right.reverse.merge left.reverse fun x y => !less x y).take left.length ~
        right.reverse.take j' ++ left.reverse.take i' := by
  obtain ⟨i, j, hn, htaken, hrest⟩ := takeFronts_spec less left.length left right
    (Nat.le_refl _) hlength
  obtain ⟨j', i', hn', htaken', hrest'⟩ := takeFronts_spec (fun x y => less y x) left.length
    right.reverse left.reverse (by rwa [length_reverse]) (Nat.le_of_eq length_reverse.symm)
  exact ⟨i, j, i', j', hn, by omega, htaken, htaken', take_merge_perm less hrest,
    take_merge_perm (fun x y => less y x) hrest'⟩

theorem mergeEnds_perm {left right out : List α} (hlength : left.length ≤ right.length)
    (hmore : right.length ≤ left.length + 1) (h : mergeEnds less left right = some out) :
    out ~ left ++ right := by
  classical
  obtain ⟨i, j, i', j', hn, hn', htaken, htaken', hfront, hback⟩ :=
    mergeEnds_parts less hlength
  unfold mergeEnds at h
  simp only [htaken, htaken', length_drop, length_reverse] at h
  generalize hk : (if left.length < left.length - i + (left.length - i') then
    right.length - left.length else 0) = k at h
  split at h
  · rename_i hmeet
    obtain rfl := Option.some.inj h
    have hleft := take_both_perm left i k i' (by split at hk <;> omega)
    have hright := take_both_perm right j (right.length - left.length - k) j'
      (by split at hk <;> omega)
    refine perm_iff_count.2 fun e => ?_
    have hfront := hfront.count_eq e
    have hback := hback.count_eq e
    have hleft := hleft.count_eq e
    have hright := hright.count_eq e
    simp only [count_append, count_reverse] at hfront hback hleft hright ⊢
    omega
  · cases h

/-! ### Short lists -/

theorem sortHalf_perm (less : α → α → Bool) (fours : Bool) (items : List α) :
    sortHalf less fours items ~ items := by
  unfold sortHalf
  split
  · rename_i p q r s rest
    split
    · exact (insertAll_perm _ rest).trans ((four_perm p q r s).append_right rest)
    · exact insertAll_perm [] _
  · exact insertAll_perm [] _

theorem sortShort_perm {items out : List α} (h : sortShort less items = some out) :
    out ~ items := by
  unfold sortShort at h
  split at h
  · obtain rfl := Option.some.inj h
    exact .refl _
  · dsimp only at h
    have hhalves := (sortHalf_perm less (decide (8 ≤ items.length))
      (items.take (items.length / 2))).append
      (sortHalf_perm less (decide (8 ≤ items.length)) (items.drop (items.length / 2)))
    rw [take_append_drop] at hhalves
    refine (mergeEnds_perm ?_ ?_ h).trans hhalves
    all_goals
      rw [(sortHalf_perm _ _ _).length_eq, (sortHalf_perm _ _ _).length_eq, length_take,
        length_drop]
      omega

/-! ### Runs -/

/-- The runs of a list are the list. -/
theorem flatten_cut (least loose : Nat) (items : List α) :
    ((cut less least loose items).map Prod.fst).flatten = items := by
  fun_induction cut less least loose items with
  | case1 => rfl
  | case2 x rest length lie hcut ih =>
    rw [map_cons, flatten_cons, ih, cons_append, take_append_drop]

theorem ofCut_perm {eager : Bool} {part : List α × Lie} {run : Run α}
    (h : Run.ofCut less eager part = some run) : run.items ~ part.1 := by
  obtain ⟨items, lie⟩ := part
  cases lie with
  | up =>
    obtain rfl := Option.some.inj h
    exact .refl _
  | down =>
    obtain rfl := Option.some.inj h
    exact reverse_perm items
  | loose =>
    unfold Run.ofCut at h
    dsimp only at h
    split at h
    · obtain ⟨sorted, hsorted, rfl⟩ := Option.map_eq_some_iff.1 h
      exact sortShort_perm hsorted
    · obtain rfl := Option.some.inj h
      exact .refl _

/-- The items of runs, the first run last. -/
def itemsOf (runs : List (Run α)) : List α := runs.flatMap Run.items

theorem ofCuts_perm {eager : Bool} : ∀ {parts : List (List α × Lie)} {runs : List (Run α)},
    parts.mapM (Run.ofCut less eager) = some runs →
    itemsOf runs ~ (parts.map Prod.fst).flatten
  | [], runs, h => by
    rw [mapM_nil] at h
    obtain rfl := Option.some.inj h
    exact .refl _
  | part :: parts, runs, h => by
    rw [mapM_cons] at h
    obtain ⟨run, hrun, h⟩ := Option.bind_eq_some_iff.1 h
    obtain ⟨rest, hrest, h⟩ := Option.bind_eq_some_iff.1 h
    obtain rfl := Option.some.inj h
    exact (ofCut_perm hrun).append (ofCuts_perm hrest)

section Merging

variable {settle : List α → Option (List α)} {space : Nat}
  (hsettle : ∀ items sorted, settle items = some sorted → sorted ~ items)

include hsettle

theorem settled_perm {run : Run α} {out : List α} (h : run.settled settle = some out) :
    out ~ run.items := by
  unfold Run.settled at h
  split at h
  · obtain rfl := Option.some.inj h
    exact .refl _
  · exact hsettle _ _ h

theorem join_perm {left right run : Run α} (h : Run.join less settle space left right = some run) :
    run.items ~ left.items ++ right.items := by
  unfold Run.join at h
  split at h
  · obtain rfl := Option.some.inj h
    exact .refl _
  · obtain ⟨front, hfront, h⟩ := Option.bind_eq_some_iff.1 h
    obtain ⟨back, hback, h⟩ := Option.bind_eq_some_iff.1 h
    obtain rfl := Option.some.inj h
    exact (merge_perm front back).trans
      ((settled_perm hsettle hfront).append (settled_perm hsettle hback))

theorem joinDeeper_perm {depth : Nat} : ∀ {waiting waiting' : List (Run α × Nat)}
    {run run' : Run α}, joinDeeper less settle space depth waiting run = some (waiting', run') →
    itemsOf (run' :: waiting'.map Prod.fst) ~ itemsOf (run :: waiting.map Prod.fst)
  | [], waiting', run, run', h => by
    obtain ⟨rfl, rfl⟩ := Prod.mk.inj (Option.some.inj h)
    exact .refl _
  | (before, d) :: waiting, waiting', run, run', h => by
    unfold joinDeeper at h
    split at h
    · obtain ⟨joined, hjoined, h⟩ := Option.bind_eq_some_iff.1 h
      calc itemsOf (run' :: waiting'.map Prod.fst)
        _ ~ joined.items ++ itemsOf (waiting.map Prod.fst) := joinDeeper_perm h
        _ ~ (before.items ++ run.items) ++ itemsOf (waiting.map Prod.fst) :=
          (join_perm hsettle hjoined).append_right _
        _ ~ (run.items ++ before.items) ++ itemsOf (waiting.map Prod.fst) :=
          perm_append_comm.append_right _
        _ ~ itemsOf (run :: ((before, d) :: waiting).map Prod.fst) :=
          .of_eq (append_assoc _ _ _)
    · obtain ⟨rfl, rfl⟩ := Prod.mk.inj (Option.some.inj h)
      exact .refl _

omit hsettle in
/-- At depth zero no run is left waiting. -/
theorem joinDeeper_zero : ∀ {waiting waiting' : List (Run α × Nat)} {run run' : Run α},
    joinDeeper less settle space 0 waiting run = some (waiting', run') → waiting' = []
  | [], _, _, _, h => (Prod.mk.inj (Option.some.inj h)).1.symm
  | (before, d) :: waiting, _, _, _, h => by
    unfold joinDeeper at h
    rw [if_pos (Nat.zero_le d)] at h
    obtain ⟨_, -, h⟩ := Option.bind_eq_some_iff.1 h
    exact joinDeeper_zero h

theorem mergeRuns_perm {n : Nat} : ∀ {rest : List (Run α)} {waiting : List (Run α × Nat)}
    {run out : Run α} {place : Nat},
    mergeRuns less settle space n waiting run place rest = some out →
    out.items ~ itemsOf (run :: waiting.map Prod.fst) ++ itemsOf rest
  | [], waiting, run, out, place, h => by
    obtain ⟨⟨waiting', out⟩, hjoined, rfl⟩ := Option.map_eq_some_iff.1 h
    have hperm := joinDeeper_perm hsettle hjoined
    obtain rfl := joinDeeper_zero hjoined
    simpa [itemsOf] using hperm
  | next :: rest, waiting, run, out, place, h => by
    unfold mergeRuns at h
    obtain ⟨⟨waiting', run'⟩, hjoined, h⟩ := Option.bind_eq_some_iff.1 h
    have hperm := (joinDeeper_perm hsettle hjoined).append_right (itemsOf (next :: rest))
    refine (mergeRuns_perm h).trans (Perm.trans ?_ hperm)
    show (next.items ++ itemsOf (run' :: waiting'.map Prod.fst)) ++ itemsOf rest ~ _
    rw [append_assoc]
    exact perm_append_comm_assoc _ _ _

theorem mergeAll_perm {n : Nat} {runs : List (Run α)} {out : List α}
    (h : mergeAll less settle space n runs = some out) : out ~ itemsOf runs := by
  cases runs with
  | nil =>
    obtain rfl := Option.some.inj h
    exact .refl _
  | cons run rest =>
    obtain ⟨merged, hmerged, h⟩ := Option.bind_eq_some_iff.1 h
    refine (settled_perm hsettle h).trans ?_
    simpa [itemsOf] using mergeRuns_perm hsettle hmerged

theorem driftsort_perm {eager : Bool} {items out : List α}
    (h : driftsort less settle space eager items = some out) : out ~ items := by
  unfold driftsort at h
  obtain ⟨runs, hruns, h⟩ := Option.bind_eq_some_iff.1 h
  have hitems := ofCuts_perm hruns
  rw [flatten_cut] at hitems
  exact (mergeAll_perm hsettle h).trans hitems

omit hsettle in
/-- No items are loose if they are sorted as they are cut. -/
theorem driftsort_eager_perm {items out : List α}
    (h : driftsort less some space true items = some out) : out ~ items :=
  driftsort_perm (fun _ _ h => .of_eq (Option.some.inj h).symm) h

end Merging

/-! ### Pivots -/

theorem quicksort_perm {otherwise : List α → Option (List α)}
    (hotherwise : ∀ items out, otherwise items = some out → out ~ items) (limit : Nat)
    (bound : Option α) (items : List α) {out : List α}
    (h : quicksort less otherwise limit bound items = some out) : out ~ items := by
  induction limit generalizing bound items out with
  | zero =>
    unfold quicksort at h
    split at h
    · exact sortShort_perm h
    · exact hotherwise _ _ h
  | succ limit ih =>
    unfold quicksort at h
    split at h
    · exact sortShort_perm h
    · cases hpivot : pivot? less items with
      | none =>
        rw [hpivot] at h
        exact hotherwise _ _ h
      | some pivot =>
        rw [hpivot] at h
        dsimp only at h
        split at h
        · obtain ⟨rest, hrest, h⟩ := Option.bind_eq_some_iff.1 h
          obtain rfl := Option.some.inj h
          refine ((ih _ _ hrest).append_left _).trans ?_
          refine perm_append_comm.trans ?_
          simpa using filter_append_perm (less pivot ·) items
        · obtain ⟨right, hright, h⟩ := Option.bind_eq_some_iff.1 h
          obtain ⟨left, hleft, h⟩ := Option.bind_eq_some_iff.1 h
          obtain rfl := Option.some.inj h
          refine ((ih _ _ hleft).append (ih _ _ hright)).trans ?_
          simpa using filter_append_perm (less · pivot) items

/-! ### Any lists -/

/-- Few items are sorted by insertion, which always has a result. -/
theorem sort_of_length_le (size : Nat) {items : List α} (h : items.length ≤ 20) :
    sort less size items = some (insertAll less [] items) :=
  if_pos h

/-- **What sorting gives is a permutation** of what it was given, also if the comparison orders
nothing. -/
theorem sort_perm {size : Nat} {items out : List α} (h : sort less size items = some out) :
    out ~ items := by
  unfold sort at h
  dsimp only at h
  split at h
  · obtain rfl := Option.some.inj h
    exact insertAll_perm [] items
  · split at h
    · exact driftsort_eager_perm h
    · exact driftsort_perm
        (fun _ _ h => quicksort_perm (fun _ _ => driftsort_eager_perm) _ _ _ h) h

end RowQuery.Sort
