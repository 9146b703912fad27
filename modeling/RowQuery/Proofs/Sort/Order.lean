/-
# Short lists are sorted

A comparison that orders the items, and the places at which they stand in the
list that is sorted, tell of any two of them which one comes first: the lesser
one, and of equal ones the one that stands first. This is an order without equal
items, so a list of the items that is in it is the only one. Insertion and merging
give such a list, if they are given items as they stand; in particular the ends of
a merge meet.

Key definitions: `WeakOrder`, `Precedes`, `Standing`, `InOrder`, `Sorts`.
Key theorems: `InOrder.eq_of_perm`, `insertAll_inOrder`, `pairwise_merge_of`,
`merge_inOrder`, `mergeEnds_eq`, `sortShort_sorts`.
-/
import RowQuery.Proofs.Sort.Permutation

namespace RowQuery.Sort

open List

variable {α : Type}

/-! ### Which item comes first -/

/-- A comparison that tells which items are less than others, so that not being less is a total
order of the items up to equal ones. -/
structure WeakOrder (less : α → α → Bool) : Prop where
  asymm : ∀ {x y : α}, less x y = true → less y x = false
  trans : ∀ {x y z : α}, less y x = false → less z y = false → less z x = false

/-- One item comes before another: it is less, or equal and stands before it. -/
def Precedes (less : α → α → Bool) (place : α → Nat) (x y : α) : Prop :=
  less x y = true ∨ less y x = false ∧ place x < place y

/-- Items in the order in which they stand. -/
abbrev Standing (place : α → Nat) (items : List α) : Prop :=
  items.Pairwise fun x y => place x < place y

/-- Items each of which comes before those after it. -/
abbrev InOrder (less : α → α → Bool) (place : α → Nat) (items : List α) : Prop :=
  items.Pairwise (Precedes less place)

/-- All items of one list stand before those of another. -/
def StandBefore (place : α → Nat) (xs ys : List α) : Prop :=
  ∀ x ∈ xs, ∀ y ∈ ys, place x < place y

/-- Items that stand in a list are put in order. -/
def Sorts (less : α → α → Bool) (place : α → Nat) (f : List α → Option (List α)) : Prop :=
  ∀ items, Standing place items → ∃ out, f items = some out ∧ InOrder less place out

variable {less : α → α → Bool} {place : α → Nat}

theorem standing_append {xs ys : List α} :
    Standing place (xs ++ ys) ↔ Standing place xs ∧ Standing place ys ∧ StandBefore place xs ys :=
  pairwise_append

theorem StandBefore.perm {xs ys xs' ys' : List α} (h : StandBefore place xs ys) (hx : xs' ~ xs)
    (hy : ys' ~ ys) : StandBefore place xs' ys' :=
  fun x hx' y hy' => h x (hx.mem_iff.1 hx') y (hy.mem_iff.1 hy')

section Order

variable (hless : WeakOrder less) {x y z : α}

include hless

theorem WeakOrder.less_of_less_of_not_less (hxy : less x y = true) (hzy : less z y = false) :
    less x z = true := by
  cases hxz : less x z with
  | true => rfl
  | false => rw [hless.trans hzy hxz] at hxy; cases hxy

theorem WeakOrder.less_of_not_less_of_less (hyx : less y x = false) (hyz : less y z = true) :
    less x z = true := by
  cases hxz : less x z with
  | true => rfl
  | false => rw [hless.trans hxz hyx] at hyz; cases hyz

theorem Precedes.not_less (h : Precedes less place x y) : less y x = false :=
  h.elim hless.asymm And.left

theorem Precedes.trans (hxy : Precedes less place x y) (hyz : Precedes less place y z) :
    Precedes less place x z := by
  rcases hxy with hxy | ⟨hyx, hplace⟩
  · exact .inl (hless.less_of_less_of_not_less hxy (hyz.not_less hless))
  · rcases hyz with hyz | ⟨hzy, hplace'⟩
    · exact .inl (hless.less_of_not_less_of_less hyx hyz)
    · exact .inr ⟨hless.trans hyx hzy, Nat.lt_trans hplace hplace'⟩

theorem Precedes.asymm (hxy : Precedes less place x y) : ¬ Precedes less place y x := by
  intro hyx
  have hle := hxy.not_less hless
  have hge := hyx.not_less hless
  rcases hxy with hxy | ⟨-, hplace⟩
  · rw [hge] at hxy
    cases hxy
  · rcases hyx with hyx | ⟨-, hplace'⟩
    · rw [hle] at hyx
      cases hyx
    · omega

/-- A list in order is the only one of its items. -/
theorem InOrder.eq_of_perm {xs ys : List α} (hx : InOrder less place xs)
    (hy : InOrder less place ys) (h : xs ~ ys) : xs = ys :=
  h.eq_of_pairwise (fun _ _ _ _ hxy hyx => absurd hyx (hxy.asymm hless)) hx hy

/-! ### Insertion -/

theorem insertBack_inOrder : ∀ {reversed : List α},
    reversed.Pairwise (flip (Precedes less place)) → (∀ y ∈ reversed, place y < place x) →
    (insertBack less x reversed).Pairwise (flip (Precedes less place))
  | [], _, _ => pairwise_singleton _ x
  | y :: rest, h, hplace => by
    obtain ⟨hy, hrest⟩ := pairwise_cons.1 h
    obtain ⟨hyx, hplace⟩ := forall_mem_cons.1 hplace
    unfold insertBack
    split
    · rename_i hxy
      refine pairwise_cons.2 ⟨fun z hz => ?_, insertBack_inOrder hrest hplace⟩
      rcases mem_cons.1 ((insertBack_perm x rest).mem_iff.1 hz) with rfl | hz
      · exact .inl hxy
      · exact hy z hz
    · rename_i hxy
      have hle : Precedes less place y x := .inr ⟨Bool.eq_false_iff.2 hxy, hyx⟩
      refine pairwise_cons.2 ⟨fun z hz => ?_, h⟩
      rcases mem_cons.1 hz with rfl | hz
      · exact hle
      · exact (hy z hz).trans hless hle

theorem foldl_insertBack_inOrder : ∀ {items reversed : List α},
    reversed.Pairwise (flip (Precedes less place)) → Standing place items →
    StandBefore place reversed items →
    (items.foldl (fun reversed x => insertBack less x reversed) reversed).Pairwise
      (flip (Precedes less place))
  | [], _, h, _, _ => h
  | x :: items, reversed, h, hitems, hbefore => by
    obtain ⟨hx, hitems⟩ := pairwise_cons.1 hitems
    rw [foldl_cons]
    refine foldl_insertBack_inOrder
      (insertBack_inOrder hless h fun y hy => hbefore y hy x mem_cons_self) hitems ?_
    intro y hy z hz
    rcases mem_cons.1 ((insertBack_perm x reversed).mem_iff.1 hy) with rfl | hy
    · exact hx z hz
    · exact hbefore y hy z (mem_cons_of_mem x hz)

theorem insertAll_inOrder {ordered items : List α} (h : InOrder less place ordered)
    (hitems : Standing place items) (hbefore : StandBefore place ordered items) :
    InOrder less place (insertAll less ordered items) :=
  pairwise_reverse.2 (foldl_insertBack_inOrder hless (pairwise_reverse.2 h) hitems
    (hbefore.perm (reverse_perm ordered) (.refl items)))

omit hless in
theorem two_inOrder (h : place x < place y ∨ Precedes less place x y) :
    Precedes less place (two less x y).1 (two less x y).2 := by
  unfold two
  split
  · rename_i hyx
    exact .inl hyx
  · rename_i hyx
    rcases h with h | h
    · exact .inr ⟨Bool.eq_false_iff.2 hyx, h⟩
    · exact h

theorem between_inOrder {first last : α} (hx : Precedes less place first x)
    (hy : Precedes less place first y) (hx' : Precedes less place x last)
    (hy' : Precedes less place y last) (h : place x < place y ∨ Precedes less place x y) :
    InOrder less place (between less first x y last) := by
  have hmem : ∀ z ∈ [(two less x y).1, (two less x y).2],
      Precedes less place first z ∧ Precedes less place z last := by
    intro z hz
    rcases mem_pair.1 ((two_perm x y).mem_iff.1 hz) with rfl | rfl
    · exact ⟨hx, hx'⟩
    · exact ⟨hy, hy'⟩
  have hlesser := hmem _ mem_cons_self
  have hgreater := hmem _ (mem_cons_of_mem _ mem_cons_self)
  have htwo := two_inOrder h
  unfold between
  simp only [InOrder, pairwise_cons, mem_cons, not_mem_nil, or_false, forall_eq_or_imp, forall_eq,
    Pairwise.nil, and_true, IsEmpty.forall_iff, implies_true]
  exact ⟨⟨hlesser.1, hgreater.1, hlesser.1.trans hless hlesser.2⟩, ⟨htwo, hlesser.2⟩, hgreater.2⟩

theorem twoPairs_inOrder {a b c d : α} (hab : Precedes less place a b)
    (hcd : Precedes less place c d) (hplace : StandBefore place [a, b] [c, d]) :
    InOrder less place (twoPairs less a b c d) := by
  have hac : place a < place c := hplace a (by simp) c (by simp)
  have had : place a < place d := hplace a (by simp) d (by simp)
  have hbc : place b < place c := hplace b (by simp) c (by simp)
  have hbd : place b < place d := hplace b (by simp) d (by simp)
  unfold twoPairs
  split
  · rename_i hca hdb
    have hac : Precedes less place a c := .inr ⟨hca, hac⟩
    have hbd : Precedes less place b d := .inr ⟨hdb, hbd⟩
    exact between_inOrder hless hab hac hbd hcd (.inl hbc)
  · rename_i hca hdb
    have hac : Precedes less place a c := .inr ⟨hca, hac⟩
    have hdb : Precedes less place d b := .inl hdb
    exact between_inOrder hless hac (hac.trans hless hcd) (hcd.trans hless hdb) hdb (.inr hcd)
  · rename_i hca hdb
    have hca : Precedes less place c a := .inl hca
    have hbd : Precedes less place b d := .inr ⟨hdb, hbd⟩
    exact between_inOrder hless hca (hca.trans hless hab) (hab.trans hless hbd) hbd (.inr hab)
  · rename_i hca hdb
    have hca : Precedes less place c a := .inl hca
    have hdb : Precedes less place d b := .inl hdb
    exact between_inOrder hless hca hcd hab hdb (.inl had)

theorem four_inOrder {p q r s : α} (h : Standing place [p, q, r, s]) :
    InOrder less place (four less p q r s) := by
  obtain ⟨hpq, hrs, hbefore⟩ := standing_append.1 (show Standing place ([p, q] ++ [r, s]) from h)
  have hpq : place p < place q := (pairwise_cons.1 hpq).1 q mem_cons_self
  have hrs : place r < place s := (pairwise_cons.1 hrs).1 s mem_cons_self
  exact twoPairs_inOrder hless (two_inOrder (.inl hpq)) (two_inOrder (.inl hrs))
    (hbefore.perm (two_perm p q) (two_perm r s))

end Order

/-! ### Merging -/

/-- Merging by a comparison that decides a transitive relation between the items of two lists gives
a list in this relation, if both are. -/
theorem pairwise_merge_of {R : α → α → Prop} {le : α → α → Bool}
    (htrans : ∀ x y z, R x y → R y z → R x z) : ∀ {left right : List α},
    left.Pairwise R → right.Pairwise R →
    (∀ x ∈ left, ∀ y ∈ right, if le x y then R x y else R y x) → (left.merge right le).Pairwise R
  | [], _, _, hr, _ => by rwa [nil_merge]
  | _ :: _, [], hl, _, _ => by rwa [merge_right]
  | x :: left, y :: right, hl, hr, h => by
    obtain ⟨hx, hleft⟩ := pairwise_cons.1 hl
    obtain ⟨hy, hright⟩ := pairwise_cons.1 hr
    have hxy := h x mem_cons_self y mem_cons_self
    rw [cons_merge_cons]
    split
    · rename_i hle
      rw [if_pos hle] at hxy
      refine pairwise_cons.2 ⟨fun z hz => ?_, pairwise_merge_of htrans hleft hr
        fun x hx => h x (mem_cons_of_mem _ hx)⟩
      rcases mem_merge.1 hz with hz | hz
      · exact hx z hz
      · rcases mem_cons.1 hz with rfl | hz
        · exact hxy
        · exact htrans _ _ _ hxy (hy z hz)
    · rename_i hle
      rw [if_neg hle] at hxy
      refine pairwise_cons.2 ⟨fun z hz => ?_, pairwise_merge_of htrans hl hright
        fun x hx y hy => h x hx y (mem_cons_of_mem _ hy)⟩
      rcases mem_merge.1 hz with hz | hz
      · rcases mem_cons.1 hz with rfl | hz
        · exact hxy
        · exact htrans _ _ _ hxy (hx z hz)
      · exact hy z hz

section Merge

variable (hless : WeakOrder less) {left right : List α} (hl : InOrder less place left)
  (hr : InOrder less place right) (hbefore : StandBefore place left right)

include hless hl hr hbefore

theorem merge_front_inOrder : InOrder less place (left.merge right fun x y => !less y x) := by
  refine pairwise_merge_of (R := Precedes less place) (fun _ _ _ => Precedes.trans hless) hl hr
    fun x hx y hy => ?_
  split
  · rename_i hle
    exact .inr ⟨by simpa using hle, hbefore x hx y hy⟩
  · rename_i hle
    exact .inl (by simpa using hle)

/-- Merging from the back gives what merging from the front gives. -/
theorem merge_back_eq : (right.reverse.merge left.reverse fun y x => !less y x) =
    (left.merge right fun x y => !less y x).reverse := by
  have hback : (right.reverse.merge left.reverse fun y x => !less y x).Pairwise
      (flip (Precedes less place)) := by
    refine pairwise_merge_of (R := flip (Precedes less place))
      (fun _ _ _ hxy hyz => hyz.trans hless hxy) (pairwise_reverse.2 hr)
      (pairwise_reverse.2 hl) fun y hy x hx => ?_
    split
    · rename_i hle
      exact .inr ⟨by simpa using hle, hbefore x (mem_reverse.1 hx) y (mem_reverse.1 hy)⟩
    · rename_i hle
      exact .inl (by simpa using hle)
  exact reverse_eq_iff.1 (InOrder.eq_of_perm hless (pairwise_reverse.2 hback)
    (merge_front_inOrder hless hl hr hbefore)
    ((merge_back_perm _ left right).trans (merge_perm_append _).symm))

theorem merge_inOrder : InOrder less place (merge less left right) := by
  have hfront := merge_front_inOrder hless hl hr hbefore
  unfold merge
  split
  · exact hfront
  · rwa [merge_back_eq hless hl hr hbefore, reverse_reverse]

end Merge

/-! ### Merging from both ends -/

theorem three_parts (merged : List α) {n m : Nat} (h : n ≤ m) :
    merged = merged.take n ++ ((merged.drop n).take (m - n) ++ merged.drop m) := by
  have hdrop : merged.drop m = (merged.drop n).drop (m - n) := by
    rw [drop_drop]
    congr 1
    omega
  rw [hdrop, take_append_drop, take_append_drop]

/-- The items between two parts of a list are known if there is at most one of them. -/
theorem middle_eq {merged middle : List α} {n m : Nat} (h : n ≤ m) (hm : m ≤ n + 1)
    (hlength : middle.length = m - n)
    (hperm : merged.take n ++ middle ++ merged.drop m ~ merged) :
    merged.take n ++ middle ++ merged.drop m = merged := by
  have hparts := three_parts merged h
  rw [append_assoc] at hperm ⊢
  have hmiddle := hperm.trans (.of_eq hparts)
  rw [perm_append_left_iff, perm_append_right_iff] at hmiddle
  suffices middle = (merged.drop n).take (m - n) by rw [this, ← hparts]
  match middle, hlength with
  | [], _ => exact (nil_perm.1 hmiddle).symm
  | [x], _ => exact singleton_perm.1 hmiddle
  | _ :: _ :: _, hlength =>
    rw [length_cons, length_cons] at hlength
    omega

/-- What the ends of a merge take of the first list is all of it, but for what is between them. -/
theorem count_ends {left right merged : List α} {i j i' j' : Nat}
    (hdisjoint : ∀ x ∈ right, x ∉ left) (hlength : left.length ≤ right.length)
    (hi : i ≤ left.length) (hi' : i' ≤ left.length) (hwhole : merged ~ left ++ right)
    (hfront : merged.take left.length ~ left.take i ++ right.take j)
    (hback : merged.drop right.length ~ right.reverse.take j' ++ left.reverse.take i') :
    i + i' ≤ left.length ∧ left.length ≤ i + i' + (right.length - left.length) := by
  classical
  have hother : ∀ ys : List α, ys ⊆ right → ys.countP (· ∈ left) = 0 := fun ys hys =>
    countP_eq_zero.2 fun y hy hleft => hdisjoint y (hys hy) (of_decide_eq_true hleft)
  have hown : ∀ xs : List α, xs ⊆ left → xs.countP (· ∈ left) = xs.length := fun xs hxs =>
    countP_eq_length.2 fun x hx => decide_eq_true (hxs hx)
  have hfront : (merged.take left.length).countP (· ∈ left) = i := by
    rw [hfront.countP_eq, countP_append, hown _ (take_subset i left),
      hother _ (take_subset j right), length_take]
    omega
  have hback : (merged.drop right.length).countP (· ∈ left) = i' := by
    rw [hback.countP_eq, countP_append,
      hother _ fun y hy => mem_reverse.1 (mem_of_mem_take hy),
      hown _ fun x hx => mem_reverse.1 (mem_of_mem_take hx), length_take, length_reverse]
    omega
  have hmiddle : ((merged.drop left.length).take (right.length - left.length)).countP (· ∈ left) ≤
      right.length - left.length := Nat.le_trans countP_le_length (length_take_le _ _)
  have hall := hwhole.countP_eq (· ∈ left)
  rw [three_parts merged hlength, countP_append, countP_append, hfront, hback, countP_append,
    hown _ (Subset.refl _), hother _ (Subset.refl _)] at hall
  omega

/-- **The ends of a merge meet**, and give what merging from the front gives. -/
theorem mergeEnds_eq (hless : WeakOrder less) {left right : List α}
    (hl : InOrder less place left) (hr : InOrder less place right)
    (hbefore : StandBefore place left right) (hlength : left.length ≤ right.length)
    (hmore : right.length ≤ left.length + 1) :
    mergeEnds less left right = some (left.merge right fun x y => !less y x) := by
  obtain ⟨i, j, i', j', hn, hn', htaken, htaken', hfront, hback⟩ :=
    mergeEnds_parts less hlength
  have hwhole : (left.merge right fun x y => !less y x) ~ left ++ right := merge_perm_append _
  have hmerged : (left.merge right fun x y => !less y x).length = left.length + right.length :=
    length_merge _ _ _
  rw [merge_back_eq hless hl hr hbefore] at htaken' hback
  generalize (left.merge right fun x y => !less y x) = merged at *
  have hdrop : (merged.reverse.take left.length).reverse = merged.drop right.length := by
    rw [take_reverse, reverse_reverse, hmerged]
    congr 1
    omega
  have hdisjoint : ∀ x ∈ right, x ∉ left := fun x hx hleft =>
    Nat.lt_irrefl _ (hbefore x hleft x hx)
  have hback : merged.drop right.length ~ right.reverse.take j' ++ left.reverse.take i' := by
    rw [← hdrop]
    exact (reverse_perm _).trans hback
  have hcount := count_ends hdisjoint hlength (by omega) (by omega) hwhole hfront hback
  obtain ⟨middle, hmiddle, hends⟩ : ∃ middle : List α, middle.length = right.length - left.length ∧
      mergeEnds less left right =
        some (merged.take left.length ++ middle ++ merged.drop right.length) := by
    unfold mergeEnds
    simp only [htaken, htaken', length_drop, length_reverse, hdrop]
    generalize hk : (if left.length < left.length - i + (left.length - i') then
      right.length - left.length else 0) = k
    rw [if_pos (by split at hk <;> omega)]
    refine ⟨_, ?_, rfl⟩
    simp only [length_append, length_take, length_drop]
    split at hk <;> omega
  have hperm := (mergeEnds_perm hlength hmore hends).trans hwhole.symm
  rw [hends, middle_eq hlength hmore hmiddle hperm]

/-! ### Short lists -/

section Lists

variable (hless : WeakOrder less)

include hless

theorem sortHalf_inOrder (fours : Bool) {items : List α} (h : Standing place items) :
    InOrder less place (sortHalf less fours items) := by
  have hnone : InOrder less place (insertAll less [] items) :=
    insertAll_inOrder hless .nil h nofun
  unfold sortHalf
  split
  · rename_i p q r s rest
    split
    · obtain ⟨hfour, hrest, hbefore⟩ := standing_append.1
        (show Standing place ([p, q, r, s] ++ rest) from h)
      exact insertAll_inOrder hless (four_inOrder hless hfour) hrest
        (hbefore.perm (four_perm p q r s) (.refl rest))
    · exact hnone
  · exact hnone

/-- **Short lists are sorted.** -/
theorem sortShort_sorts : Sorts less place (sortShort less) := by
  intro items h
  unfold sortShort
  split
  · rename_i hshort
    refine ⟨items, rfl, ?_⟩
    match items, hshort with
    | [], _ => exact .nil
    | [x], _ => exact pairwise_singleton _ x
  · dsimp only
    rw [← take_append_drop (items.length / 2) items] at h
    obtain ⟨hfront, hback, hbefore⟩ := standing_append.1 h
    have hleft := sortHalf_inOrder hless (decide (8 ≤ items.length)) hfront
    have hright := sortHalf_inOrder hless (decide (8 ≤ items.length)) hback
    have hbefore := hbefore.perm (sortHalf_perm less (decide (8 ≤ items.length)) _)
      (sortHalf_perm less (decide (8 ≤ items.length)) _)
    refine ⟨_, mergeEnds_eq hless hleft hright hbefore ?_ ?_,
      merge_front_inOrder hless hleft hright hbefore⟩
    all_goals
      rw [(sortHalf_perm _ _ _).length_eq, (sortHalf_perm _ _ _).length_eq, length_take,
        length_drop]
      omega

end Lists

end RowQuery.Sort
