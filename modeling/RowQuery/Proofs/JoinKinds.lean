/-
# What kinds of joins have in common

On one source a condition has one value on every pair of rows, whatever was loaded
between the pairs. So all kinds of joins go by one relation between the rows of the
two sides, though each goes through the pairs in its own way, and what their rows have
to do with each other can be said of lists.

Left and right joins fill in a row for each row of their outer side that matches none.
A full join fills in for both sides, the rows of the left side at their places and those
of the right side at the end.

Key definitions: `MatchTable.ofRelation`, `matchedRows`, `filledRows`, `freeRows`.
Key theorems: `filledRows_perm`, `matchedRows_flip_perm`, `matchTable_yields`,
`joinRows_yields`, `join_kinds_share_matches`.
-/
import RowQuery.Proofs.Coupling.Again
import Mathlib.Data.List.Flatten
import Mathlib.Data.List.Perm.Basic

namespace RowQuery

open List

/-! ### Rows of a relation -/

section Rows

variable (holds : Record → Record → Bool) (pair : Record → Record → Record) (missing : Record)
  (outer inner : List Record)

/-- The rows of the pairs that match, one outer row after the other. -/
def matchedRows : List Record := outer.flatMap fun o => (inner.filter (holds o)).map (pair o)

/-- The same, with one row for each outer row that matches none. -/
def filledRows : List Record :=
  outer.flatMap fun o =>
    if inner.any (holds o) then (inner.filter (holds o)).map (pair o) else [pair o missing]

/-- The inner rows that no outer row matches. -/
def freeRows : List Record := inner.filter fun i => !outer.any (holds · i)

variable {holds pair missing outer inner}

theorem map_filter_eq_flatMap (p : Record → Bool) (f : Record → Record) (rows : List Record) :
    (rows.filter p).map f = rows.flatMap fun row => if p row then [f row] else [] := by
  induction rows with
  | nil => rfl
  | cons row rows ih => rw [flatMap_cons, ← ih, filter_cons]; split <;> simp_all

theorem matchedRows_sublist_filledRows :
    matchedRows holds pair outer inner <+ filledRows holds pair missing outer inner := by
  refine Sublist.flatMap_right outer fun o _ => ?_
  split
  · exact Sublist.refl _
  · rename_i hnone
    have hnil : inner.filter (holds o) = [] := by
      refine filter_eq_nil_iff.2 fun i hi hholds => hnone ?_
      exact any_eq_true.2 ⟨i, hi, hholds⟩
    rw [hnil]
    exact nil_sublist _

theorem length_le_filledRows :
    outer.length ≤ (filledRows holds pair missing outer inner).length := by
  induction outer with
  | nil => exact Nat.zero_le _
  | cons o outer ih =>
    have hpos : 0 < (if inner.any (holds o) then (inner.filter (holds o)).map (pair o)
        else [pair o missing]).length := by
      split
      · rename_i hany
        obtain ⟨i, hi, hholds⟩ := any_eq_true.1 hany
        rw [length_map]
        exact length_pos_of_mem (mem_filter.2 ⟨hi, hholds⟩)
      · exact Nat.one_pos
    unfold filledRows at ih ⊢
    rw [flatMap_cons, length_append, length_cons]
    omega

/-- **Filling in adds a row for each outer row that matches none**, and no other. -/
theorem filledRows_perm : filledRows holds pair missing outer inner ~
    matchedRows holds pair outer inner ++
      (freeRows (fun i o => holds o i) inner outer).map (pair · missing) := by
  have hsplit : filledRows holds pair missing outer inner = outer.flatMap fun o =>
      (inner.filter (holds o)).map (pair o) ++
        if !inner.any (holds o) then [pair o missing] else [] := by
    unfold filledRows
    congr 1
    funext o
    by_cases hany : inner.any (holds o)
    · simp [hany]
    · have hnil : inner.filter (holds o) = [] := by simpa using hany
      simp [hany, hnil]
  have hfree : (freeRows (fun i o => holds o i) inner outer).map (pair · missing) =
      outer.flatMap fun o => if !inner.any (holds o) then [pair o missing] else [] :=
    map_filter_eq_flatMap _ _ outer
  rw [hsplit, hfree]
  exact (flatMap_append_perm _ _ _).symm

/-- **The matching pairs are the same from either side**, up to order. -/
theorem matchedRows_flip_perm :
    matchedRows (fun i o => holds o i) (fun i o => pair o i) inner outer ~
      matchedRows holds pair outer inner := by
  unfold matchedRows
  simp only [map_filter_eq_flatMap]
  induction outer with
  | nil => simp
  | cons o outer ih =>
    simp only [flatMap_cons]
    exact (flatMap_append_perm _ _ _).symm.trans (ih.append_left _)

end Rows

/-! ### Tables of a relation -/

namespace MatchTable

/-- The table of a relation between outer and inner rows. -/
def ofRelation (holds : Record → Record → Bool) (outer inner : List Record) : MatchTable :=
  outer.map fun o => inner.map (holds o)

variable {holds : Record → Record → Bool} {pair : Record → Record → Record} {missing : Record}
  {outer inner : List Record}

theorem matched_map (p : Record → Bool) (rows : List Record) :
    matched (rows.map p) rows = rows.filter p := by
  unfold matched
  induction rows with
  | nil => rfl
  | cons row rows ih => rw [map_cons, zip_cons_cons, filter_cons, filter_cons]; split <;> simp_all

theorem zip_ofRelation :
    outer.zip (ofRelation holds outer inner) = outer.map fun o => (o, inner.map (holds o)) := by
  unfold ofRelation
  induction outer with
  | nil => rfl
  | cons o outer ih => rw [map_cons, zip_cons_cons, map_cons, ih]

theorem pairs_ofRelation : (ofRelation holds outer inner).pairs pair outer inner =
    matchedRows holds pair outer inner := by
  unfold pairs matchedRows
  rw [zip_ofRelation, flatMap_map]
  simp only [matched_map]

theorem outerPairs_ofRelation : (ofRelation holds outer inner).outerPairs pair missing outer inner =
    filledRows holds pair missing outer inner := by
  unfold outerPairs filledRows
  rw [zip_ofRelation, flatMap_map]
  simp only [matched_map]
  congr 1
  funext o
  split
  · rename_i hnil
    rw [if_neg]
    simpa using hnil
  · rename_i hne
    rw [if_pos]
    by_contra hany
    exact hne (by simpa using hany)

theorem unmatched_ofRelation :
    (ofRelation holds outer inner).unmatched inner = freeRows holds outer inner := by
  have hfree : ∀ p ∈ inner.zipIdx, ((ofRelation holds outer inner).all fun flags =>
      !flags.getD p.2 false) = !outer.any (holds · p.1) := by
    rintro ⟨i, n⟩ hp
    have hi : inner[n]? = some i := mem_zipIdx_iff_getElem?.1 hp
    have hflag : ∀ o, (inner.map (holds o)).getD n false = holds o i := fun o => by
      rw [getD_eq_getElem?_getD, getElem?_map, hi]
      rfl
    unfold ofRelation
    rw [all_map, not_any_eq_all_not]
    congr 1
    funext o
    exact congrArg not (hflag o)
  have hrows : freeRows holds outer inner =
      (inner.zipIdx.filter fun p => !outer.any (holds · p.1)).map Prod.fst := by
    unfold freeRows
    conv_lhs => rw [← zipIdx_map_fst 0 inner, filter_map]
    rfl
  unfold unmatched
  dsimp only
  rw [hrows, filter_congr hfree]

end MatchTable

/-! ### Joins on a source -/

/-- The rows of a kind of join, for a relation between the rows of the two sides. -/
def JoinKind.rowsOf (holds : Record → Record → Bool) (left right : List Record) :
    JoinKind → List Record
  | .cross => left.flatMap fun l => right.map l.merge
  | .inner => matchedRows holds Record.merge left right
  | .left => filledRows holds Record.merge (nullRow right) left right
  | .full => filledRows holds Record.merge (nullRow right) left right ++
      (freeRows holds left right).map (nullRow left).merge
  | .right =>
    filledRows (fun r l => holds l r) (fun r l => l.merge r) (nullRow left) right left

section Joins

open Exec (Steady Yields)

variable {source : Source} {run : Runner} {f : Frame} {condition : Option Expr}

open Classical in
/-- A condition that has a value holds where this is the boolean true. -/
theorem matchesOn_yields {row : Record}
    (h : ∀ e ∈ condition, ∃ v, Yields source f (e.evaluate run row) v) :
    Yields source f (matchesOn run condition row)
      (decide (∀ e ∈ condition, Yields source f (e.evaluate run row) (.boolean true))) := by
  cases condition with
  | none =>
    rw [decide_eq_true nofun]
    exact .pure true
  | some e =>
    obtain ⟨v, hv⟩ := h e rfl
    have hiff : (∀ e' ∈ some e, Yields source f (e'.evaluate run row) (.boolean true)) ↔
        v = .boolean true := by
      constructor
      · exact fun htrue => hv.unique (htrue e rfl)
      · rintro rfl e' he'
        obtain rfl := Option.some.inj he'
        exact hv
    refine hv.bind ?_
    split
    · rw [decide_eq_true (hiff.2 rfl)]
      exact .pure true
    · rename_i hne
      rw [decide_eq_false fun hall => hne (hiff.1 hall)]
      exact .pure false

/-- **The table of matches is that of the relation**, whatever the pairs change that come before. -/
theorem matchTable_yields {holds : Record → Record → Bool} {pair : Record → Record → Record}
    {outer inner : List Record} (h : ∀ o ∈ outer, ∀ i ∈ inner,
      Yields source f (matchesOn run condition (pair o i)) (holds o i)) :
    Yields source f (matchTable run condition pair outer inner)
      (MatchTable.ofRelation holds outer inner) :=
  .mapM_map fun o ho => .mapM_map fun i hi => h o ho i hi

/-- **Every kind of join has the rows of the relation.** -/
theorem joinRows_yields {holds : Record → Record → Bool} {left right : List Record}
    (h : ∀ l ∈ left, ∀ r ∈ right,
      Yields source f (matchesOn run condition (l.merge r)) (holds l r)) (kind : JoinKind) :
    Yields source f (joinRows run kind condition left right) (kind.rowsOf holds left right) := by
  have htable := matchTable_yields h
  cases kind with
  | cross => exact .pure _
  | inner =>
    refine htable.bind ?_
    rw [MatchTable.pairs_ofRelation]
    exact .pure _
  | left =>
    refine htable.bind ?_
    rw [MatchTable.outerPairs_ofRelation]
    exact .pure _
  | full =>
    refine htable.bind ?_
    rw [MatchTable.outerPairs_ofRelation, MatchTable.unmatched_ofRelation]
    exact .pure _
  | right =>
    have hflipped : Yields source f (matchTable run condition (fun r l => l.merge r) right left)
        (MatchTable.ofRelation (fun r l => holds l r) right left) :=
      matchTable_yields fun r hr l hl => h l hl r hr
    refine hflipped.bind ?_
    rw [MatchTable.outerPairs_ofRelation]
    exact .pure _

end Joins

/-- A right join has the rows of an inner join and those filled in for the right side. -/
theorem JoinKind.right_perm (holds : Record → Record → Bool) (left right : List Record) :
    JoinKind.right.rowsOf holds left right ~ JoinKind.inner.rowsOf holds left right ++
      (freeRows holds left right).map (nullRow left).merge :=
  filledRows_perm.trans (matchedRows_flip_perm.append_right _)

/-- **The kinds of joins go by one relation.** On one source, if a condition has a value on every
pair of rows, there is a relation that holds where this is the boolean true. An inner join has the
rows of the pairs for which it holds, row by row of the left side; a left join has these with one
more, filled up with null, at the place of each left row that matches none; a full join has these
followed by one for each right row that matches none; a right join has, in some order, the rows of
the inner join and the same rows for the right side. A cross join has a row for every pair. -/
theorem join_kinds_share_matches (source : Source) (options : Options) (depth : Nat)
    (condition : Option Expr) (left right : List Record) {s : Session}
    (hs : s.ledger.Faithful source)
    (hon : ∀ e ∈ condition, ∀ l ∈ left, ∀ r ∈ right, ∃ v,
      ((e.evaluate ((Engine.executor ⟨source, options⟩).executeTo depth) (l.merge r)).run.run s).1 =
        .ok v) :
    let run := (Engine.executor ⟨source, options⟩).executeTo depth
    let join (kind : JoinKind) := joinRows run kind condition left right
    ∃ (holds : Record → Record → Bool) (inner outerLeft outerRight full cross : List Record),
      (∀ l ∈ left, ∀ r ∈ right, holds l r = true ↔ ∀ e ∈ condition,
        Exec.Yields source s.frame (e.evaluate run (l.merge r)) (.boolean true)) ∧
      Exec.Yields source s.frame (join .inner) inner ∧
      Exec.Yields source s.frame (join .left) outerLeft ∧
      Exec.Yields source s.frame (join .right) outerRight ∧
      Exec.Yields source s.frame (join .full) full ∧
      Exec.Yields source s.frame (join .cross) cross ∧
      (inner = left.flatMap fun l => (right.filter (holds l)).map l.merge) ∧
      inner <+ outerLeft ∧
      (outerLeft = left.flatMap fun l =>
        if right.any (holds l) then (right.filter (holds l)).map l.merge
        else [l.merge (nullRow right)]) ∧
      full = outerLeft ++
        (right.filter fun r => !left.any (holds · r)).map (nullRow left).merge ∧
      outerRight ~ inner ++
        (right.filter fun r => !left.any (holds · r)).map (nullRow left).merge ∧
      full.length + inner.length = outerLeft.length + outerRight.length ∧
      left.length ≤ outerLeft.length ∧ right.length ≤ outerRight.length ∧
      cross.length = left.length * right.length := by
  classical
  intro run join
  have hrun : (Coupling.again source).Runs run run := Coupling.again_runs source options depth
  let holds (l r : Record) : Bool := decide (∀ e ∈ condition,
    Exec.Yields source s.frame (e.evaluate run (l.merge r)) (.boolean true))
  have hmatches : ∀ l ∈ left, ∀ r ∈ right,
      Exec.Yields source s.frame (matchesOn run condition (l.merge r)) (holds l r) := by
    intro l hl r hr
    refine matchesOn_yields fun e he => ?_
    obtain ⟨v, hv⟩ := hon e he l hl r hr
    exact ⟨v, (Exec.Steady.evaluate hrun e _).yields rfl hs hv⟩
  have hjoin := joinRows_yields hmatches
  have hright := JoinKind.right_perm holds left right
  refine ⟨holds, _, _, _, _, _, fun l _ r _ => decide_eq_true_iff, hjoin .inner, hjoin .left,
    hjoin .right, hjoin .full, hjoin .cross, rfl, matchedRows_sublist_filledRows, rfl, rfl, hright,
    ?_, length_le_filledRows, length_le_filledRows, ?_⟩
  · rw [hright.length_eq]
    simp only [JoinKind.rowsOf, length_append]
    omega
  · simp [JoinKind.rowsOf, length_flatMap]

/-- Two rows on the left side, one of which has a match on the right side. -/
theorem join_kinds_share_matches_two :
    let source : Source := .memory []
    let left : List Record := [⟨[("a.n", .integer 1)]⟩, ⟨[("a.n", .integer 2)]⟩]
    let right : List Record := [⟨[("b.n", .integer 1)]⟩]
    let e : Expr := .binary (.identifier "a.n") .equal (.identifier "b.n")
    Session.start.ledger.Faithful source ∧
      (∀ e' ∈ some e, ∀ l ∈ left, ∀ r ∈ right, ∃ v,
        ((e'.evaluate ((Engine.executor ⟨source, {}⟩).executeTo 0) (l.merge r)).run.run .start).1 =
          .ok v) ∧
      ∃ rows, Exec.Yields source Session.start.frame
        (joinRows ((Engine.executor ⟨source, {}⟩).executeTo 0) .left (some e) left right) rows ∧
          left.length ≤ rows.length := by
  intro source left right e
  have hs : Session.start.ledger.Faithful source := Ledger.faithful_start source
  have hon : ∀ e' ∈ some e, ∀ l ∈ left, ∀ r ∈ right, ∃ v,
      ((e'.evaluate ((Engine.executor ⟨source, {}⟩).executeTo 0) (l.merge r)).run.run .start).1 =
        .ok v := by
    rintro e' ⟨⟩ l - r -
    exact ⟨_, rfl⟩
  obtain ⟨_, _, rows, _, _, _, -, -, hrows, -, -, -, -, -, -, -, -, -, hle, -⟩ :=
    join_kinds_share_matches source {} 0 (some e) left right hs hon
  exact ⟨hs, hon, rows, hrows, hle⟩

end RowQuery
