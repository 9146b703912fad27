/-
# Joins and set operations on corresponding rows

Which pairs of rows match is the same on both sides, since a condition holds
only where it is the boolean true. The rest of a join is about lists. Set
operations other than UNION ALL tell rows apart by their canonical texts, which
corresponding rows share only where the coupling says so.

Key theorems: `matchTable_coupled`, `joinRows_coupled`, `setOperation_rel`.
-/
import RowQuery.Proofs.Coupling.Expr

namespace RowQuery

open List

namespace Coupling

variable {R : Coupling} {f g : Frame} {sheltered : Bool}

/-! ### Pairs of rows -/

section Pairs

variable {rows rows' inner inner' outer outer' : List Record}

theorem matched_rel (flags : List Bool) (h : R.Rows inner inner') :
    R.Rows (MatchTable.matched flags inner) (MatchTable.matched flags inner') :=
  picked_rel (p := id) (q := id) h (forall₂_same.2 fun _ _ => rfl)

theorem unmatched_rel (table : MatchTable) (h : R.Rows inner inner') :
    R.Rows (table.unmatched inner) (table.unmatched inner') := by
  have hidx : Forall₂ (fun p q => R.Row p.1 q.1 ∧ p.2 = q.2) inner.zipIdx inner'.zipIdx := by
    rw [zipIdx_eq_zip_range', zipIdx_eq_zip_range', h.length_eq]
    exact zip_rel h (forall₂_same.2 fun _ _ => rfl)
  refine rel_map (fun _ _ h => h.1) (filter_rel (fun p q h => ?_) hidx)
  rw [h.2]

/-- How rows of two sides make one, alike. -/
def Pairing (R : Coupling) (pair : Record → Record → Record) : Prop :=
  ∀ ⦃o o' i i' : Record⦄, R.Row o o' → R.Row i i' → R.Row (pair o i) (pair o' i')

theorem pairing_merge : R.Pairing Record.merge := fun _ _ _ _ ho hi => ho.merge hi

theorem pairing_flipped : R.Pairing fun r l => l.merge r := fun _ _ _ _ ho hi => hi.merge ho

variable {pair : Record → Record → Record} (hpair : R.Pairing pair)

include hpair

theorem pairs_rel (table : MatchTable) (ho : R.Rows outer outer') (hi : R.Rows inner inner') :
    R.Rows (table.pairs pair outer inner) (table.pairs pair outer' inner') := by
  refine rel_flatMap (zip_rel (B := (· = ·)) ho (forall₂_same.2 fun _ _ => rfl)) ?_
  intro p q hpq
  dsimp only
  rw [hpq.2]
  exact rel_map (fun _ _ h => hpair hpq.1 h) (matched_rel q.2 hi)

theorem outerPairs_rel (table : MatchTable) {missing missing' : Record}
    (hm : R.Row missing missing') (ho : R.Rows outer outer') (hi : R.Rows inner inner') :
    R.Rows (table.outerPairs pair missing outer inner)
      (table.outerPairs pair missing' outer' inner') := by
  refine rel_flatMap (zip_rel (B := (· = ·)) ho (forall₂_same.2 fun _ _ => rfl)) ?_
  intro p q hpq
  dsimp only
  rw [hpq.2]
  have hfound := matched_rel q.2 hi
  generalize MatchTable.matched q.2 inner = found at hfound ⊢
  generalize MatchTable.matched q.2 inner' = found' at hfound ⊢
  cases hfound with
  | nil => exact .cons (hpair hpq.1 hm) .nil
  | cons h hs => exact rel_map (fun _ _ h => hpair hpq.1 h) (.cons h hs)

end Pairs

/-! ### Joins -/

section Joins

variable (laws : R.Lawful) {run run' : Runner} (hrun : R.Runs run run')

include laws hrun

theorem matchesOn_coupled (condition : Option Expr) (hf : R.Frames sheltered f g)
    (ha : R.AdmitsAll (optionFeatures sheltered condition)) {r r' : Record} (hr : R.Row r r') :
    R.Coupled f g (· = ·) (matchesOn run condition r) (matchesOn run' condition r') := by
  cases condition with
  | none => exact .pure rfl
  | some e =>
    refine (evaluate_coupled laws hrun e hf ha hr).bind fun a b hab => ?_
    have htrue := (laws.alike hab).boolean true
    by_cases ha : a = .boolean true
    · rw [ha, htrue.1 ha]
      exact .pure rfl
    · split
      · exact absurd rfl ha
      · split
        · exact absurd (htrue.2 rfl) ha
        · exact .pure rfl

/-- **Which pairs match is the same on both sides.** -/
theorem matchTable_coupled (condition : Option Expr) (hf : R.Frames sheltered f g)
    (ha : R.AdmitsAll (optionFeatures sheltered condition)) {pair : Record → Record → Record}
    (hpair : R.Pairing pair) {outer outer' inner inner' : List Record} (ho : R.Rows outer outer')
    (hi : R.Rows inner inner') :
    R.Coupled f g (· = ·) (matchTable run condition pair outer inner)
      (matchTable run' condition pair outer' inner') := by
  have hflags : ∀ o o', R.Row o o' → R.Coupled f g (· = ·)
      (inner.mapM fun i => matchesOn run condition (pair o i))
      (inner'.mapM fun i => matchesOn run' condition (pair o' i)) := by
    intro o o' ho
    exact (Coupled.mapM hi fun i i' hi => matchesOn_coupled laws hrun condition hf ha
      (hpair ho hi)).mono fun _ _ h => forall₂_eq h
  exact (Coupled.mapM ho hflags).mono fun _ _ h => forall₂_eq h

/-- **A join makes corresponding rows.** -/
theorem joinRows_coupled (kind : JoinKind) (condition : Option Expr) (hf : R.Frames sheltered f g)
    (ha : R.AdmitsAll (optionFeatures sheltered condition)) {left left' right right' : List Record}
    (hl : R.Rows left left') (hr : R.Rows right right') :
    R.Coupled f g R.Rows (joinRows run kind condition left right)
      (joinRows run' kind condition left' right') := by
  have htable := matchTable_coupled laws hrun condition hf ha pairing_merge hl hr
  cases kind with
  | cross =>
    refine .pure (rel_flatMap hl ?_)
    intro l l' hl
    exact rel_map (fun _ _ h => hl.merge h) hr
  | inner =>
    refine htable.bind fun table _ h => .pure ?_
    subst h
    exact pairs_rel pairing_merge table hl hr
  | left =>
    refine htable.bind fun table _ h => .pure ?_
    subst h
    exact outerPairs_rel pairing_merge table (Rows.nullRow laws hr) hl hr
  | full =>
    refine htable.bind fun table _ h => .pure ?_
    subst h
    refine rel_append (outerPairs_rel pairing_merge table (Rows.nullRow laws hr) hl hr) ?_
    exact rel_map (fun _ _ h => (Rows.nullRow laws hl).merge h) (unmatched_rel table hr)
  | right =>
    refine (matchTable_coupled laws hrun condition hf ha pairing_flipped hr hl).bind
      fun table _ h => .pure ?_
    subst h
    exact outerPairs_rel pairing_flipped table (Rows.nullRow laws hl) hr hl

end Joins

/-! ### Set operations -/

theorem setOperation_rel (laws : R.Lawful) {op : SetOperator} (hop : op = .unionAll ∨ R.identity)
    {left left' right right' : List Record} (hl : R.Rows left left') (hr : R.Rows right right') :
    R.Rows (op.apply left right) (op.apply left' right') := by
  rcases hop with rfl | hid
  · exact rel_append hl hr
  · have hkey : ∀ a b, R.Row a b → a.canonical = b.canonical := fun _ _ h => laws.canonical hid h
    have hkeys : right.map Record.canonical = right'.map Record.canonical := map_eq_of_rel hkey hr
    cases op with
    | unionAll => exact rel_append hl hr
    | union => exact distinctBy_rel hkey (rel_append hl hr)
    | intersect | except =>
      refine filter_rel (fun a b h => ?_) hl
      rw [hkeys, hkey a b h]

end Coupling

end RowQuery
