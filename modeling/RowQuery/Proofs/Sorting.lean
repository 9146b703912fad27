/-
# Sorting by keys

Sorting puts items in order and keeps the order of items that compare equal,
provided that the comparison is total and transitive. That of values is not
transitive on all of them, so it is asked of the keys at hand only: in each place
of the lists of keys there are values that the order is a preorder of. There is
no result only where there are more than 20 items and no such keys.

Key definitions: `sortBy`, `Comparable`, `Disordered`, `StablySorted`.
Key theorems: `compareKeys_swap`, `compareKeys_trans`, `exists_sortBy`,
`sortBy_isSome`, `disordered_of_sortBy`, `sorted_of_some`, `Query.order_run_ok`.
-/
import RowQuery.Evaluation.Select
import RowQuery.Proofs.Sort.Stable
import RowQuery.Proofs.Value.Preorder

namespace RowQuery

open List

/-! ### Lists of keys -/

theorem Direction.compare_swap (d : Direction) (a b : Value) :
    (d.compare a b).swap = d.compare b a := by
  cases d
  · exact a.compare_swap b
  · exact b.compare_swap a

theorem Direction.compare_trans (d : Direction) {S : Set Value} (h : Value.PreorderOn S)
    {a b c : Value} (ha : a ∈ S) (hb : b ∈ S) (hc : c ∈ S) (hab : (d.compare a b).isLE)
    (hbc : (d.compare b c).isLE) : (d.compare a c).isLE := by
  cases d
  · exact h.trans a ha b hb c hc hab hbc
  · exact h.trans c hc b hb a ha hbc hab

theorem compareKeys_swap : ∀ (directions : List Direction) (as bs : List Value),
    (compareKeys directions as bs).swap = compareKeys directions bs as
  | [], _, _ => rfl
  | _ :: _, [], [] => rfl
  | _ :: _, [], _ :: _ => rfl
  | _ :: _, _ :: _, [] => rfl
  | d :: directions, a :: as, b :: bs => by
    unfold compareKeys
    rw [Ordering.swap_then, d.compare_swap, compareKeys_swap directions as bs]

/-- A value is not less than one that it is not greater than. -/
theorem Direction.compare_ne_lt (d : Direction) {a b : Value} (h : (d.compare b a).isLE) :
    d.compare a b ≠ .lt := by
  intro hlt
  rw [← d.compare_swap a b, hlt] at h
  cases h

/-- The values of each place are in the set of this place. -/
def KeysIn (S : Nat → Set Value) (keys : List Value) : Prop :=
  ∀ (i : Nat) (v : Value), keys[i]? = some v → v ∈ S i

theorem keysIn_cons {S : Nat → Set Value} {v : Value} {keys : List Value} :
    KeysIn S (v :: keys) ↔ v ∈ S 0 ∧ KeysIn (fun i => S (i + 1)) keys := by
  constructor
  · exact fun h => ⟨h 0 v rfl, fun i w hw => h (i + 1) w hw⟩
  · rintro ⟨hv, hkeys⟩ (_ | i) w hw
    · obtain rfl := Option.some.inj hw
      exact hv
    · exact hkeys i w hw

/-- **Keys of one length are ordered transitively**, if the values of each place are. -/
theorem compareKeys_trans : ∀ (directions : List Direction) {S : Nat → Set Value}
    {as bs cs : List Value}, (∀ i, Value.PreorderOn (S i)) →
    as.length = bs.length → bs.length = cs.length → KeysIn S as → KeysIn S bs → KeysIn S cs →
    (compareKeys directions as bs).isLE → (compareKeys directions bs cs).isLE →
    (compareKeys directions as cs).isLE
  | [], _, _, _, _, _, _, _, _, _, _, _, _ => rfl
  | _ :: _, _, [], [], [], _, _, _, _, _, _, _, _ => rfl
  | d :: directions, S, a :: as, b :: bs, c :: cs, h, hlen, hlen', has, hbs, hcs, hab, hbc => by
    obtain ⟨ha, has⟩ := keysIn_cons.1 has
    obtain ⟨hb, hbs⟩ := keysIn_cons.1 hbs
    obtain ⟨hc, hcs⟩ := keysIn_cons.1 hcs
    unfold compareKeys at hab hbc ⊢
    rw [Ordering.isLE_then_iff_and] at hab hbc ⊢
    have hac : (d.compare a c).isLE := d.compare_trans (h 0) ha hb hc hab.1 hbc.1
    refine ⟨hac, ?_⟩
    rcases Ordering.isLE_iff_eq_lt_or_eq_eq.1 hac with hlt | heq
    · exact .inl hlt
    · -- all three are equal, so it is the rest that decides
      have hca : (d.compare c a).isLE := by
        rw [← d.compare_swap a c, heq]
        rfl
      have hba : (d.compare b a).isLE := d.compare_trans (h 0) hb hc ha hbc.1 hca
      have hcb : (d.compare c b).isLE := d.compare_trans (h 0) hc ha hb hca hab.1
      have hrest := hab.2.resolve_left (d.compare_ne_lt hba)
      have hrest' := hbc.2.resolve_left (d.compare_ne_lt hcb)
      exact .inr (compareKeys_trans directions (fun i => h (i + 1)) (Nat.succ.inj hlen)
        (Nat.succ.inj hlen') has hbs hcs hrest hrest')

/-! ### Stable sorting -/

section Stable

variable {α : Type} {key : α → List Value} {directions : List Direction} {items : List α}

/-- Items with keys of one length, in each place of which the order of values is a preorder. -/
structure Comparable (key : α → List Value) (items : List α) : Prop where
  length : ∀ a ∈ items, ∀ b ∈ items, (key a).length = (key b).length
  preorder : ∀ i : Nat, Value.PreorderOn {v | ∃ a ∈ items, (key a)[i]? = some v}

/-- Lists of one length, more than 20, in some place of which there are values that the order of
values is not a preorder of. -/
structure Disordered (keys : List (List Value)) : Prop where
  many : 20 < keys.length
  length : ∀ as ∈ keys, ∀ bs ∈ keys, as.length = bs.length
  unordered : ∃ i : Nat, ¬ Value.PreorderOn {v | ∃ as ∈ keys, as[i]? = some v}

/-- A list of the same items in order of their keys, in which items of equal keys are in the order
that they had. -/
structure StablySorted (directions : List Direction) (key : α → List Value)
    (items sorted : List α) : Prop where
  perm : sorted ~ items
  ordered : sorted.Pairwise fun a b => (compareKeys directions (key a) (key b)).isLE
  stable : ∀ a ∈ items,
    sorted.filter (fun b => compareKeys directions (key a) (key b) = .eq) =
      items.filter fun b => compareKeys directions (key a) (key b) = .eq

/-- Items sorted by keys of theirs. -/
def sortBy (size : Nat) (directions : List Direction) (key : α → List Value) (items : List α) :
    Option (List α) :=
  Sort.sort (fun a b => compareKeys directions (key a) (key b) == .lt) size items

theorem not_less_iff {as bs : List Value} :
    (compareKeys directions bs as == .lt) = false ↔ (compareKeys directions as bs).isLE := by
  rw [← compareKeys_swap directions as bs]
  cases compareKeys directions as bs <;> decide

theorem Comparable.ordersItems (h : Comparable key items) : Sort.OrdersItems
    (fun a b => compareKeys directions (key a) (key b) == .lt) items := by
  have hin : ∀ a ∈ items,
      KeysIn (fun i : Nat => {v | ∃ a ∈ items, (key a)[i]? = some v}) (key a) :=
    fun a ha i v hv => ⟨a, ha, hv⟩
  constructor
  · intro a _ b _ hab
    rw [not_less_iff, eq_of_beq hab]
    rfl
  · intro a ha b hb c hc hab hbc
    rw [not_less_iff] at hab hbc ⊢
    exact compareKeys_trans directions h.preorder (h.length a ha b hb) (h.length b hb c hc)
      (hin a ha) (hin b hb) (hin c hc) hab hbc

variable (size : Nat)

/-- **Sorting by keys is stable**, and always has a result if the keys are comparable. -/
theorem exists_sortBy (h : Comparable key items) : ∃ sorted,
    sortBy size directions key items = some sorted ∧
      StablySorted directions key items sorted := by
  have horders : Sort.OrdersItems (fun a b => compareKeys directions (key a) (key b) == .lt)
    items := h.ordersItems
  obtain ⟨sorted, hsorted, hstable⟩ := Sort.exists_sort size horders
  refine ⟨sorted, hsorted, hstable.perm, hstable.ordered.imp not_less_iff.1, fun a ha =>
    hstable.stable _ fun b hb c hc hab hac => ?_⟩
  have hcb : (compareKeys directions (key c) (key a)).isLE := by
    rw [← compareKeys_swap, of_decide_eq_true hac]
    rfl
  have hab : (compareKeys directions (key a) (key b)).isLE := by
    rw [of_decide_eq_true hab]
    rfl
  exact horders.trans c hc a ha b hb (not_less_iff.2 hcb) (not_less_iff.2 hab)

variable {size} {sorted : List α}

theorem sortBy_perm (h : sortBy size directions key items = some sorted) : sorted ~ items :=
  Sort.sort_perm h

/-- Without keys items stay in their order. -/
theorem sortBy_nil (size : Nat) (key : α → List Value) (items : List α) :
    sortBy size [] key items = some items := by
  have horders : Sort.OrdersItems (fun a b => compareKeys [] (key a) (key b) == .lt) items :=
    ⟨fun _ _ _ _ _ => rfl, fun _ _ _ _ _ _ _ _ => rfl⟩
  obtain ⟨sorted, hsorted, hstable⟩ := Sort.exists_sort size horders
  have hfilter := hstable.stable (fun _ => true) fun _ _ _ _ _ _ => rfl
  rw [filter_true, filter_true] at hfilter
  rw [sortBy, hsorted, hfilter]

/-- **Sorting has a result** if there are no keys or few items, or if the keys are comparable. -/
theorem sortBy_isSome (size : Nat)
    (h : directions = [] ∨ items.length ≤ 20 ∨ Comparable key items) :
    (sortBy size directions key items).isSome = true := by
  rcases h with rfl | hfew | hcomparable
  · rw [sortBy_nil]
    rfl
  · rw [sortBy, Sort.sort_of_length_le size hfew]
    rfl
  · obtain ⟨sorted, hsorted, -⟩ := exists_sortBy size hcomparable
    rw [hsorted]
    rfl

/-- The order of values does not order these three, but they are few. Each is compared with the one
before it, and none is less. -/
example : sortBy 48 [.ascending] (fun v => [v]) [.integer 10, .string "1a", .integer 9] =
    some [.integer 10, .string "1a", .integer 9] := by rfl

/-- **Sorting breaks off only at disordered keys**, if the keys have one length. -/
theorem disordered_of_sortBy (h : sortBy size directions key items = none)
    (hlength : ∀ a ∈ items, ∀ b ∈ items, (key a).length = (key b).length) :
    Disordered (items.map key) := by
  have hnone : ¬ (sortBy size directions key items).isSome = true := by
    rw [h]
    exact Bool.false_ne_true
  refine ⟨?_, by simpa using hlength, ?_⟩
  · rw [length_map]
    exact not_le.1 fun hfew => hnone (sortBy_isSome size (.inr (.inl hfew)))
  · by_contra hordered
    have hpreorder : ∀ i : Nat, Value.PreorderOn {v | ∃ a ∈ items, (key a)[i]? = some v} := by
      simpa using hordered
    exact hnone (sortBy_isSome size (.inr (.inr ⟨hlength, hpreorder⟩)))

end Stable

/-! ### Items sorted along with their keys -/

section Paired

variable {α β : Type} {size : Nat} {directions : List Direction} {item : β → α}
  {key : β → List Value} {xs : List β}

theorem sortByKeys_map : sortByKeys size directions (xs.map fun x => (item x, key x)) =
    (sortBy size directions key xs).map (map fun x => (item x, key x)) :=
  Sort.sort_map size xs

theorem sorted_of_some {sorted : List β} (h : sortBy size directions key xs = some sorted) :
    Exec.sorted size directions (xs.map fun x => (item x, key x)) = pure (sorted.map item) := by
  unfold Exec.sorted
  rw [sortByKeys_map, h]
  exact congrArg pure map_map

theorem sorted_of_none (h : sortBy size directions key xs = none) :
    Exec.sorted size directions (xs.map fun x => (item x, key x)) =
      throw (.disorder (xs.map key)) := by
  unfold Exec.sorted
  rw [sortByKeys_map, h, map_map]
  rfl

end Paired

/-! ### The order of a query -/

namespace Query

variable {q : Query} {results sorted : List Projected}

/-- The results of a query in the order that is asked. -/
def sorted? (q : Query) (results : List Projected) : Option (List Projected) :=
  sortBy Projected.size (q.orderBy.map SortKey.direction) Projected.keys results

theorem order_of_some (h : q.sorted? results = some sorted) :
    q.order results = pure (sorted.map Projected.record) :=
  sorted_of_some h

theorem order_of_none (h : q.sorted? results = none) :
    q.order results = throw (.disorder (results.map Projected.keys)) :=
  sorted_of_none h

/-- Without ORDER BY the results are in the order in which they were found. -/
theorem order_of_nil (h : q.orderBy = []) (results : List Projected) :
    q.order results = pure (results.map Projected.record) := by
  refine order_of_some ?_
  unfold sorted?
  rw [h]
  exact sortBy_nil _ _ results

/-- A query that has its results in order has sorted them. -/
theorem order_run_ok {out : List Record} {s s' : Session}
    (h : (q.order results).run.run s = (.ok out, s')) :
    ∃ sorted, q.sorted? results = some sorted ∧ sorted.map Projected.record = out ∧ s = s' := by
  cases hsorted : q.sorted? results with
  | none =>
    rw [order_of_none hsorted] at h
    cases h
  | some sorted =>
    rw [order_of_some hsorted] at h
    obtain ⟨hout, hs⟩ := Prod.mk.inj h
    exact ⟨sorted, rfl, Except.ok.inj hout, hs⟩

end Query

end RowQuery
