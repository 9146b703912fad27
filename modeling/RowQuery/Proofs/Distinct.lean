/-
# One item for each key

`distinctBy` goes through items with the keys that it has seen, and leaves out
an item whose key is among them. What it keeps is told by places: an item stays
if no item before it has its key.

Key theorems: `distinctFrom_append`, `distinctBy_eq_filter_zipIdx`, `distinctBy_sublist`,
`distinctBy_distinctBy`, `nodup_map_distinctBy`, `distinctBy_append_self`, `map_distinctBy`.
-/
import RowQuery.Grouping
import Mathlib.Data.List.Basic

namespace RowQuery

open List

variable {α β : Type} (key : α → String)

/-! ### Keys seen before -/

section Seen

variable {a : α} {rest : List α} {seen : List String}

theorem distinctFrom_cons_of_mem (h : key a ∈ seen) :
    distinctFrom key seen (a :: rest) = distinctFrom key seen rest := by
  rw [distinctFrom, if_pos (contains_iff_mem.2 h)]

theorem distinctFrom_cons_of_not_mem (h : key a ∉ seen) :
    distinctFrom key seen (a :: rest) = a :: distinctFrom key (key a :: seen) rest := by
  rw [distinctFrom, if_neg (mt contains_iff_mem.1 h)]

end Seen

/-- Only which keys were seen counts, not in which order. -/
theorem distinctFrom_congr : ∀ (items : List α) {seen seen' : List String},
    (∀ k, k ∈ seen ↔ k ∈ seen') → distinctFrom key seen items = distinctFrom key seen' items
  | [], _, _, _ => rfl
  | a :: rest, seen, seen', h => by
    by_cases ha : key a ∈ seen
    · rw [distinctFrom_cons_of_mem key ha, distinctFrom_cons_of_mem key ((h _).1 ha),
        distinctFrom_congr rest h]
    · have hcons : ∀ k, k ∈ key a :: seen ↔ k ∈ key a :: seen' := fun k => by
        rw [mem_cons, mem_cons, h]
      rw [distinctFrom_cons_of_not_mem key ha, distinctFrom_cons_of_not_mem key (mt (h _).2 ha),
        distinctFrom_congr rest hcons]

/-- A key that is seen again makes no difference. -/
theorem distinctFrom_cons_seen {k : String} {seen : List String} (h : k ∈ seen) (items : List α) :
    distinctFrom key (k :: seen) items = distinctFrom key seen items := by
  refine distinctFrom_congr key items fun k' => ?_
  rw [mem_cons]
  exact ⟨fun hk => hk.elim (fun heq => heq ▸ h) id, .inr⟩

/-- Items behind others: the keys of those before are seen too. -/
theorem distinctFrom_append : ∀ (xs ys : List α) (seen : List String),
    distinctFrom key seen (xs ++ ys) =
      distinctFrom key seen xs ++ distinctFrom key (xs.map key ++ seen) ys
  | [], _, _ => rfl
  | x :: xs, ys, seen => by
    rw [cons_append, map_cons, cons_append]
    by_cases h : key x ∈ seen
    · rw [distinctFrom_cons_of_mem key h, distinctFrom_cons_of_mem key h, distinctFrom_append xs ys,
        distinctFrom_cons_seen key (mem_append_right _ h)]
    · have hseen : distinctFrom key (xs.map key ++ key x :: seen) ys =
          distinctFrom key (key x :: (xs.map key ++ seen)) ys :=
        distinctFrom_congr key ys fun _ => perm_middle.mem_iff
      rw [distinctFrom_cons_of_not_mem key h, distinctFrom_cons_of_not_mem key h,
        distinctFrom_append xs ys, hseen, cons_append]

/-- Nothing stays if all keys were seen. -/
theorem distinctFrom_eq_nil : ∀ {items : List α} {seen : List String},
    (∀ a ∈ items, key a ∈ seen) → distinctFrom key seen items = []
  | [], _, _ => rfl
  | a :: rest, seen, h => by
    rw [distinctFrom_cons_of_mem key (h a mem_cons_self)]
    exact distinctFrom_eq_nil fun b hb => h b (mem_cons_of_mem _ hb)

/-! ### What stays -/

theorem distinctFrom_sublist : ∀ (items : List α) (seen : List String),
    (distinctFrom key seen items).Sublist items
  | [], _ => .slnil
  | a :: rest, seen => by
    by_cases h : key a ∈ seen
    · rw [distinctFrom_cons_of_mem key h]
      exact (distinctFrom_sublist rest seen).cons a
    · rw [distinctFrom_cons_of_not_mem key h]
      exact (distinctFrom_sublist rest _).cons_cons a

/-- The items that stay are in order. -/
theorem distinctBy_sublist (items : List α) : (distinctBy key items).Sublist items :=
  distinctFrom_sublist key items []

/-- The form for a run in the middle of a list: the keys that were seen are those of the items
before. -/
theorem distinctFrom_eq_filter_zipIdx : ∀ before items : List α,
    distinctFrom key (before.map key) items = ((items.zipIdx before.length).filter fun p =>
      !(((before ++ items).take p.2).map key).contains (key p.1)).map Prod.fst
  | _, [] => rfl
  | before, a :: rest => by
    have htake : (before ++ a :: rest).take before.length = before := take_left
    have hseen : distinctFrom key (key a :: before.map key) rest =
        distinctFrom key ((before ++ [a]).map key) rest := by
      rw [map_append, map_singleton]
      exact distinctFrom_congr key rest fun _ => (perm_append_singleton _ _).symm.mem_iff
    have ih := distinctFrom_eq_filter_zipIdx (before ++ [a]) rest
    rw [← hseen, append_assoc, singleton_append, length_append, length_singleton] at ih
    rw [zipIdx_cons, filter_cons, htake]
    by_cases h : key a ∈ before.map key
    · rw [distinctFrom_cons_of_mem key h, if_neg (by simpa using h), ← ih,
        distinctFrom_cons_seen key h]
    · rw [distinctFrom_cons_of_not_mem key h, if_pos (by simpa using h), map_cons, ← ih]

/-- **An item stays exactly if no item before it has its key.** -/
theorem distinctBy_eq_filter_zipIdx (items : List α) :
    distinctBy key items = (items.zipIdx.filter fun p =>
      !((items.take p.2).map key).contains (key p.1)).map Prod.fst :=
  distinctFrom_eq_filter_zipIdx key [] items

/-- Of what stays all stays, as long as no key of it was seen. -/
theorem distinctFrom_distinctFrom : ∀ (items : List α) {seen seen' : List String},
    seen' ⊆ seen →
      distinctFrom key seen' (distinctFrom key seen items) = distinctFrom key seen items
  | [], _, _, _ => rfl
  | a :: rest, seen, seen', h => by
    by_cases ha : key a ∈ seen
    · rw [distinctFrom_cons_of_mem key ha]
      exact distinctFrom_distinctFrom rest h
    · have hsubset : key a :: seen' ⊆ key a :: seen := cons_subset_cons _ h
      rw [distinctFrom_cons_of_not_mem key ha, distinctFrom_cons_of_not_mem key (mt (@h _) ha),
        distinctFrom_distinctFrom rest hsubset]

/-- No two items that stay have one key, so they all stay again. -/
theorem distinctBy_distinctBy (items : List α) :
    distinctBy key (distinctBy key items) = distinctBy key items :=
  distinctFrom_distinctFrom key items (List.Subset.refl [])

/-- The keys of what stays are different, and none of them was seen. -/
theorem nodup_map_distinctFrom : ∀ (items : List α) (seen : List String),
    ((distinctFrom key seen items).map key).Nodup ∧
      ∀ k ∈ (distinctFrom key seen items).map key, k ∉ seen
  | [], _ => ⟨nodup_nil, forall_mem_nil _⟩
  | a :: rest, seen => by
    by_cases h : key a ∈ seen
    · rw [distinctFrom_cons_of_mem key h]
      exact nodup_map_distinctFrom rest seen
    · obtain ⟨hnodup, hnew⟩ := nodup_map_distinctFrom rest (key a :: seen)
      rw [distinctFrom_cons_of_not_mem key h, map_cons]
      exact ⟨nodup_cons.2 ⟨fun ha => hnew _ ha mem_cons_self, hnodup⟩,
        forall_mem_cons.2 ⟨h, fun k hk hseen => hnew k hk (mem_cons_of_mem _ hseen)⟩⟩

theorem nodup_map_distinctBy (items : List α) : ((distinctBy key items).map key).Nodup :=
  (nodup_map_distinctFrom key items []).1

/-! ### Appended and mapped lists -/

/-- A list behind itself adds nothing. -/
theorem distinctBy_append_self (items : List α) :
    distinctBy key (items ++ items) = distinctBy key items := by
  unfold distinctBy
  have hnil : distinctFrom key (items.map key ++ []) items = [] :=
    distinctFrom_eq_nil key fun a ha => mem_append_left _ (mem_map_of_mem ha)
  rw [distinctFrom_append, hnil, append_nil]

theorem map_distinctFrom (f : β → α) : ∀ (items : List β) (seen : List String),
    (distinctFrom (fun b => key (f b)) seen items).map f = distinctFrom key seen (items.map f)
  | [], _ => rfl
  | b :: rest, seen => by
    rw [map_cons]
    by_cases h : key (f b) ∈ seen
    · rw [distinctFrom_cons_of_mem (fun b => key (f b)) h, distinctFrom_cons_of_mem key h,
        map_distinctFrom f rest]
    · rw [distinctFrom_cons_of_not_mem (fun b => key (f b)) h, distinctFrom_cons_of_not_mem key h,
        map_cons, map_distinctFrom f rest]

/-- Items may be told apart before they are mapped or after. -/
theorem map_distinctBy (f : β → α) (items : List β) :
    (distinctBy (fun b => key (f b)) items).map f = distinctBy key (items.map f) :=
  map_distinctFrom key f items []

end RowQuery
