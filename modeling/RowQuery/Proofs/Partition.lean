/-
# Groups divide a list

Every item goes to the group of its key, which is made where the key comes up first. So
the keys of the groups are those of the items, each once and in the order of their first
items; a group is all items of its key, in order; and the groups together are the list,
rearranged.

Key theorems: `Groups.keys_ofList`, `Groups.snd_of_mem_ofList`, `Groups.ne_nil_of_mem_ofList`,
`Groups.flatMap_ofList_perm`.
-/
import RowQuery.Proofs.Columns
import RowQuery.Proofs.Index.Filter
import Mathlib.Data.List.Induction
import Mathlib.Data.List.Nodup
import Mathlib.Data.List.Perm.Basic

namespace RowQuery

open List

namespace Groups

variable {α : Type}

/-- The keys of groups, in order. -/
abbrev keys (groups : Groups α) : List String := groups.map Prod.fst

/-! ### One more item -/

/-- An item makes a group of its own just if there is none of its key. -/
theorem keys_add (key : String) (item : α) : ∀ groups : Groups α,
    keys (add key item groups) = if key ∈ keys groups then keys groups else keys groups ++ [key]
  | [] => rfl
  | (k, items) :: rest => by
    unfold add
    by_cases hk : k = key
    · rw [if_pos hk, if_pos (by simp [hk])]
      rfl
    · have hmem : key ∈ keys ((k, items) :: rest) ↔ key ∈ keys rest := by simp [Ne.symm hk]
      have ih := keys_add key item rest
      rw [if_neg hk]
      simp only [hmem]
      show k :: keys (add key item rest) = _
      rw [ih]
      split
      · rfl
      · rfl

/-- An item is added to the groups, and nothing else changes but the order. -/
theorem flatMap_add_perm (key : String) (item : α) : ∀ groups : Groups α,
    (add key item groups).flatMap Prod.snd ~ groups.flatMap Prod.snd ++ [item]
  | [] => Perm.refl _
  | (k, items) :: rest => by
    unfold add
    split
    · simp only [flatMap_cons, append_assoc]
      exact Perm.append_left items perm_append_comm
    · simp only [flatMap_cons, append_assoc]
      exact Perm.append_left items (flatMap_add_perm key item rest)

/-- Under a key that comes once, the items of its group are found. -/
theorem find_of_mem : ∀ {groups : Groups α} {g : String × List α}, (keys groups).Nodup →
    g ∈ groups → groups.find g.1 = g.2
  | (k, items) :: rest, g, hnodup, hg => by
    obtain ⟨hk, hrest⟩ := nodup_cons.1 hnodup
    rw [find_cons]
    rcases mem_cons.1 hg with rfl | hg
    · exact if_pos rfl
    · have hne : k ≠ g.1 := fun heq => hk (mem_map.2 ⟨g, hg, heq.symm⟩)
      rw [if_neg hne]
      exact find_of_mem hrest hg

/-! ### The groups of a list -/

variable {items : List (String × α)} {g : String × List α}

theorem ofList_concat (items : List (String × α)) (key : String) (item : α) :
    ofList (items ++ [(key, item)]) = add key item (ofList items) := by
  unfold ofList
  rw [foldl_concat]

/-- **The keys of the groups are those of the items**, each once, in the order in which they come
up first. -/
theorem keys_ofList (items : List (String × α)) :
    keys (ofList items) = (items.map Prod.fst).eraseDups :=
  names_foldl keys Prod.fst (fun groups p => keys_add p.1 p.2 groups) rfl items

theorem keys_ofList_nodup (items : List (String × α)) : (keys (ofList items)).Nodup :=
  keys_ofList items ▸ nodup_eraseDups _

/-- **A group is all items of its key**, in order. -/
theorem snd_of_mem_ofList (hg : g ∈ ofList items) :
    g.2 = (items.filter fun p => p.1 == g.1).map Prod.snd := by
  rw [← find_of_mem (keys_ofList_nodup items) hg, find_ofList]

theorem ne_nil_of_mem_ofList (hg : g ∈ ofList items) : g.2 ≠ [] := by
  have hkey : g.1 ∈ items.map Prod.fst := by
    rw [← mem_eraseDups, ← keys_ofList]
    exact mem_map_of_mem hg
  obtain ⟨item, hitem, heq⟩ := mem_map.1 hkey
  rw [snd_of_mem_ofList hg]
  exact ne_nil_of_mem (mem_map_of_mem (mem_filter.2 ⟨hitem, beq_iff_eq.2 heq⟩))

/-- **The groups together are the items**, rearranged. -/
theorem flatMap_ofList_perm (items : List (String × α)) :
    (ofList items).flatMap Prod.snd ~ items.map Prod.snd := by
  induction items using List.reverseRecOn with
  | nil => exact Perm.refl _
  | append_singleton items item ih =>
    rw [ofList_concat, map_append]
    exact (flatMap_add_perm item.1 item.2 _).trans (ih.append_right _)

/-- Every key has exactly one group. -/
theorem existsUnique_of_key {key : String} (h : key ∈ items.map Prod.fst) :
    ∃! g, g ∈ ofList items ∧ g.1 = key := by
  rw [← mem_eraseDups, ← keys_ofList] at h
  obtain ⟨g, hg, rfl⟩ := mem_map.1 h
  refine ⟨g, ⟨hg, rfl⟩, fun g' ⟨hg', heq⟩ => ?_⟩
  exact inj_on_of_nodup_map (keys_ofList_nodup items) hg' hg heq

end Groups

end RowQuery
