/-
# Columns of records

Every operation on records keeps their columns different. Conversely, all
records whose columns are different are made by the operations. In such a
record a column has one value, which is what is found under its name.

Key definitions: `Record.Made`.
Key theorems: `names_foldl`, `Record.made_iff`, `Record.mem_fields_iff`,
`Record.merge_of_nodup`, `Record.columns_ofFields`, `Record.ofFields_of_nodup`,
`Record.get?_insert`.
-/
import RowQuery.Record
import Mathlib.Data.List.Induction
import Mathlib.Data.List.Nodup
import Mathlib.Data.String.Basic

namespace RowQuery

open List

/-! ### Names in the order in which they come up -/

/-- A name at the end of others is one more just if it is new. -/
theorem eraseDups_concat (names : List String) (name : String) : (names ++ [name]).eraseDups =
    if name ∈ names.eraseDups then names.eraseDups else names.eraseDups ++ [name] := by
  rw [eraseDups_append]
  by_cases h : name ∈ names
  · have hnil : [name].removeAll names = [] := by simpa [removeAll] using h
    rw [if_pos (mem_eraseDups.2 h), hnil, eraseDups_nil, append_nil]
  · have hone : [name].removeAll names = [name] := by simpa [removeAll] using h
    rw [if_neg (mt mem_eraseDups.1 h), hone]
    rfl

theorem nodup_concat {names : List String} {name : String} (h : names.Nodup)
    (hnew : name ∉ names) : (names ++ [name]).Nodup :=
  (perm_append_singleton _ _).nodup_iff.2 (nodup_cons.2 ⟨hnew, h⟩)

theorem nodup_eraseDups (names : List String) : names.eraseDups.Nodup := by
  induction names using List.reverseRecOn with
  | nil => exact nodup_nil
  | append_singleton names name ih =>
    rw [eraseDups_concat]
    split
    · exact ih
    · exact nodup_concat ih ‹_›

/-- **What is made item by item, each of which adds its name if it is new, has the names of the
items**, each once, in the order in which they come up first. -/
theorem names_foldl {σ β : Type} (names : σ → List String) (name : β → String) {step : σ → β → σ}
    (hstep : ∀ s b, names (step s b) =
      if name b ∈ names s then names s else names s ++ [name b])
    {s : σ} (hs : names s = []) (items : List β) :
    names (items.foldl step s) = (items.map name).eraseDups := by
  induction items using List.reverseRecOn with
  | nil => exact hs
  | append_singleton items item ih =>
    rw [foldl_concat, hstep, ih, map_append, map_singleton, eraseDups_concat]

namespace Record

/-! ### One more column -/

/-- A field whose name is new goes to the end. -/
theorem insertField_of_new {name : String} {value : Value} :
    ∀ {fields : List (String × Value)}, (∀ p ∈ fields, p.1 ≠ name) →
    insertField name value fields = fields ++ [(name, value)]
  | [], _ => rfl
  | (n, v) :: rest, h => by
    have hne : n ≠ name := h (n, v) mem_cons_self
    have hrest := @insertField_of_new name value rest fun p hp => h p (mem_cons_of_mem _ hp)
    rw [insertField, if_neg hne, hrest]
    rfl

/-- A field whose name is there takes the place of the old one. -/
theorem insertField_names_of_mem {name : String} {value : Value} :
    ∀ {fields : List (String × Value)}, name ∈ fields.map Prod.fst →
    (insertField name value fields).map Prod.fst = fields.map Prod.fst
  | (n, v) :: rest, h => by
    rw [insertField]
    by_cases hn : n = name
    · rw [if_pos hn, map_cons, map_cons]
    · have hrest : name ∈ rest.map Prod.fst := (mem_cons.1 h).resolve_left fun heq => hn heq.symm
      rw [if_neg hn, map_cons, map_cons, insertField_names_of_mem hrest]

variable {r other : Record}

theorem insert_of_new {name : String} (value : Value) (h : name ∉ r.columns) :
    r.insert name value = ⟨r.fields ++ [(name, value)]⟩ := by
  refine congrArg Record.mk (insertField_of_new ?_)
  rintro p hp rfl
  exact h (mem_map_of_mem hp)

/-- The columns of a record with one more are those of the record, and the new one at the end if
it is new. -/
theorem columns_insert (r : Record) (name : String) (value : Value) :
    (r.insert name value).columns =
      if name ∈ r.columns then r.columns else r.columns ++ [name] := by
  split
  · exact insertField_names_of_mem ‹_›
  · rw [insert_of_new value ‹_›]
    exact map_append

theorem columns_insert_nodup (h : r.columns.Nodup) (name : String) (value : Value) :
    (r.insert name value).columns.Nodup := by
  rw [columns_insert]
  split
  · exact h
  · exact nodup_concat h ‹_›

/-! ### Many columns -/

/-- Columns are merged one after the other. -/
theorem merge_cons (r : Record) (p : String × Value) (rest : List (String × Value)) :
    r.merge ⟨p :: rest⟩ = (r.insert p.1 p.2).merge ⟨rest⟩ := rfl

theorem columns_merge_nodup (h : r.columns.Nodup) (other : Record) :
    (r.merge other).columns.Nodup := by
  obtain ⟨fields⟩ := other
  induction fields generalizing r with
  | nil => exact h
  | cons p rest ih => exact ih (columns_insert_nodup h p.1 p.2)

/-- **Records without a column in common are put one behind the other.** -/
theorem merge_of_nodup (h : (r.columns ++ other.columns).Nodup) :
    r.merge other = ⟨r.fields ++ other.fields⟩ := by
  obtain ⟨fields⟩ := other
  induction fields generalizing r with
  | nil => exact congrArg Record.mk (append_nil _).symm
  | cons p rest ih =>
    have hnew : p.1 ∉ r.columns := fun hp => (nodup_append.1 h).2.2 _ hp _ mem_cons_self rfl
    have hrest : ((⟨r.fields ++ [p]⟩ : Record).columns ++ (⟨rest⟩ : Record).columns).Nodup := by
      rw [columns, map_append, append_assoc]
      exact h
    rw [merge_cons, insert_of_new p.2 hnew, ih hrest, append_assoc, singleton_append]

/-- Fields of different names make the record that has them. -/
theorem ofFields_of_nodup (h : r.columns.Nodup) : ofFields r.fields = r :=
  merge_of_nodup (r := empty) h

/-! ### Fields come from somewhere -/

theorem mem_insertField {name : String} {value : Value} {p : String × Value} :
    ∀ {fields : List (String × Value)}, p ∈ insertField name value fields →
    p = (name, value) ∨ p ∈ fields
  | [], h => .inl (mem_singleton.1 h)
  | (n, v) :: rest, h => by
    rw [insertField] at h
    split at h
    · rename_i hn
      rw [hn] at h
      exact (mem_cons.1 h).imp_right (mem_cons_of_mem _)
    · rcases mem_cons.1 h with rfl | h
      · exact .inr mem_cons_self
      · exact (mem_insertField h).imp_right (mem_cons_of_mem _)

theorem mem_merge {p : String × Value} (h : p ∈ (r.merge other).fields) :
    p ∈ r.fields ∨ p ∈ other.fields := by
  obtain ⟨fields⟩ := other
  induction fields generalizing r with
  | nil => exact .inl h
  | cons q rest ih =>
    rcases ih h with h | h
    · rcases mem_insertField h with rfl | h
      · exact .inr mem_cons_self
      · exact .inl h
    · exact .inr (mem_cons_of_mem _ h)

theorem mem_ofFields {fields : List (String × Value)} {p : String × Value}
    (h : p ∈ (ofFields fields).fields) : p ∈ fields :=
  (mem_merge (r := empty) h).resolve_left not_mem_nil

/-! ### Qualified columns -/

theorem qualifiedName_injective (qualifier : String) :
    Function.Injective (qualifiedName qualifier) := by
  intro a b h
  have htexts := congrArg String.toList h
  simp only [qualifiedName, String.toList_append] at htexts
  exact String.toList_inj.1 (append_cancel_left htexts)

theorem columns_qualified (r : Record) (qualifier : String) :
    (r.qualified qualifier).columns = r.columns.map (qualifiedName qualifier) := by
  rw [columns, qualified, columns, map_map, map_map]
  rfl

/-! ### Records that are made -/

/-- Records that the operations make. -/
inductive Made : Record → Prop where
  | empty : Made .empty
  | insert {r : Record} (h : Made r) (name : String) (value : Value) : Made (r.insert name value)
  | merge {r other : Record} (h : Made r) (hother : Made other) : Made (r.merge other)
  | qualified {r : Record} (h : Made r) (qualifier : String) : Made (r.qualified qualifier)
  | ofFields (fields : List (String × Value)) : Made (.ofFields fields)

/-- **The records that are made are those whose columns are different.** -/
theorem made_iff : r.Made ↔ r.columns.Nodup := by
  constructor
  · intro h
    induction h with
    | empty => exact nodup_nil
    | insert _ name value ih => exact columns_insert_nodup ih name value
    | merge _ _ ih _ => exact columns_merge_nodup ih _
    | qualified _ qualifier ih =>
      rw [columns_qualified]
      exact ih.map (qualifiedName_injective qualifier)
    | ofFields fields => exact columns_merge_nodup (r := .empty) nodup_nil _
  · intro h
    rw [← ofFields_of_nodup h]
    exact .ofFields r.fields

/-! ### Finding a column -/

theorem contains_iff (r : Record) (name : String) : r.contains name = true ↔ name ∈ r.columns := by
  unfold contains get? columns
  simp [lookup_isSome_iff]

/-- What is found under a name is the value of the column of this name. -/
theorem mem_fields_iff (h : r.columns.Nodup) {name : String} {value : Value} :
    (name, value) ∈ r.fields ↔ r.get? name = some value := by
  unfold get?
  constructor
  · intro hmem
    obtain ⟨front, rest, hfields⟩ := append_of_mem hmem
    refine lookup_eq_some_iff.2 ⟨front, rest, hfields, fun p hp => bne_iff_ne.2 fun heq => ?_⟩
    rw [columns, hfields, map_append, map_cons] at h
    exact (nodup_append.1 h).2.2 p.1 (mem_map_of_mem hp) name mem_cons_self heq.symm
  · intro hget
    obtain ⟨front, rest, hfields, -⟩ := lookup_eq_some_iff.1 hget
    rw [hfields]
    exact mem_append_right _ mem_cons_self

theorem get?_insert (r : Record) (name other : String) (value : Value) :
    (r.insert name value).get? other = if other = name then some value else r.get? other := by
  have hfields : ∀ fields : List (String × Value),
      (insertField name value fields).lookup other =
        if other = name then some value else fields.lookup other := by
    intro fields
    induction fields with
    | nil => by_cases h : other = name <;> simp [insertField, h]
    | cons p rest ih =>
      obtain ⟨n, v⟩ := p
      rw [insertField]
      by_cases hn : n = name
      · subst hn
        rw [if_pos rfl, lookup_cons, lookup_cons]
        by_cases h : other = n
        · rw [if_pos h, beq_iff_eq.2 h]
        · rw [if_neg h, beq_false_of_ne h]
      · rw [if_neg hn, lookup_cons, lookup_cons, ih]
        by_cases h : other = n
        · subst h
          simp [hn]
        · rw [beq_false_of_ne h]
  exact hfields r.fields

/-- Columns of other names leave a column as it is. -/
theorem get?_merge_of_not_mem {name : String} (r : Record) {other : Record}
    (h : name ∉ other.columns) : (r.merge other).get? name = r.get? name := by
  obtain ⟨fields⟩ := other
  induction fields generalizing r with
  | nil => rfl
  | cons p rest ih =>
    rw [columns, map_cons, mem_cons, not_or] at h
    rw [merge_cons, ih _ h.2, get?_insert, if_neg h.1]

/-- Of several fields with one name the last has its value in the record. -/
theorem get?_ofFields_of_last {name : String} (value : Value)
    (before : List (String × Value)) {after : List (String × Value)}
    (h : name ∉ after.map Prod.fst) :
    (ofFields (before ++ (name, value) :: after)).get? name = some value := by
  have hsplit : ofFields (before ++ (name, value) :: after) =
      ((ofFields before).insert name value).merge ⟨after⟩ := by
    unfold ofFields merge
    rw [foldl_append, foldl_cons]
  rw [hsplit, get?_merge_of_not_mem _ h, get?_insert, if_pos rfl]

end Record

end RowQuery
