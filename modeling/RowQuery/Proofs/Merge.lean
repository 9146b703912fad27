/-
# Records merge as ordered maps

A record whose columns are different is made by one new column after the other.
It is known by its columns in order and by what is found under each name.

Merged with another one it keeps its columns where they are, and the new ones of
the other follow in their order; of two values the other's is taken. So merging
is associative and the empty record is neutral, and columns may be qualified
before or after.

Key theorems: `Record.induction_new`, `Record.ext_get?`, `Record.columns_merge`,
`Record.get?_merge`, `Record.merge_assoc`, `Record.qualified_merge`,
`Record.merge_monoid`.
-/
import RowQuery.Proofs.Columns

namespace RowQuery.Record

open List

variable {r r' other a b c : Record}

/-! ### One new column after the other -/

/-- What holds of the empty record and is kept by a new column holds of all records whose columns
are different. -/
theorem induction_new {P : Record → Prop} (hempty : P empty)
    (hinsert : ∀ (r : Record) (name : String) (value : Value), r.columns.Nodup →
      name ∉ r.columns → P r → P (r.insert name value)) (h : r.columns.Nodup) : P r := by
  obtain ⟨fields⟩ := r
  induction fields using List.reverseRecOn with
  | nil => exact hempty
  | append_singleton fields field ih =>
    obtain ⟨name, value⟩ := field
    have hcolumns : (⟨fields ++ [(name, value)]⟩ : Record).columns =
        (⟨fields⟩ : Record).columns ++ [name] := map_append
    rw [hcolumns] at h
    obtain ⟨hnodup, -, hapart⟩ := nodup_append.1 h
    have hnew : name ∉ (⟨fields⟩ : Record).columns := fun hmem =>
      hapart _ hmem _ mem_cons_self rfl
    have hlast := hinsert ⟨fields⟩ name value hnodup hnew (ih hnodup)
    rwa [insert_of_new value hnew] at hlast

theorem merge_insert {name : String} (value : Value) (h : name ∉ other.columns) :
    r.merge (other.insert name value) = (r.merge other).insert name value := by
  rw [insert_of_new value h]
  exact foldl_append

/-! ### Records by what is found in them -/

/-- A record is its columns, each with the value that is found. -/
theorem fields_eq (h : r.columns.Nodup) :
    r.fields = r.columns.map fun name => (name, (r.get? name).getD .null) := by
  have hfound : ∀ p ∈ r.fields, p = (p.1, (r.get? p.1).getD .null) := fun p hp => by
    rw [(mem_fields_iff h).1 hp]
    rfl
  calc r.fields = r.fields.map id := (map_id _).symm
    _ = r.fields.map fun p => (p.1, (r.get? p.1).getD .null) := map_congr_left hfound
    _ = r.columns.map fun name => (name, (r.get? name).getD .null) := by
      rw [columns, map_map]
      rfl

/-- **Records of the same columns in which the same is found are the same.** -/
theorem ext_get? (h : r.columns.Nodup) (hcolumns : r.columns = r'.columns)
    (hget : ∀ name, r.get? name = r'.get? name) : r = r' := by
  have hfields : r.fields = r'.fields := by
    rw [fields_eq h, fields_eq (hcolumns ▸ h), hcolumns]
    simp only [hget]
  cases r
  cases r'
  exact congrArg Record.mk hfields

/-! ### What is in a merged record -/

/-- **The columns of a record stay where they are**, and the new ones of the other follow in their
order. -/
theorem columns_merge (r : Record) (h : other.columns.Nodup) :
    (r.merge other).columns = r.columns ++ other.columns.filter (· ∉ r.columns) := by
  refine induction_new (P := fun other =>
    (r.merge other).columns = r.columns ++ other.columns.filter (· ∉ r.columns)) ?_ ?_ h
  · exact (append_nil _).symm
  · intro other name value _ hnew ih
    rw [merge_insert value hnew, columns_insert, ih, columns_insert, if_neg hnew, filter_append]
    by_cases hold : name ∈ r.columns
    · simp [hold]
    · simp [hold, hnew]

/-- **Of two values the other's is taken.** -/
theorem get?_merge (r : Record) (h : other.columns.Nodup) (name : String) :
    (r.merge other).get? name = (other.get? name).or (r.get? name) := by
  refine induction_new (P := fun other =>
    (r.merge other).get? name = (other.get? name).or (r.get? name)) rfl ?_ h
  intro other last value _ hnew ih
  rw [merge_insert value hnew, get?_insert, get?_insert, ih]
  split
  · rfl
  · rfl

/-! ### Laws -/

theorem empty_merge (h : r.columns.Nodup) : empty.merge r = r := ofFields_of_nodup h

theorem merge_empty (r : Record) : r.merge empty = r := rfl

/-- **Merging is associative.** -/
theorem merge_assoc (ha : a.columns.Nodup) (hb : b.columns.Nodup) (hc : c.columns.Nodup) :
    (a.merge b).merge c = a.merge (b.merge c) := by
  have hbc := columns_merge_nodup hb c
  refine ext_get? (columns_merge_nodup (columns_merge_nodup ha b) c) ?_ fun name => ?_
  · -- A column of the last record is new just if neither of the others has it.
    have hnew : ∀ name, decide (name ∉ a.columns ++ b.columns.filter (· ∉ a.columns)) =
        (decide (name ∉ a.columns) && decide (name ∉ b.columns)) := fun name => by
      by_cases hname : name ∈ a.columns <;> simp [hname]
    rw [columns_merge _ hc, columns_merge _ hb, columns_merge _ hbc, columns_merge _ hc,
      filter_append, append_assoc, filter_filter]
    simp only [hnew]
  · rw [get?_merge _ hc, get?_merge _ hb, get?_merge _ hbc, get?_merge _ hc, Option.or_assoc]

theorem qualified_insert (r : Record) (name : String) (value : Value) (qualifier : String) :
    (r.insert name value).qualified qualifier =
      (r.qualified qualifier).insert (qualifiedName qualifier name) value := by
  have hfields : ∀ fields : List (String × Value),
      (insertField name value fields).map (fun p => (qualifiedName qualifier p.1, p.2)) =
        insertField (qualifiedName qualifier name) value
          (fields.map fun p => (qualifiedName qualifier p.1, p.2)) := by
    intro fields
    induction fields with
    | nil => rfl
    | cons p rest ih =>
      obtain ⟨n, v⟩ := p
      rw [insertField, map_cons, insertField]
      by_cases h : n = name
      · rw [if_pos h, if_pos (congrArg _ h)]
        rfl
      · rw [if_neg h, if_neg ((qualifiedName_injective qualifier).ne h), map_cons, ih]
  exact congrArg Record.mk (hfields r.fields)

/-- **Columns may be qualified before they are merged or after.** -/
theorem qualified_merge (r other : Record) (qualifier : String) :
    (r.merge other).qualified qualifier =
      (r.qualified qualifier).merge (other.qualified qualifier) := by
  obtain ⟨fields⟩ := other
  induction fields generalizing r with
  | nil => rfl
  | cons p rest ih =>
    rw [merge_cons, ih, qualified_insert]
    rfl

/-- **Records form a monoid of ordered maps.** Whatever is inserted, merged, qualified and built, from
the empty record on, columns are different. Of such records the columns of the first stay where they
are and the new ones of the second follow in their order, with the value of the second wherever it
has the column; merging is associative, the empty record is neutral, and columns may be qualified
before they are merged or after. -/
theorem merge_monoid :
    (∀ r : Record, r.Made → r.columns.Nodup) ∧
    ∀ a b c : Record, a.Made → b.Made → c.Made →
      (a.merge b).columns = a.columns ++ b.columns.filter (· ∉ a.columns) ∧
      (∀ name, (a.merge b).get? name = if b.contains name then b.get? name else a.get? name) ∧
      empty.merge a = a ∧ a.merge empty = a ∧
      (a.merge b).merge c = a.merge (b.merge c) ∧
      ∀ qualifier, (a.merge b).qualified qualifier =
        (a.qualified qualifier).merge (b.qualified qualifier) := by
  refine ⟨fun r => made_iff.1, fun a b c ha hb hc => ?_⟩
  rw [made_iff] at ha hb hc
  refine ⟨columns_merge a hb, fun name => ?_, empty_merge ha, merge_empty a, merge_assoc ha hb hc,
    qualified_merge a b⟩
  rw [get?_merge a hb, contains]
  cases b.get? name with
  | none => rfl
  | some value => rfl

/-- Records that share a column with the next one each, one of the values being null. -/
theorem merge_monoid_overlapping :
    let a := ofFields [("x", .integer 1), ("y", .integer 2)]
    let b := ofFields [("y", .null), ("z", .integer 3)]
    let c := ofFields [("z", .integer 4), ("x", .string "")]
    a.Made ∧ b.Made ∧ c.Made ∧
      (a.merge b).columns = ["x", "y", "z"] ∧ (a.merge b).get? "y" = some .null ∧
      (a.merge b).merge c = a.merge (b.merge c) ∧
      (a.merge b).qualified "t" = (a.qualified "t").merge (b.qualified "t") := by
  intro a b c
  have ha : a.Made := .ofFields _
  have hb : b.Made := .ofFields _
  have hc : c.Made := .ofFields _
  obtain ⟨hcolumns, hget, -, -, hassoc, hqualified⟩ := merge_monoid.2 a b c ha hb hc
  exact ⟨ha, hb, hc, hcolumns, hget "y", hassoc, hqualified "t"⟩

end RowQuery.Record
