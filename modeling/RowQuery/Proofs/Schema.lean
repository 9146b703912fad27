/-
# Fields sum up the columns of records

What describes some records names each of their columns once, in the order in
which they come up first. A field says of its column whether a record lacks it
or has null in it, and the type of its first value that is not null.

Fields are made cell by cell. What a field says is true of the cells that were
seen so far, and stays so with one cell more, of its own column or of another
one. That a record lacks a column shows only at the end, as the column may come
up later than the record.

Key definitions: `typeOf`, `Field.seen`, `Field.SumsUp`.
Key theorems: `typeOf_concat`, `Field.names_seen`, `Field.SumsUp.see`,
`Field.sumsUp_seen`, `Field.fields_sum_up_records`.
-/
import RowQuery.Proofs.Columns
import RowQuery.Source

namespace RowQuery

open List

/-! ### The type of a column -/

/-- The type of a column among cells in order: that of its first value that is not null. -/
def typeOf (cells : List (String × Value)) (name : String) : String :=
  ((cells.find? fun p => p.1 == name && !p.2.isNull).map fun p => p.2.typeName).getD "null"

/-- Null alone has the type that a column has in which nothing but null is known. -/
theorem Value.typeName_eq_unknownType_iff (v : Value) :
    v.typeName = Field.unknownType ↔ v.isNull = true := by
  cases v with
  | number n => cases n <;> simp [typeName, Field.unknownType, isNull]
  | _ => simp [typeName, Field.unknownType, isNull]

theorem Value.isNull_iff (v : Value) : v.isNull = true ↔ v = .null := by
  cases v <;> simp [isNull]

/-- One more cell gives its column a type if it is the first to have one. -/
theorem typeOf_concat (cells : List (String × Value)) (name other : String) (value : Value) :
    typeOf (cells ++ [(other, value)]) name =
      if other = name ∧ value.isNull = false ∧ typeOf cells name = Field.unknownType
      then value.typeName else typeOf cells name := by
  unfold typeOf
  rw [find?_append]
  cases hfirst : cells.find? fun p => p.1 == name && !p.2.isNull with
  | none =>
    by_cases hname : other = name
    · cases hnull : value.isNull with
      | true => simp [hname, hnull]
      | false => simp [hname, hnull, Field.unknownType, Value.typeName]
    · simp [hname]
  | some p =>
    have hknown := find?_some hfirst
    have htype : p.2.typeName ≠ Field.unknownType := by
      rw [Ne, Value.typeName_eq_unknownType_iff]
      simp_all
    exact (if_neg fun h => htype h.2.2).symm

namespace Field

/-! ### The names of fields -/

/-- The fields of cells in order. -/
def seen (cells : List (String × Value)) : List Field :=
  cells.foldl (fun fields (name, value) => observe name value fields) []

theorem seen_concat (cells : List (String × Value)) (name : String) (value : Value) :
    seen (cells ++ [(name, value)]) = observe name value (seen cells) :=
  foldl_append

theorem name_see (f : Field) (value : Value) : (f.see value).name = f.name := by
  unfold see
  split
  · rfl
  · split
    · rfl
    · rfl

theorem names_observe (name : String) (value : Value) : ∀ fields : List Field,
    (observe name value fields).map Field.name =
      if name ∈ fields.map Field.name then fields.map Field.name
      else fields.map Field.name ++ [name]
  | [] => by simp [observe, name_see]
  | f :: rest => by
    rw [observe]
    by_cases h : f.name = name
    · rw [if_pos h, map_cons, map_cons, name_see, if_pos (h ▸ mem_cons_self)]
    · have hiff : name ∈ (f :: rest).map Field.name ↔ name ∈ rest.map Field.name := by
        rw [map_cons, mem_cons, or_iff_right fun heq => h heq.symm]
      rw [if_neg h, map_cons, names_observe name value rest, if_congr hiff rfl rfl]
      split
      · rfl
      · rfl

/-- **The fields are named as the columns of the cells**, each once, in the order in which they come
up first. -/
theorem names_seen (cells : List (String × Value)) :
    (seen cells).map Field.name = (cells.map Prod.fst).eraseDups :=
  names_foldl (map Field.name) Prod.fst (fun fields p => names_observe p.1 p.2 fields) rfl cells

theorem nodup_names_seen (cells : List (String × Value)) : ((seen cells).map Field.name).Nodup :=
  names_seen cells ▸ nodup_eraseDups _

/-! ### What fields say -/

/-- A field says of some cells what is true of those in its column. -/
structure SumsUp (cells : List (String × Value)) (f : Field) : Prop where
  typeName : f.typeName = typeOf cells f.name
  nullable : f.nullable = true ↔ (f.name, .null) ∈ cells

namespace SumsUp

variable {cells : List (String × Value)} {f : Field}

/-- A column without a cell. -/
theorem fresh {name : String} (h : name ∉ cells.map Prod.fst) :
    SumsUp cells ⟨name, unknownType, false⟩ where
  typeName := by
    have hnone : cells.find? (fun p => p.1 == name && !p.2.isNull) = none := by
      refine find?_eq_none.2 fun p hp hknown => h ?_
      rw [Bool.and_eq_true, beq_iff_eq] at hknown
      exact hknown.1 ▸ mem_map_of_mem hp
    rw [typeOf, hnone]
    rfl
  nullable := ⟨nofun, fun hmem => absurd (mem_map_of_mem hmem) h⟩

/-- **A field with one more cell of its column.** -/
theorem see (h : f.SumsUp cells) (value : Value) :
    (f.see value).SumsUp (cells ++ [(f.name, value)]) := by
  have hmem : (f.name, Value.null) ∈ cells ++ [(f.name, value)] ↔
      (f.name, Value.null) ∈ cells ∨ value.isNull = true := by
    rw [mem_append, mem_singleton, Prod.mk.injEq, Value.isNull_iff, eq_comm (a := value)]
    simp
  have hname := f.name_see value
  refine ⟨?_, ?_⟩
  · rw [hname, typeOf_concat, ← h.typeName, Field.see]
    cases hnull : value.isNull with
    | true => simp
    | false => by_cases htype : f.typeName = unknownType <;> simp [htype]
  · rw [hname, hmem, ← h.nullable, Field.see]
    cases hnull : value.isNull with
    | true => simp
    | false => by_cases htype : f.typeName = unknownType <;> simp [htype]

/-- A cell of another column changes nothing. -/
theorem beside (h : f.SumsUp cells) {name : String} (hname : f.name ≠ name) (value : Value) :
    f.SumsUp (cells ++ [(name, value)]) where
  typeName := by rw [typeOf_concat, if_neg fun hc => hname hc.1.symm, h.typeName]
  nullable := by simp [h.nullable, hname]

end SumsUp

/-- A field with one more cell seen is one of another column, or one of its column that has seen
it, or a new one. -/
theorem mem_observe {name : String} {value : Value} {f : Field} : ∀ {fields : List Field},
    (fields.map Field.name).Nodup → f ∈ observe name value fields →
    (f ∈ fields ∧ f.name ≠ name) ∨ (∃ g ∈ fields, g.name = name ∧ f = g.see value) ∨
      name ∉ fields.map Field.name ∧ f = see ⟨name, unknownType, false⟩ value
  | [], _, h => .inr (.inr ⟨not_mem_nil, mem_singleton.1 h⟩)
  | g :: rest, hnodup, h => by
    rw [map_cons, nodup_cons] at hnodup
    rw [observe] at h
    split at h
    · rename_i hg
      rcases mem_cons.1 h with rfl | h
      · exact .inr (.inl ⟨g, mem_cons_self, hg, rfl⟩)
      · exact .inl ⟨mem_cons_of_mem _ h, fun hf => hnodup.1 (hg ▸ hf ▸ mem_map_of_mem h)⟩
    · rename_i hg
      rcases mem_cons.1 h with rfl | h
      · exact .inl ⟨mem_cons_self, hg⟩
      · rcases mem_observe hnodup.2 h with ⟨hf, hne⟩ | ⟨g', hg', hname, heq⟩ | ⟨hnew, heq⟩
        · exact .inl ⟨mem_cons_of_mem _ hf, hne⟩
        · exact .inr (.inl ⟨g', mem_cons_of_mem _ hg', hname, heq⟩)
        · refine .inr (.inr ⟨?_, heq⟩)
          rw [map_cons, mem_cons, not_or]
          exact ⟨fun h => hg h.symm, hnew⟩

/-- **All fields sum up the cells that were seen.** -/
theorem sumsUp_seen (cells : List (String × Value)) : ∀ f ∈ seen cells, f.SumsUp cells := by
  induction cells using List.reverseRecOn with
  | nil => exact fun _ h => absurd h not_mem_nil
  | append_singleton cells cell ih =>
    obtain ⟨name, value⟩ := cell
    intro f hf
    rw [seen_concat] at hf
    rcases mem_observe (nodup_names_seen cells) hf with ⟨hf, hne⟩ | ⟨g, hg, rfl, rfl⟩ | ⟨hnew, rfl⟩
    · exact (ih f hf).beside hne value
    · exact (ih g hg).see value
    · rw [names_seen, mem_eraseDups] at hnew
      exact (SumsUp.fresh hnew).see value

/-! ### Columns that records lack -/

theorem settle_eq (records : List Record) (f : Field) : settle records f =
    ⟨f.name, f.typeName, f.nullable || records.any fun r => !r.contains f.name⟩ := by
  unfold settle
  cases hlacks : records.any fun r => !r.contains f.name with
  | true => simp
  | false => simp

/-- **Fields sum up the columns of records.** They name each column of a record once, in the order in
which the columns come up first. A field is nullable just if a record lacks its column or has null in
it; its type is that of the first value of its column that is not null, or `null` if there is none. -/
theorem fields_sum_up_records (records : List Record) :
    (ofRecords records).map Field.name = (records.flatMap Record.columns).eraseDups ∧
    ((ofRecords records).map Field.name).Nodup ∧
    (∀ name, name ∈ (ofRecords records).map Field.name ↔ ∃ r ∈ records, name ∈ r.columns) ∧
    ∀ f ∈ ofRecords records,
      (f.nullable = true ↔ ∃ r ∈ records, f.name ∉ r.columns ∨ (f.name, .null) ∈ r.fields) ∧
      f.typeName = typeOf (records.flatMap Record.fields) f.name := by
  have hof : ofRecords records = (seen (records.flatMap Record.fields)).map (settle records) := rfl
  have hnames : (ofRecords records).map Field.name =
      (seen (records.flatMap Record.fields)).map Field.name := by
    rw [hof, map_map]
    exact map_congr_left fun f _ => by rw [Function.comp_apply, settle_eq]
  have hcolumns : (records.flatMap Record.fields).map Prod.fst = records.flatMap Record.columns :=
    map_flatMap
  rw [hnames]
  refine ⟨by rw [names_seen, hcolumns], nodup_names_seen _, fun name => ?_, fun f hf => ?_⟩
  · rw [names_seen, mem_eraseDups, hcolumns, mem_flatMap]
  · rw [hof] at hf
    obtain ⟨g, hg, rfl⟩ := mem_map.1 hf
    have hsum := sumsUp_seen _ g hg
    rw [settle_eq]
    refine ⟨?_, hsum.typeName⟩
    have hlacks : (records.any fun r => !r.contains g.name) = true ↔
        ∃ r ∈ records, g.name ∉ r.columns := by
      simp [Record.contains_iff, ← Bool.not_eq_true]
    rw [Bool.or_eq_true, hsum.nullable, hlacks, mem_flatMap, or_comm, ← exists_or]
    simp only [and_or_left]

/-- A column that starts with null, and one that comes up late. -/
theorem fields_sum_up_records_late :
    let records : List Record := [⟨[("a", .integer 1), ("b", .null)]⟩,
      ⟨[("c", .boolean true), ("b", .string "x"), ("a", .integer 2)]⟩]
    ofRecords records =
        [⟨"a", "integer", false⟩, ⟨"b", "string", true⟩, ⟨"c", "boolean", true⟩] ∧
      ⟨"c", "boolean", true⟩ ∈ ofRecords records ∧
      (∃ r ∈ records, "c" ∉ r.columns ∨ ("c", .null) ∈ r.fields) ∧
      typeOf (records.flatMap Record.fields) "c" = "boolean" := by
  intro records
  have hlate : ⟨"c", "boolean", true⟩ ∈ ofRecords records := by decide
  obtain ⟨hnullable, htype⟩ := (fields_sum_up_records records).2.2.2 _ hlate
  exact ⟨by decide, hlate, hnullable.1 rfl, htype.symm⟩

end Field

end RowQuery
