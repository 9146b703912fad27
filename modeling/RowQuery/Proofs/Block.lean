/-
# Rows in blocks

The columns of a joined row have the names of their tables in front, up to the
first point. If no name of a table has a point in it and no two are the same, this
splits the row in blocks, one for each table. A block holds a row of its table as
it was loaded, or it is filled with null, where this is allowed.

Rows that split in blocks of different tables merge to one that splits in the
blocks of both; null in all columns of some rows splits in blocks of null.

Key definitions: `qualifierOf`, `Record.block`, `Part`, `Part.Holds`, `Splits`.
Key theorems: `splits_qualified`, `Splits.merge`, `splits_nullRow`, `Splits.loaded`.
-/
import RowQuery.Evaluation.Join
import RowQuery.Proofs.Columns

namespace RowQuery

open List

/-! ### Names and blocks -/

/-- What a column's name has before its first point; all of a name that has none. -/
def qualifierOf (name : String) : String := String.ofList (name.toList.takeWhile (· != '.'))

theorem qualifierOf_qualifiedName {qualifier : String} (h : '.' ∉ qualifier.toList)
    (name : String) : qualifierOf (Record.qualifiedName qualifier name) = qualifier := by
  have hall : ∀ c ∈ qualifier.toList, (c != '.') = true := fun c hc =>
    bne_iff_ne.2 fun heq => h (heq ▸ hc)
  have htext : (Record.qualifiedName qualifier name).toList =
      qualifier.toList ++ '.' :: name.toList := by
    simp [Record.qualifiedName]
  rw [qualifierOf, htext, takeWhile_append_of_pos hall, takeWhile_cons_of_neg (by decide),
    append_nil, String.ofList_toList]

/-- The columns of a record that have a qualifier, in order. -/
def Record.block (r : Record) (qualifier : String) : List (String × Value) :=
  r.fields.filter fun p => qualifierOf p.1 == qualifier

theorem Record.mem_block {r : Record} {qualifier : String} {p : String × Value} :
    p ∈ r.block qualifier ↔ p ∈ r.fields ∧ qualifierOf p.1 = qualifier := by
  rw [block, mem_filter, beq_iff_eq]

/-! ### The parts of a row -/

/-- A table in a chain of joins: its name there, its rows as they were loaded, and whether an outer
join may put null in their place. -/
structure Part where
  qualifier : String
  rows : List Record
  optional : Bool

namespace Part

/-- A part that may be null in addition to what it may be. -/
def orNull (optional : Bool) (p : Part) : Part := { p with optional := p.optional || optional }

theorem map_orNull_qualifier (optional : Bool) (parts : List Part) :
    (parts.map (orNull optional)).map qualifier = parts.map qualifier :=
  map_map

/-- A block of a part holds exactly the columns and values of a loaded row, or, where this is
allowed, null in some columns of the table. -/
def Holds (p : Part) (block : List (String × Value)) : Prop :=
  (∃ row ∈ p.rows, block = (row.qualified p.qualifier).fields) ∨
    p.optional = true ∧ ∀ c ∈ block, c.2 = .null ∧
      ∃ row ∈ p.rows, c.1 ∈ (row.qualified p.qualifier).columns

theorem Holds.orNull {p : Part} {block : List (String × Value)} (h : p.Holds block)
    (optional : Bool) : (p.orNull optional).Holds block := by
  refine h.imp id fun ⟨hoptional, hnull⟩ => ⟨?_, hnull⟩
  show (p.optional || optional) = true
  rw [hoptional, Bool.true_or]

/-- The columns of a block are columns of the table. -/
theorem Holds.exists_row {p : Part} {block : List (String × Value)} (h : p.Holds block)
    {c : String × Value} (hc : c ∈ block) :
    ∃ row ∈ p.rows, c.1 ∈ (row.qualified p.qualifier).columns := by
  rcases h with ⟨row, hrow, rfl⟩ | ⟨-, hnull⟩
  · exact ⟨row, hrow, mem_map_of_mem hc⟩
  · exact (hnull c hc).2

end Part

/-- A row splits in the blocks of some parts. -/
structure Splits (parts : List Part) (row : Record) : Prop where
  columns : row.columns.Nodup
  qualifiers : ∀ c ∈ row.fields, qualifierOf c.1 ∈ parts.map Part.qualifier
  blocks : ∀ p ∈ parts, p.Holds (row.block p.qualifier)

variable {parts parts' : List Part} {row left right : Record}

/-- Each row of a table splits in the one block that it is. -/
theorem splits_qualified {qualifier : String} (hqualifier : '.' ∉ qualifier.toList)
    {table : List Record} (hrow : row ∈ table) (hmade : row.Made) :
    Splits [⟨qualifier, table, false⟩] (row.qualified qualifier) := by
  have hname : ∀ c ∈ (row.qualified qualifier).fields, qualifierOf c.1 = qualifier := by
    intro c hc
    obtain ⟨c, -, rfl⟩ := mem_map.1 hc
    exact qualifierOf_qualifiedName hqualifier c.1
  refine ⟨Record.made_iff.1 (hmade.qualified qualifier), fun c hc => ?_, fun p hp => ?_⟩
  · exact mem_singleton.2 (hname c hc)
  · obtain rfl := mem_singleton.1 hp
    refine .inl ⟨row, hrow, filter_eq_self.2 fun c hc => ?_⟩
    exact beq_iff_eq.2 (hname c hc)

theorem Splits.orNull (h : Splits parts row) (optional : Bool) :
    Splits (parts.map (Part.orNull optional)) row := by
  refine ⟨h.columns, fun c hc => ?_, fun p hp => ?_⟩
  · rw [Part.map_orNull_qualifier]
    exact h.qualifiers c hc
  · obtain ⟨p, hmem, rfl⟩ := mem_map.1 hp
    exact (h.blocks p hmem).orNull optional

/-- A row has no block of a table that it does not come from. -/
theorem Splits.block_eq_nil (h : Splits parts row) {qualifier : String}
    (hqualifier : qualifier ∉ parts.map Part.qualifier) : row.block qualifier = [] := by
  refine filter_eq_nil_iff.2 fun c hc heq => hqualifier ?_
  rw [← beq_iff_eq.1 heq]
  exact h.qualifiers c hc

/-- **Rows of different tables merge without a clash**, and keep their blocks. -/
theorem Splits.merge (hleft : Splits parts left) (hright : Splits parts' right)
    (hdisjoint : Disjoint (parts.map Part.qualifier) (parts'.map Part.qualifier)) :
    Splits (parts ++ parts') (left.merge right) := by
  have hcolumns : (left.columns ++ right.columns).Nodup := by
    refine hleft.columns.append hright.columns fun name hname hname' => ?_
    obtain ⟨c, hc, rfl⟩ := mem_map.1 hname
    obtain ⟨c', hc', heq⟩ := mem_map.1 hname'
    have hqualifier := hright.qualifiers c' hc'
    rw [heq] at hqualifier
    exact hdisjoint (hleft.qualifiers c hc) hqualifier
  have hblock : ∀ qualifier,
      (⟨left.fields ++ right.fields⟩ : Record).block qualifier =
        left.block qualifier ++ right.block qualifier := fun _ => filter_append ..
  rw [Record.merge_of_nodup hcolumns]
  -- A block of the merged row is that of one side, as the other side has none of the qualifier.
  refine ⟨?_, fun c hc => ?_, fun p hp => ?_⟩
  · rw [Record.columns, map_append]
    exact hcolumns
  · rw [map_append, mem_append]
    exact (mem_append.1 hc).imp (hleft.qualifiers c) (hright.qualifiers c)
  · rw [hblock]
    rcases mem_append.1 hp with hp | hp
    · have hother : p.qualifier ∉ parts'.map Part.qualifier := hdisjoint (mem_map_of_mem hp)
      rw [hright.block_eq_nil hother, append_nil]
      exact hleft.blocks p hp
    · have hother : p.qualifier ∉ parts.map Part.qualifier := fun h =>
        hdisjoint h (mem_map_of_mem hp)
      rw [hleft.block_eq_nil hother, nil_append]
      exact hright.blocks p hp

/-- A row of null has no columns but those of the rows that it stands for. -/
theorem mem_nullRow {rows : List Record} {c : String × Value} (h : c ∈ (nullRow rows).fields) :
    c.2 = .null ∧ ∃ r ∈ rows, c.1 ∈ r.columns := by
  obtain ⟨name, hname, rfl⟩ := mem_map.1 (Record.mem_ofFields h)
  exact ⟨rfl, mem_flatMap.1 hname⟩

/-- **Null in all columns of some rows is null in all their blocks.** -/
theorem splits_nullRow {rows : List Record} (h : ∀ r ∈ rows, Splits parts r) :
    Splits (parts.map (Part.orNull true)) (nullRow rows) := by
  refine ⟨Record.made_iff.1 (.ofFields _), fun c hc => ?_, fun p hp => ?_⟩
  · obtain ⟨-, r, hr, hname⟩ := mem_nullRow hc
    obtain ⟨c', hc', heq⟩ := mem_map.1 hname
    rw [Part.map_orNull_qualifier, ← heq]
    exact (h r hr).qualifiers c' hc'
  · obtain ⟨p, hp', rfl⟩ := mem_map.1 hp
    refine .inr ⟨Bool.or_true _, fun c hc => ?_⟩
    obtain ⟨hfields, hqualifier⟩ := Record.mem_block.1 hc
    obtain ⟨hnull, r, hr, hname⟩ := mem_nullRow hfields
    obtain ⟨c', hc', heq⟩ := mem_map.1 hname
    have hmem : c' ∈ r.block p.qualifier := Record.mem_block.2 ⟨hc', heq ▸ hqualifier⟩
    rw [← heq]
    exact ⟨hnull, ((h r hr).blocks p hp').exists_row hmem⟩

/-- Without an outer join every block holds a loaded row. -/
theorem Splits.loaded (h : Splits parts row) (hoptional : ∀ p ∈ parts, p.optional = false) :
    ∀ p ∈ parts, ∃ loaded ∈ p.rows,
      row.block p.qualifier = (loaded.qualified p.qualifier).fields := by
  intro p hp
  rcases h.blocks p hp with hrow | ⟨htrue, -⟩
  · exact hrow
  · rw [hoptional p hp] at htrue
    cases htrue

end RowQuery
