/-
# The identity of rows

Two records of values without floating-point numbers have one canonical text
exactly if they have the same columns with the same values, whatever the order of
their columns is. The text is read back to the fields in order of their names, so
no quote, comma or brace in a name or a string can make it ambiguous.

What is done by canonical text (DISTINCT, the set operations and ROW_NUMBER) is
therefore what would be done if the records were compared.

Key definitions: `Record.Same`, `Record.Exact`, `Record.isSame`, `firstRows`.
Key theorems: `Record.same_iff_perm`, `Json.sortFields_eq_iff`, `Record.canonical_eq_iff`,
`canonical_text_identifies`.
-/
import RowQuery.Evaluation.Compound
import RowQuery.Evaluation.Select
import RowQuery.Proofs.Distinct
import RowQuery.Proofs.Json.RoundTrip
import Mathlib.Data.List.Sort

namespace RowQuery

open List

/-! ### Records with the same columns and values -/

/-- The same columns with the same values; a column that is null is not a column that is missing. -/
structure Record.Same (r r' : Record) : Prop where
  columns : ∀ name, name ∈ r.columns ↔ name ∈ r'.columns
  values : ∀ name, r.get? name = r'.get? name

/-- Records that the operations make of values without floating-point numbers at any depth. -/
structure Record.Exact (r : Record) : Prop where
  made : r.Made
  values : ∀ p ∈ r.fields, p.2.Exact

theorem Json.sortFields_perm (fields : List (String × Value)) : sortFields fields ~ fields :=
  mergeSort_perm fields _

theorem Json.sortFields_sorted (fields : List (String × Value)) :
    (sortFields fields).Pairwise fun a b => a.1 ≤ b.1 := by
  have hsorted : (sortFields fields).Pairwise fun a b => decide (a.1 ≤ b.1) = true :=
    pairwise_mergeSort
      (fun a b c hab hbc => by simpa using le_trans (by simpa using hab) (by simpa using hbc))
      (fun a b => by simpa using le_total a.1 b.1) fields
  exact hsorted.imp fun h => by simpa using h

section Same

variable {r r' : Record} (h : r.columns.Nodup)

include h

/-- Records are the same exactly if they have the same fields, in any order. -/
theorem Record.same_iff_perm (h' : r'.columns.Nodup) : r.Same r' ↔ r.fields ~ r'.fields := by
  constructor
  · intro hsame
    rw [perm_ext_iff_of_nodup (h.of_map _) (h'.of_map _)]
    rintro ⟨name, value⟩
    rw [mem_fields_iff h, mem_fields_iff h', hsame.values]
  · intro hperm
    refine ⟨fun name => (hperm.map Prod.fst).mem_iff, fun name => Option.ext fun value => ?_⟩
    rw [← mem_fields_iff h, ← mem_fields_iff h', hperm.mem_iff]

/-- In order of their names, the fields of records are equal exactly if they are so in any order. -/
theorem Json.sortFields_eq_iff :
    sortFields r.fields = sortFields r'.fields ↔ r.fields ~ r'.fields := by
  constructor
  · intro hsorted
    have hperm := sortFields_perm r'.fields
    rw [← hsorted] at hperm
    exact (sortFields_perm r.fields).symm.trans hperm
  · intro hperm
    have hfields := (sortFields_perm r.fields).trans (hperm.trans (sortFields_perm r'.fields).symm)
    refine hfields.eq_of_pairwise ?_ (sortFields_sorted _) (sortFields_sorted _)
    -- Two fields of one name are one field, as the names are different.
    intro a b ha hb hab hba
    have hname : a.1 = b.1 := le_antisymm hab hba
    have ha' : a ∈ r.fields := (sortFields_perm _).mem_iff.1 ha
    have hb' : b ∈ r.fields := hperm.mem_iff.2 ((sortFields_perm _).mem_iff.1 hb)
    exact inj_on_of_nodup_map h ha' hb' hname

end Same

/-! ### Canonical text -/

namespace Json

/-- Canonical text reads back as the fields in order of their names. -/
theorem reads_canonical {r : Record} (hvalues : ∀ p ∈ r.fields, p.2.Exact) {depth : Nat}
    (hdepth : fieldsNesting r.fields ≤ depth) :
    Reads (value? (depth + 1)) (ofRecordAt canonical r 0)
      fun d => ∃ documents, d = .object documents ∧
        Document.fieldValues documents = sortFields r.fields := by
  have htext : ofRecordAt canonical r 0 = wrap canonical '\x7b' '\x7d' ((sortFields r.fields).map
      fun p => pair canonical p.1 (ofValueAt canonical p.2 1)) 0 := by
    rw [← fieldsAt_eq]
    rfl
  rw [htext]
  refine reads_object canonical (ofValueAt canonical · 1) 0 fun p hp => ?_
  have hmem : p ∈ r.fields := (mergeSort_perm _ _).mem_iff.1 hp
  have hnesting : p.2.nesting ≤ depth := Nat.le_trans (nesting_le_of_mem_fields hmem) hdepth
  exact reads_value canonical (hvalues p hmem) 1 hnesting

/-- What is read from one text is one thing. -/
theorem Reads.unique {α : Type} {front : Front α} {text : List Char} {p q : α → Prop}
    (hp : Reads front text p) (hq : Reads front text q) : ∃ a, p a ∧ q a := by
  obtain ⟨a, hread, ha⟩ := hp.reads [] stops_nil
  obtain ⟨b, hread', hb⟩ := hq.reads [] stops_nil
  obtain rfl : a = b := congrArg Prod.fst (Option.some.inj (hread.symm.trans hread'))
  exact ⟨a, ha, hb⟩

end Json

/-- **Canonical texts are equal exactly if the records are the same.** -/
theorem Record.canonical_eq_iff {r r' : Record} (h : r.Exact) (h' : r'.Exact) :
    r.canonical = r'.canonical ↔ r.Same r' := by
  have hnodup := made_iff.1 h.made
  have hnodup' := made_iff.1 h'.made
  rw [same_iff_perm hnodup hnodup', ← Json.sortFields_eq_iff hnodup]
  constructor
  · intro htext
    have hchars : Json.ofRecordAt Json.canonical r 0 = Json.ofRecordAt Json.canonical r' 0 :=
      String.ofList_injective htext
    have hreads := Json.reads_canonical h.values (Nat.le_max_left _ (fieldsNesting r'.fields))
    have hreads' := Json.reads_canonical h'.values (Nat.le_max_right (fieldsNesting r.fields) _)
    rw [← hchars] at hreads'
    obtain ⟨_, ⟨documents, rfl, hfields⟩, documents', heq, hfields'⟩ := hreads.unique hreads'
    rw [← hfields, ← hfields', Json.Document.object.inj heq]
  · intro hfields
    have hchars : Json.ofRecordAt Json.canonical r 0 = Json.ofRecordAt Json.canonical r' 0 := by
      change Json.wrap _ _ _ (Json.fieldsAt _ (Json.sortFields _) _) _ = _
      rw [hfields]
      rfl
    exact congrArg String.ofList hchars

/-! ### What is done by canonical text -/

open Classical in
/-- Whether two records are the same, decided by their columns and values. -/
noncomputable def Record.isSame (r r' : Record) : Bool := decide (r.Same r')

theorem Record.isSame_iff {r r' : Record} : r.isSame r' = true ↔ r.Same r' := by
  classical exact decide_eq_true_iff

theorem Record.canonical_beq {r r' : Record} (h : r.Exact) (h' : r'.Exact) :
    (r.canonical == r'.canonical) = r.isSame r' := by
  rw [Bool.eq_iff_iff, beq_iff_eq, canonical_eq_iff h h', isSame_iff]

/-- A record's text is among those of others exactly if one of them is the same. -/
theorem contains_canonical {row : Record} {rows : List Record} (h : row.Exact)
    (hrows : ∀ r ∈ rows, r.Exact) :
    (rows.map Record.canonical).contains row.canonical = rows.any (·.isSame row) := by
  induction rows with
  | nil => rfl
  | cons r rest ih =>
    rw [map_cons, contains_cons, any_cons, ih fun r hr => hrows r (mem_cons_of_mem _ hr),
      ← Record.canonical_beq (hrows r mem_cons_self) h, Bool.beq_comm]

/-- The items of which none before has the same record. -/
noncomputable def firstRows {α : Type} (record : α → Record) (items : List α) : List α :=
  (items.zipIdx.filter fun p =>
    !((items.take p.2).map record).any (·.isSame (record p.1))).map Prod.fst

theorem distinctBy_canonical {α : Type} (record : α → Record) {items : List α}
    (h : ∀ a ∈ items, (record a).Exact) :
    distinctBy (fun a => (record a).canonical) items = firstRows record items := by
  rw [distinctBy_eq_filter_zipIdx]
  unfold firstRows
  congr 1
  refine filter_congr fun p hp => ?_
  have hp' : p.1 ∈ items := fst_mem_of_mem_zipIdx hp
  have hbefore : ∀ r ∈ (items.take p.2).map record, r.Exact := fun r hr => by
    obtain ⟨a, ha, rfl⟩ := mem_map.1 hr
    exact h a (mem_of_mem_take ha)
  rw [← contains_canonical (h p.1 hp') hbefore, map_map]
  rfl

theorem findIdx?_canonical {row : Record} {rows : List Record} (h : row.Exact)
    (hrows : ∀ r ∈ rows, r.Exact) :
    (rows.findIdx? fun r => r.canonical == row.canonical) = rows.findIdx? (·.isSame row) := by
  induction rows with
  | nil => rfl
  | cons r rest ih =>
    rw [findIdx?_cons, findIdx?_cons, Record.canonical_beq (hrows r mem_cons_self) h,
      ih fun r hr => hrows r (mem_cons_of_mem _ hr)]

/-- **Canonical text is the identity of rows.** The texts of two rows are equal exactly if they have
the same columns with the same values; and what is done by canonical text keeps, finds and numbers
the rows that it would if the rows were compared. -/
theorem canonical_text_identifies :
    (∀ r r' : Record, r.Exact → r'.Exact → (r.canonical = r'.canonical ↔ r.Same r')) ∧
    (∀ (q : Query) (results : List Projected), q.distinct = true →
      (∀ p ∈ results, p.record.Exact) →
      q.distinctRows results = firstRows Projected.record results) ∧
    (∀ left right : List Record, (∀ r ∈ left ++ right, r.Exact) →
      SetOperator.union.apply left right = firstRows id (left ++ right) ∧
      SetOperator.intersect.apply left right =
        left.filter (fun row => right.any (·.isSame row)) ∧
      SetOperator.except.apply left right =
        left.filter (fun row => !right.any (·.isSame row))) ∧
    (∀ (row : Record) (rows : List Record), row.Exact → (∀ r ∈ rows, r.Exact) →
      rowNumber row rows = match rows.findIdx? (·.isSame row) with
        | some i => .integer (Int64.ofNat (i + 1))
        | none => .null) := by
  refine ⟨fun r r' h h' => Record.canonical_eq_iff h h', ?_, ?_, ?_⟩
  · intro q results hdistinct hresults
    unfold Query.distinctRows
    rw [if_pos hdistinct]
    exact distinctBy_canonical Projected.record hresults
  · intro left right hrows
    have hcontains : ∀ row ∈ left, (right.map Record.canonical).contains row.canonical =
        right.any (·.isSame row) := fun row hrow =>
      contains_canonical (hrows row (mem_append_left _ hrow))
        fun r hr => hrows r (mem_append_right _ hr)
    refine ⟨distinctBy_canonical id hrows, filter_congr hcontains, filter_congr fun row hrow => ?_⟩
    rw [hcontains row hrow]
  · intro row rows hrow hrows
    have hplace := findIdx?_canonical hrow hrows
    exact congrArg (fun place => match place with
      | some i => Value.integer (Int64.ofNat (i + 1))
      | none => .null) hplace

/-- Rows with the columns in another order are one row; the integer and the text that writes it are
two. -/
theorem canonical_text_identifies_five :
    let nested : Value := .object [("k", .array [.null, .string "\x7d,\""])]
    let five := Record.ofFields [("n", .integer 5), ("o", nested)]
    let moved := Record.ofFields [("o", nested), ("n", .integer 5)]
    let text := Record.ofFields [("n", .string "5"), ("o", nested)]
    five.canonical = moved.canonical ∧ five.canonical ≠ text.canonical ∧
      SetOperator.union.apply [five] [moved, text] = [five, text] := by
  intro nested five moved text
  have hnested : nested.Exact := by
    refine .object (pairwise_singleton _ _) (forall_mem_singleton.2 (.array ?_))
    exact forall_mem_cons.2 ⟨.null, forall_mem_singleton.2 (.string _)⟩
  have hfive : five.Exact :=
    ⟨.ofFields _, forall_mem_cons.2 ⟨.integer 5, forall_mem_singleton.2 hnested⟩⟩
  have hmoved : moved.Exact :=
    ⟨.ofFields _, forall_mem_cons.2 ⟨hnested, forall_mem_singleton.2 (.integer 5)⟩⟩
  have htext : text.Exact :=
    ⟨.ofFields _, forall_mem_cons.2 ⟨.string "5", forall_mem_singleton.2 hnested⟩⟩
  have hsame : five.canonical = moved.canonical :=
    (canonical_text_identifies.1 _ _ hfive hmoved).2
      ((Record.same_iff_perm (by decide) (by decide)).2 (.swap _ _ _))
  have hother : five.canonical ≠ text.canonical := fun heq => by
    have hvalues := ((canonical_text_identifies.1 _ _ hfive htext).1 heq).values "n"
    cases hvalues
  refine ⟨hsame, hother, ?_⟩
  rw [SetOperator.apply]
  simp [distinctBy, distinctFrom, ← hsame, hother.symm]

end RowQuery
