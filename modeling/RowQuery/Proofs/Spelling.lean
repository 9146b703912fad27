/-
# One spelling for each number

Canonical text writes a floating-point number like the integer that its shortest decimal is, if it
is whole. Up to `2 ^ 53` this is the number itself. So an integer and the same number stored as a
floating-point one have one text, and rows that differ by no more are one row.

Beyond `2 ^ 53` the shortest decimal may be another integer. Then the floating-point number has a
text that the integer of the same value does not have, and that another integer has.

Key definitions: `Number.unified`, `Value.unified`, `Record.unified`.
Key theorems: `Json.ofNumber_eq_iff`, `Record.canonical_unified`, `canonical_spelling`,
`canonical_spelling_rounded`.
-/
import RowQuery.Evaluation.Compound
import RowQuery.Evaluation.Select
import RowQuery.Proofs.Distinct
import RowQuery.Proofs.Json.RoundTrip
import RowQuery.Proofs.Number.Written

namespace RowQuery

open List

attribute [local irreducible] Binary64.one Binary64.limit

/-! ### Numbers -/

/-- An integer and a floating-point number have one canonical text just if the one is what the
other is written as. -/
theorem Json.ofNumber_eq_iff {n : Int64} {x : Binary64} (hx : x.isFinite = true) :
    ofNumber canonical (.integer n) = ofNumber canonical (.float x) ↔
      x.written? = some n.toInt := by
  rw [← Number.floatText_eq_ofInt_iff hx]
  exact eq_comm

theorem Json.ofValue_eq_iff {n : Int64} {x : Binary64} (hx : x.isFinite = true) :
    ofValue canonical (.integer n) = ofValue canonical (.float x) ↔ x.written? = some n.toInt :=
  String.ofList_inj.trans (ofNumber_eq_iff hx)

/-- A number, as an integer if it is one of 64 bits that is written as itself. -/
def Number.unified : Number → Number
  | .integer n => .integer n
  | .float x =>
    match if x.written? = x.toInt? then x.toInt?.bind int64OfInt? else none with
    | some n => .integer n
    | none => .float x

/-- A floating-point number goes with the integer that it is, if it is written as this. -/
theorem Number.unified_float {n : Int64} {x : Binary64} (hvalue : x.toInt? = some n.toInt)
    (hwritten : x.written? = x.toInt?) : (float x).unified = (integer n).unified := by
  unfold unified
  dsimp only
  rw [if_pos hwritten, hvalue, Option.bind_some, Numeral.int64OfInt?_toInt]

/-- What is unified keeps its canonical text. -/
theorem Json.ofNumber_unified (r : Number) :
    ofNumber canonical r.unified = ofNumber canonical r := by
  cases r with
  | integer n => rfl
  | float x =>
    unfold Number.unified
    dsimp only
    split
    · rename_i n hn
      split at hn
      · rename_i hwritten
        obtain ⟨i, hi, hn⟩ := Option.bind_eq_some_iff.1 hn
        obtain rfl := int64OfInt?_eq_some_iff.1 hn
        have hfinite : x.isFinite = true := by
          cases x with
          | finite => rfl
          | infinite => cases hi
          | notANumber => cases hi
        exact (ofNumber_eq_iff hfinite).2 (hwritten.trans hi)
      · cases hn
    · rfl

/-! ### Values and records -/

namespace Value

mutual

/-- A value whose numbers are unified, at every depth. -/
def unified : Value → Value
  | .number r => .number r.unified
  | .array items => .array (unifiedItems items)
  | .object fields => .object (unifiedFields fields)
  | .null => .null
  | .boolean b => .boolean b
  | .string s => .string s

/-- The items of an array. -/
def unifiedItems : List Value → List Value
  | [] => []
  | item :: rest => item.unified :: unifiedItems rest

/-- The fields of an object. -/
def unifiedFields : List (String × Value) → List (String × Value)
  | [] => []
  | (name, value) :: rest => (name, value.unified) :: unifiedFields rest

end

theorem unifiedFields_eq : ∀ fields : List (String × Value),
    unifiedFields fields = fields.map fun p => (p.1, p.2.unified)
  | [] => rfl
  | (name, value) :: rest => by rw [unifiedFields, unifiedFields_eq rest, map_cons]

end Value

namespace Json

mutual

theorem ofValueAt_unified : ∀ (v : Value) (level : Nat),
    ofValueAt canonical v.unified level = ofValueAt canonical v level
  | .null, _ => by rw [Value.unified]
  | .boolean _, _ => by rw [Value.unified]
  | .string _, _ => by rw [Value.unified]
  | .number r, _ => by rw [Value.unified, ofValueAt, ofValueAt, ofNumber_unified]
  | .array items, level => by
    rw [Value.unified, ofValueAt, ofValueAt, itemsAt_unified items]
  | .object fields, level => by
    rw [Value.unified, ofValueAt, ofValueAt, fieldsAt_unified fields]

theorem itemsAt_unified : ∀ (items : List Value) (level : Nat),
    itemsAt canonical (Value.unifiedItems items) level = itemsAt canonical items level
  | [], _ => rfl
  | v :: rest, level => by
    rw [Value.unifiedItems, itemsAt, itemsAt, ofValueAt_unified v, itemsAt_unified rest]

theorem fieldsAt_unified : ∀ (fields : List (String × Value)) (level : Nat),
    fieldsAt canonical (Value.unifiedFields fields) level = fieldsAt canonical fields level
  | [], _ => rfl
  | (name, v) :: rest, level => by
    rw [Value.unifiedFields, fieldsAt, fieldsAt, ofValueAt_unified v, fieldsAt_unified rest]

end

/-- Fields keep their order when their values are unified. -/
theorem sortFields_unified (fields : List (String × Value)) :
    sortFields (Value.unifiedFields fields) = Value.unifiedFields (sortFields fields) := by
  rw [Value.unifiedFields_eq, Value.unifiedFields_eq]
  exact (map_mergeSort (f := fun p : String × Value => (p.1, p.2.unified))
    (s := fun a b => decide (a.1 ≤ b.1)) fun _ _ _ _ => rfl).symm

end Json

/-- A record whose numbers are unified. -/
def Record.unified (r : Record) : Record := ⟨Value.unifiedFields r.fields⟩

/-- **A record keeps its canonical text** when its numbers are unified. -/
theorem Record.canonical_unified (r : Record) : r.unified.canonical = r.canonical := by
  have htext : Json.ofRecordAt Json.canonical r.unified 0 = Json.ofRecordAt Json.canonical r 0 := by
    show Json.wrap _ _ _ (Json.fieldsAt _ (Json.sortFields (Value.unifiedFields r.fields)) _) _ = _
    rw [Json.sortFields_unified, Json.fieldsAt_unified]
    rfl
  exact congrArg String.ofList htext

theorem Record.canonical_eq_of_unified {r r' : Record} (h : r.unified = r'.unified) :
    r.canonical = r'.canonical := by
  rw [← canonical_unified r, ← canonical_unified r', h]

/-- Records of one column with a number each have one canonical text only if the numbers have. -/
theorem Record.ofNumber_eq_of_canonical {name : String} {a b : Number}
    (h : Record.canonical ⟨[(name, .number a)]⟩ = Record.canonical ⟨[(name, .number b)]⟩) :
    Json.ofNumber Json.canonical a = Json.ofNumber Json.canonical b := by
  have htext : ∀ r : Number, Json.ofRecordAt Json.canonical ⟨[(name, .number r)]⟩ 0 =
      '\x7b' :: (Json.quote name ++ [':'] ++ Json.ofNumber Json.canonical r ++ ['\x7d']) := fun r => by
    show Json.wrap _ _ _ (Json.fieldsAt _ (Json.sortFields [(name, .number r)]) 1) 0 = _
    unfold Json.sortFields
    rw [mergeSort_singleton]
    simp [Json.fieldsAt, Json.wrap, Json.join, Json.pair, Json.ofValueAt, Json.canonical]
  have hchars := String.ofList_injective h
  rw [htext, htext] at hchars
  exact append_cancel_left (append_cancel_right (cons.inj hchars).2)

/-- Of records that are told apart by their canonical texts no two are equal when their numbers are
unified. -/
theorem nodup_unified_distinctBy {α : Type} (record : α → Record) (items : List α) :
    ((distinctBy (fun a => (record a).canonical) items).map fun a => (record a).unified).Nodup := by
  have hkeys := nodup_map_distinctBy (fun a => (record a).canonical) items
  rw [Nodup, pairwise_map] at hkeys ⊢
  exact hkeys.imp fun hne heq => hne (Record.canonical_eq_of_unified heq)

/-- A record is among others by its canonical text if one of them is equal to it when their numbers
are unified. -/
theorem contains_canonical_of_unified {r row : Record} {rows : List Record} (hr : r ∈ rows)
    (h : row.unified = r.unified) : (rows.map Record.canonical).contains row.canonical = true := by
  rw [contains_iff_mem, Record.canonical_eq_of_unified h]
  exact mem_map_of_mem hr

/-! ### What has one spelling -/

/-- **One spelling for each number.** An integer and a finite floating-point number have one
canonical text just if the integer is what the other is written as. So they have one text just if
they are one number, unless what is written is not the number and the integer is one of the two.
What is written is the number just if no integer that ends in more zeros rounds to the number; up to
`2 ^ 53` none does. Records that are equal when their numbers are unified
have one text: DISTINCT and UNION keep one of them at most, and as rows of the other side they make
INTERSECT keep a row and EXCEPT leave it out. -/
theorem canonical_spelling (n : Int64) {x : Binary64} (hx : x.isFinite = true) :
    (Json.ofValue Json.canonical (.integer n) = Json.ofValue Json.canonical (.float x) ↔
      x.written? = some n.toInt) ∧
    ((Json.ofValue Json.canonical (.integer n) = Json.ofValue Json.canonical (.float x) ↔
        x.toInt? = some n.toInt) ↔
      x.written? = x.toInt? ∨ x.written? ≠ some n.toInt ∧ x.toInt? ≠ some n.toInt) ∧
    (x.written? = x.toInt? ↔
      ∀ (w m : Int) (e : Nat), x.toInt? = some w → Binary64.ofInt (m * 10 ^ e) = x → 10 ^ e ∣ w) ∧
    (x.Within 53 → x.written? = x.toInt?) ∧
    (x.toInt? = some n.toInt → x.written? = x.toInt? →
      (Value.float x).unified = (Value.integer n).unified) ∧
    (∀ r r' : Record, r.unified = r'.unified → r.canonical = r'.canonical) ∧
    (∀ (q : Query) (results : List Projected), q.distinct = true →
      ((q.distinctRows results).map fun p => p.record.unified).Nodup) ∧
    (∀ left right : List Record, ((SetOperator.union.apply left right).map Record.unified).Nodup) ∧
    (∀ (left right : List Record) (row r : Record), row ∈ left → r ∈ right →
      row.unified = r.unified →
        row ∈ SetOperator.intersect.apply left right ∧
          row ∉ SetOperator.except.apply left right) := by
  refine ⟨Json.ofValue_eq_iff hx, ?_, Binary64.written?_eq_toInt?_iff x,
    Binary64.written?_of_within, fun hvalue hwritten => ?_,
    fun r r' => Record.canonical_eq_of_unified, fun q results hdistinct => ?_, fun left right => ?_,
    fun left right row r hrow hr heq => ?_⟩
  · rw [Json.ofValue_eq_iff hx]
    constructor
    · intro hiff
      by_cases hn : x.toInt? = some n.toInt
      · exact .inl ((hiff.2 hn).trans hn.symm)
      · exact .inr ⟨mt hiff.1 hn, hn⟩
    · rintro (heq | ⟨hwritten, hvalue⟩)
      · rw [heq]
      · exact iff_of_false hwritten hvalue
  · exact congrArg Value.number (Number.unified_float hvalue hwritten)
  · unfold Query.distinctRows
    rw [if_pos hdistinct]
    exact nodup_unified_distinctBy Projected.record results
  · exact nodup_unified_distinctBy id (left ++ right)
  · have hcontains := contains_canonical_of_unified hr heq
    refine ⟨mem_filter.2 ⟨hrow, hcontains⟩, fun hmem => ?_⟩
    have hnot := (mem_filter.1 hmem).2
    rw [hcontains] at hnot
    cases hnot

/-- Five as an integer and as a floating-point number: one text, and one row. -/
theorem canonical_spelling_five :
    let x := Binary64.ofInt 5
    let r : Record := ⟨[("a", .integer 5)]⟩
    let r' : Record := ⟨[("a", .float x)]⟩
    let q : Query := ⟨true, [], ⟨none, "t", none⟩, [], none, [], none, [], none⟩
    x.isFinite = true ∧ x.Within 53 ∧ x.toInt? = some (5 : Int64).toInt ∧
      Json.ofValue Json.canonical (.integer 5) = Json.ofValue Json.canonical (.float x) ∧
      r.unified = r'.unified ∧ r.canonical = r'.canonical ∧
      ((q.distinctRows [⟨r, []⟩, ⟨r', []⟩]).map fun p => p.record.unified).Nodup ∧
      r' ∈ SetOperator.intersect.apply [r'] [r] ∧ r' ∉ SetOperator.except.apply [r'] [r] := by
  intro x r r' q
  have hfinite : x.isFinite = true := by decide +kernel
  have hx : x.Within 53 := Binary64.within_ofInt (by decide) (by decide)
  have hvalue : x.toInt? = some (5 : Int64).toInt := by decide +kernel
  obtain ⟨-, hspelled, -, hwithin, hunified, hrecords, hdistinct, -, hsets⟩ :=
    canonical_spelling 5 hfinite
  have hwritten := hwithin hx
  have hrow : r.unified = r'.unified :=
    congrArg (fun v => Record.mk [("a", v)]) (hunified hvalue hwritten).symm
  obtain ⟨hkept, hdropped⟩ := hsets [r'] [r] r' r (mem_singleton.2 rfl) (mem_singleton.2 rfl) hrow.symm
  exact ⟨hfinite, hx, hvalue, (hspelled.2 (.inl hwritten)).2 hvalue, hrow, hrecords r r' hrow,
    hdistinct q _ rfl, hkept, hdropped⟩

/-- `2 ^ 60` as a floating-point number is written like another integer: it has not the text of the
integer, but that of the other one, and as rows it and the integer are two. -/
theorem canonical_spelling_rounded :
    let x := Binary64.ofInt (2 ^ 60)
    let r : Record := ⟨[("a", .integer (2 ^ 60))]⟩
    let r' : Record := ⟨[("a", .float x)]⟩
    x.isFinite = true ∧ x.toInt? = some (2 ^ 60 : Int64).toInt ∧
      x.toInt? ≠ some (1152921504606847000 : Int64).toInt ∧
      Json.ofValue Json.canonical (.integer (2 ^ 60)) ≠ Json.ofValue Json.canonical (.float x) ∧
      Json.ofValue Json.canonical (.integer 1152921504606847000) =
        Json.ofValue Json.canonical (.float x) ∧
      SetOperator.union.apply [r] [r'] = [r, r'] := by
  intro x r r'
  have hfinite : x.isFinite = true := by decide +kernel
  have hvalue : x.toInt? = some (2 ^ 60 : Int64).toInt := by decide +kernel
  have hother : x.toInt? ≠ some (1152921504606847000 : Int64).toInt := by decide +kernel
  have hwritten : x.written? = some (1152921504606847000 : Int64).toInt := by decide +kernel
  have hne : x.written? ≠ some (2 ^ 60 : Int64).toInt := by decide +kernel
  have htext : Json.ofNumber Json.canonical (.integer (2 ^ 60)) ≠
      Json.ofNumber Json.canonical (.float x) := mt (Json.ofNumber_eq_iff hfinite).1 hne
  have hrow : r.canonical ≠ r'.canonical := mt Record.ofNumber_eq_of_canonical htext
  refine ⟨hfinite, hvalue, hother, mt (Json.ofValue_eq_iff hfinite).1 hne,
    (Json.ofValue_eq_iff hfinite).2 hwritten, ?_⟩
  rw [SetOperator.apply]
  simp [distinctBy, distinctFrom, hrow.symm]

end RowQuery
