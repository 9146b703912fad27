/-
# Partitions by several expressions

A window finds the rows of its partition by one text for all partition expressions, in which
bars stand between the texts of their values. Rows with the same texts are always in one
partition. The converse holds for one expression, and else only as far as the bars can be told
apart from those within the texts: `x|y` and `z` make the same key as `x` and `y|z`. Where no
text but the last has more bars on one row than on the other, the texts can be read off the
key, and the partition is made of the rows that have the same.

Key definitions: `joinedTexts`, `Value.bars`.
Key theorems: `eq_of_intercalate_eq`, `texts_eq_iff`, `partitions_by_joined_texts`,
`partitions_collide`.
-/
import RowQuery.Proofs.Window

namespace RowQuery

open List

/-! ### Joined texts -/

section Joined

variable {sep : Char}

/-- What is before a separator is known from the text, if the number of separators in it is. -/
theorem append_cons_inj_of_count : ∀ {x y u v : List Char}, x.count sep = y.count sep →
    x ++ sep :: u = y ++ sep :: v → x = y ∧ u = v
  | [], [], u, v, _, h => by simpa using h
  | [], d :: y, u, v, hcount, h => by
    have hd : sep = d := by simpa using congrArg head? h
    simp [hd] at hcount
  | c :: x, [], u, v, hcount, h => by
    have hc : c = sep := by simpa using congrArg head? h
    simp [hc] at hcount
  | c :: x, d :: y, u, v, hcount, h => by
    rw [cons_append, cons_append, cons.injEq] at h
    obtain ⟨rfl, h⟩ := h
    have hrest : x.count sep = y.count sep := by
      by_cases hc : c = sep
      · simpa [hc] using hcount
      · simpa [count_cons_of_ne hc] using hcount
    have ih := append_cons_inj_of_count hrest h
    simpa using ih

/-- **Texts are known from what they are joined to**, if in each but the last the number of
separators is. -/
theorem eq_of_intercalate_eq : ∀ {xs ys : List (List Char)}, xs.length = ys.length →
    xs.dropLast.map (count sep) = ys.dropLast.map (count sep) →
    [sep].intercalate xs = [sep].intercalate ys → xs = ys
  | [], [], _, _, _ => rfl
  | [x], [y], _, _, h => by simpa using h
  | x :: x' :: xs, y :: y' :: ys, hlength, hcount, h => by
    simp only [dropLast_cons_cons, map_cons, cons.injEq] at hcount
    simp only [intercalate_cons_cons, append_assoc, singleton_append] at h
    obtain ⟨rfl, hrest⟩ := append_cons_inj_of_count hcount.1 h
    have hlength : (x' :: xs).length = (y' :: ys).length := by simpa using hlength
    rw [eq_of_intercalate_eq hlength hcount.2 hrest]

end Joined

/-- The texts of values, with bars between them. -/
def joinedTexts (values : List Value) : String := "|".intercalate (values.map Value.text)

/-- How many bars the text of a value has. -/
def Value.bars (v : Value) : Nat := v.text.toList.count '|'

section Keys

variable {values values' : List Value}

theorem toList_joinedTexts (values : List Value) :
    (joinedTexts values).toList = ['|'].intercalate (values.map fun v => v.text.toList) := by
  unfold joinedTexts
  rw [String.toList_intercalate, map_map]
  rfl

/-- The keys of as many values are equal just if the joined texts are. -/
theorem partitionKey_eq_iff (hlength : values.length = values'.length) :
    partitionKey values = partitionKey values' ↔ joinedTexts values = joinedTexts values' := by
  cases values with
  | nil =>
    obtain rfl : values' = [] := length_eq_zero_iff.1 hlength.symm
    simp
  | cons v values =>
    cases values' with
    | nil => cases hlength
    | cons v' values' => rfl

/-- **Values have the same texts** exactly if they have the same key, and the texts of all but the
last have as many bars. -/
theorem texts_eq_iff (hlength : values.length = values'.length) :
    values.map Value.text = values'.map Value.text ↔
      partitionKey values = partitionKey values' ∧
        values.dropLast.map Value.bars = values'.dropLast.map Value.bars := by
  have hbars : ∀ vs : List Value, (vs.map fun v => v.text.toList).dropLast.map (count '|') =
      vs.dropLast.map Value.bars := by
    intro vs
    rw [← map_dropLast, map_map]
    rfl
  have hchars : ∀ vs : List Value, (vs.map Value.text).map String.toList =
      vs.map fun v => v.text.toList := fun vs => by simp
  have htexts : values.map Value.text = values'.map Value.text ↔
      (values.map fun v => v.text.toList) = values'.map fun v => v.text.toList := by
    rw [← hchars, ← hchars]
    exact (map_injective_iff.2 fun _ _ => String.toList_inj.1).eq_iff.symm
  rw [htexts, partitionKey_eq_iff hlength, ← String.toList_inj, toList_joinedTexts,
    toList_joinedTexts, ← hbars, ← hbars]
  constructor
  · intro heq
    rw [heq]
    exact ⟨rfl, rfl⟩
  · rintro ⟨hjoined, hcount⟩
    exact eq_of_intercalate_eq (by simp [hlength]) hcount hjoined

end Keys

/-- **Partitions are made by joined texts.** Let partition expressions have values on a row, and
then on all rows that windows range over. A window on this row is evaluated over the rows whose
values have the joined texts of its own. A row with the same texts is one of them; one of them has the same
texts exactly if none of these, the last apart, has more bars on one of the two rows than on the
other. -/
theorem partitions_by_joined_texts (run : Runner) (partitionBy : List Expr) {rows : List Record}
    {row : Record} {s s₁ s₂ : Session} {key : List Value} {keys : List (List Value)}
    (hrows : s.population = some rows)
    (hkey : (Expr.evaluateAll run partitionBy row).run.run s = (.ok key, s₁))
    (hkeys : (rows.mapM fun r => Expr.evaluateAll run partitionBy r).run.run s₁ =
      (.ok keys, s₂)) :
    let counted (values : List Value) : Bool := joinedTexts values == joinedTexts key
    keys.length = rows.length ∧
    (∀ name args orderBy,
      ((Expr.window name args partitionBy orderBy).evaluate run row).run.run s =
        (Expr.overPartition run name args orderBy row
          (((rows.zip keys).filter fun p => counted p.2).map Prod.fst)).run.run s₂) ∧
    ∀ values ∈ keys, values.map Value.text = key.map Value.text ↔
      counted values ∧ values.dropLast.map Value.bars = key.dropLast.map Value.bars := by
  intro counted
  have hlength : key.length = partitionBy.length :=
    Expr.evaluateAll_gives run row partitionBy s key s₁ hkey
  obtain ⟨hrowsLength, hkeysLength⟩ :=
    Exec.Gives.mapM (fun r _ => Expr.evaluateAll_gives run r partitionBy) s₁ keys s₂ hkeys
  have hlengths : ∀ values ∈ keys, values.length = key.length := fun values hvalues =>
    (hkeysLength values hvalues).trans hlength.symm
  have hcounted : ∀ values ∈ keys,
      (partitionKey values == partitionKey key) = counted values := by
    intro values hvalues
    rw [Bool.eq_iff_iff, beq_iff_eq, beq_iff_eq]
    exact partitionKey_eq_iff (hlengths values hvalues)
  refine ⟨hrowsLength, fun name args orderBy => ?_, fun values hvalues => ?_⟩
  · have hpartition : ((rows.zip keys).filter fun p => partitionKey p.2 == partitionKey key) =
        (rows.zip keys).filter fun p => counted p.2 :=
      filter_congr fun p hp => hcounted p.2 (of_mem_zip hp).2
    rw [Expr.window_run hrows hkey hkeys, hpartition]
  · rw [texts_eq_iff (hlengths values hvalues), ← hcounted values hvalues, beq_iff_eq]

/-- Of three rows that windows range over, the first has the joined texts of both others: those of
the second have the bar in another place, the third has the same. -/
theorem partitions_by_joined_texts_bar :
    let run := (Engine.executor ⟨.memory [], {}⟩).executeTo 0
    let partitionBy : List Expr := [.identifier "a", .identifier "b"]
    let row (a b c : String) : Record :=
      ⟨[("a", .string a), ("b", .string b), ("c", .string c)]⟩
    let rows : List Record := [row "x|y" "z" "1", row "x" "y|z" "2", row "x|y" "z" "3"]
    let key : List Value := [.string "x|y", .string "z"]
    let keys : List (List Value) := [key, [.string "x", .string "y|z"], key]
    let s : Session := { Session.start with population := some rows }
    (Expr.evaluateAll run partitionBy (row "x|y" "z" "1")).run.run s = (.ok key, s) ∧
      (rows.mapM fun r => Expr.evaluateAll run partitionBy r).run.run s = (.ok keys, s) ∧
      ((Expr.window "COUNT" [.star] partitionBy []).evaluate run (row "x|y" "z" "1")).run.run s =
        (.ok (.integer 3), s) := by
  intro run partitionBy row rows key keys s
  have hkey : (Expr.evaluateAll run partitionBy (row "x|y" "z" "1")).run.run s = (.ok key, s) := by
    simp only [partitionBy, Expr.evaluateAll, Expr.evaluate]
    rfl
  have hkeys : (rows.mapM fun r => Expr.evaluateAll run partitionBy r).run.run s =
      (.ok keys, s) := by
    simp only [partitionBy, Expr.evaluateAll, Expr.evaluate]
    rfl
  obtain ⟨-, hwindow, -⟩ := partitions_by_joined_texts run partitionBy rfl hkey hkeys
  have hcounted : ((rows.zip keys).filter fun p => joinedTexts p.2 == joinedTexts key).map
      Prod.fst = rows := by
    have htrue : ∀ p ∈ rows.zip keys, joinedTexts p.2 == joinedTexts key := by
      simp only [rows, keys, zip_cons_cons, zip_nil_right, forall_mem_cons]
      exact ⟨by decide +kernel, by decide +kernel, by decide +kernel, forall_mem_nil _⟩
    rw [filter_eq_self.2 htrue]
    rfl
  refine ⟨hkey, hkeys, ?_⟩
  rw [hwindow, hcounted]
  simp only [Expr.overPartition, Aggregate.ofName?, Expr.aggregate]
  rfl

/-- **Two rows with different texts in one partition**: the window on the first counts both. -/
theorem partitions_collide :
    let run := (Engine.executor ⟨.memory [], {}⟩).executeTo 0
    let first : Record := ⟨[("a", .string "x|y"), ("b", .string "z")]⟩
    let second : Record := ⟨[("a", .string "x"), ("b", .string "y|z")]⟩
    let s : Session := { Session.start with population := some [first, second] }
    ((Expr.window "COUNT" [.star] [.identifier "a", .identifier "b"] []).evaluate run
        first).run.run s = (.ok (.integer 2), s) ∧
      ∀ name ∈ ["a", "b"], (s.resolve first name).text ≠ (s.resolve second name).text := by
  intro run first second s
  let partitionBy : List Expr := [.identifier "a", .identifier "b"]
  let key : List Value := [.string "x|y", .string "z"]
  let other : List Value := [.string "x", .string "y|z"]
  have hkey : (Expr.evaluateAll run partitionBy first).run.run s = (.ok key, s) := by
    simp only [partitionBy, Expr.evaluateAll, Expr.evaluate]
    rfl
  have hkeys : ([first, second].mapM fun r => Expr.evaluateAll run partitionBy r).run.run s =
      (.ok [key, other], s) := by
    simp only [partitionBy, Expr.evaluateAll, Expr.evaluate]
    rfl
  have hsame : partitionKey other = partitionKey key := by decide +kernel
  refine ⟨?_, by decide +kernel⟩
  rw [Expr.window_run rfl hkey hkeys]
  simp only [zip_cons_cons, zip_nil_right, filter_cons, filter_nil, hsame, beq_self_eq_true,
    if_true, map_cons, map_nil, Expr.overPartition, Aggregate.ofName?, Expr.aggregate]
  rfl

end RowQuery
