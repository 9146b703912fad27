/-
# Integers and their texts are interchangeable

A table that is read from one kind of file holds integers where the same table
from another kind of file holds strings that write them. Nothing that is done to
values tells the two apart: number, text, truth, nullity and presence are the
same. So a statement that does not tell rows apart by their canonical texts has
corresponding results on both tables.

Key definitions: `Value.Twin`, `Statement.ComparesNoRows`, `Coupling.twins`.
Key theorems: `Value.Twin.readAlike`, `run_twins`.
-/
import RowQuery.Proofs.Coupling.Engine
import RowQuery.Proofs.Number.Numeral

namespace RowQuery

open List

/-! ### Values -/

namespace Value

/-- Equal values, or an integer and the string of its decimal text. -/
inductive Twin : Value → Value → Prop where
  | refl (v : Value) : Twin v v
  | string (n : Int64) : Twin (.integer n) (.string (String.ofList (Numeral.ofInt n.toInt)))
  | integer (n : Int64) : Twin (.string (String.ofList (Numeral.ofInt n.toInt))) (.integer n)

theorem ofInt_ne_zero {n : Int} (hn : n ≠ 0) : Numeral.ofInt n ≠ ['0'] := by
  intro h
  have hzero := Numeral.integer?_ofInt n
  rw [h] at hzero
  exact hn (Option.some.inj hzero).symm

theorem not_false_ofInt (n : Int) :
    Text.asciiLower (String.ofList (Numeral.ofInt n)) ≠ "false" := by
  intro h
  have hmem : 'f' ∈ (Numeral.ofInt n).map Char.toLower := by
    have hlist := congrArg String.toList h
    simp only [Text.asciiLower, String.toList_ofList] at hlist
    rw [hlist]
    decide
  obtain ⟨c, hc, hf⟩ := mem_map.1 hmem
  rcases Numeral.mem_ofInt hc with rfl | hdigit
  · exact absurd hf (by decide)
  · rw [(toLower_of_isDigit hdigit).symm.trans hf] at hdigit
    exact absurd hdigit (by decide)

/-- A string of digits is true like the integer: zero is written in one way only. -/
theorem isTrue_ofInt (n : Int64) :
    isTrue (.string (String.ofList (Numeral.ofInt n.toInt))) = isTrue (.integer n) := by
  have hempty : (String.ofList (Numeral.ofInt n.toInt) == "") = false := by
    rw [beq_eq_false_iff_ne]
    intro h
    exact Numeral.ofInt_ne_nil _ (by simpa using congrArg String.toList h)
  have hfalse : (Text.asciiLower (String.ofList (Numeral.ofInt n.toInt)) == "false") = false :=
    beq_eq_false_iff_ne.2 (not_false_ofInt _)
  simp only [isTrue, hempty, hfalse, Bool.false_or]
  by_cases hn : n = 0
  · subst hn
    decide
  · have hzero : (String.ofList (Numeral.ofInt n.toInt) == "0") = false := by
      rw [beq_eq_false_iff_ne]
      intro h
      have hint : n.toInt ≠ 0 := fun h => hn (Int64.toInt_inj.1 h)
      exact ofInt_ne_zero hint (by simpa using congrArg String.toList h)
    rw [hzero, (bne_iff_ne (a := n)).2 hn]
    rfl

theorem readAlike_ofInt (n : Int64) :
    ReadAlike (.integer n) (.string (String.ofList (Numeral.ofInt n.toInt))) where
  number := (numberOfString?_ofInt n).symm
  text := rfl
  truth := (isTrue_ofInt n).symm
  null := rfl
  present := by
    have hne : String.ofList (Numeral.ofInt n.toInt) ≠ "" := by
      intro h
      exact Numeral.ofInt_ne_nil _ (by simpa using congrArg String.toList h)
    exact (bne_iff_ne.2 hne).symm
  boolean _ := ⟨fun h => (nomatch h), fun h => (nomatch h)⟩

/-- **Nothing tells an integer and its text apart.** -/
theorem Twin.readAlike {a b : Value} (h : Twin a b) : a.ReadAlike b := by
  cases h with
  | refl => exact .refl a
  | string n => exact readAlike_ofInt n
  | integer n => exact (readAlike_ofInt n).symm

end Value

/-! ### Statements -/

/-- A statement that does not compare rows by their canonical texts: one without DISTINCT, without
ROW_NUMBER and without set operations other than UNION ALL, at any depth. -/
structure Statement.ComparesNoRows (s : Statement) : Prop where
  distinct : .distinct ∉ s.features true
  setOperation (op : SetOperator) : op ≠ .unionAll → .setOperation op ∉ s.features true
  rowNumber (sheltered : Bool) : .window "ROW_NUMBER" sheltered ∉ s.features true

/-- The coupling of executions on tables that differ only in how integers are written. -/
abbrev Coupling.twins : Coupling := .ofSources Value.Twin False

namespace Coupling

theorem twins_lawful : twins.Lawful where
  alike h := h.readAlike
  plain v _ := .refl v
  number _ _ := .refl _
  canonical h := h.elim
  push hxy h := .cons hxy h

theorem twins_admits {s : Statement} (hs : s.ComparesNoRows) : twins.AdmitsAll (s.features true) := by
  intro x hx
  cases x with
  | literal v => exact .refl v
  | window name sheltered =>
    refine ⟨.inr trivial, ?_⟩
    rintro rfl
    exact (hs.rowNumber sheltered hx).elim
  | table t => trivial
  | sortKey => trivial
  | distinct => exact (hs.distinct hx).elim
  | setOperation op =>
    by_cases hop : op = .unionAll
    · exact .inl hop
    · exact (hs.setOperation op hop hx).elim

end Coupling

/-- **A statement answers alike on integers and on their texts**: with the same failure, that names
keys that differ only in how integers are written if it is one to sort, or with rows of the same
columns that differ only so. It asks for the same tables. -/
theorem run_twins {source source' : Source} (hsource : SourceLike Value.Twin source source')
    (options : Options) {s : Statement} (hs : s.ComparesNoRows) :
    ResultLike Value.Twin (FailureLike Value.Twin) (Engine.run ⟨source, options⟩ s).1
        (Engine.run ⟨source', options⟩ s).1 ∧
      (Engine.run ⟨source, options⟩ s).2 = (Engine.run ⟨source', options⟩ s).2 :=
  run_of_sourceLike options options Coupling.twins_lawful hsource rfl rfl rfl (.inl rfl)
    (Coupling.twins_admits hs)

/-- A table of the least integer, or of its text. -/
theorem run_twins_least :
    let table (v : Value) : Source := .memory [("t", [⟨[("a", v)]⟩])]
    let least : Source := table (.integer Int64.minValue)
    let text : Source := table (.string "-9223372036854775808")
    let s : Statement := .ofQuery (.all "t")
    SourceLike Value.Twin least text ∧ s.ComparesNoRows ∧
      ResultLike Value.Twin (FailureLike Value.Twin) (Engine.run ⟨least, {}⟩ s).1
        (Engine.run ⟨text, {}⟩ s).1 := by
  intro table least text s
  have hvalue : Value.Twin (.integer Int64.minValue) (.string "-9223372036854775808") :=
    .string Int64.minValue
  have hsource : SourceLike Value.Twin least text :=
    .memory (.cons ⟨rfl, .cons (.cons ⟨rfl, hvalue⟩ .nil) .nil⟩ .nil)
  have hs : s.ComparesNoRows := by
    constructor <;> simp [s, Statement.ofQuery, Query.all]
  exact ⟨hsource, hs, (run_twins hsource {} hs).1⟩

end RowQuery
