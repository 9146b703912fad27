/-
# Sums and means of a group

The sum of integers is the same in every order of the rows in which no addition loses
anything: it is the number nearest to the exact sum, an integer if this has 64 bits.
There is nothing to lose in any order if the integers above zero and those below have
sums of 64 bits. In other groups an order may lose digits that another keeps, as a total
that has left the 64 bits is rounded.

The mean is the sum by the count of the numbers. Where the sum is null, as the total has
left the range of the finite numbers, the mean is not: it takes the total for zero.

Key theorems: `sum_independent_of_order`, `sum_depends_on_order`, `mean_follows_sum`,
`mean_without_sum`.
-/
import RowQuery.Evaluation.Statement
import RowQuery.Proofs.Aggregate
import RowQuery.Proofs.Number.Sum
import RowQuery.Source.Memory

namespace RowQuery

attribute [local irreducible] Binary64.one Binary64.limit

/-! ### Sums -/

/-- Integers are the numbers that they have. -/
theorem Value.filterMap_toNumber?_integer (ns : List Int64) :
    (ns.map integer).filterMap toNumber? = ns.map Number.integer := by
  rw [List.filterMap_map, ← List.filterMap_eq_map]
  rfl

/-- **The sum of integers does not depend on their order**, where no addition loses anything. Let
an argument have integers for its values on the rows of a group, in any order of theirs. If no
addition in this order loses anything, as in no order if the integers are settled, then SUM is the
number nearest to the exact sum of the integers: the sum itself if it has 64 bits, and else the
floating-point number that it is rounded to. -/
theorem sum_independent_of_order (run : Runner) (e : Expr) (rest : List Expr)
    {ns ms : List Int64} (hperm : ms.Perm ns) {group : List Record} {s s' : Session}
    (h : (group.mapM fun r => e.evaluate run r).run.run s = (.ok (ms.map Value.integer), s'))
    (hunrounded : Unrounded 0 ms ∨ Settled ns) :
    let total := (ns.map Int64.toInt).sum
    ∃ r : Number, (Expr.aggregate run (e :: rest) .sum group).run.run s = (.ok (.number r), s') ∧
      (∀ w : Int64, w.toInt = total → r = .integer w) ∧
      ((∀ w : Int64, w.toInt ≠ total) → r = .float (.ofInt total)) := by
  intro total
  have hrun : Unrounded 0 ms := hunrounded.elim id fun hsettled => (hsettled.perm hperm).unrounded
  have htotal : (ms.map Int64.toInt).sum = total := (hperm.map _).sum_eq
  have hsum : Aggregate.sum.ofNumbers ((ms.map Value.integer).filterMap Value.toNumber?) =
      .number (.ofInt total) := by
    rw [Value.filterMap_toNumber?_integer, ← htotal]
    exact congrArg Value.ofNumber? (Number.sum?_of_unrounded hrun)
  refine ⟨.ofInt total, ?_, ?_, fun hnone => ?_⟩
  · rw [Expr.aggregate_run h rest (by decide), hsum]
  · rintro w hw
    rw [← hw, Number.ofInt_toInt]
  · have hword : ¬ IsWord total := fun hword => by
      obtain ⟨w, hw⟩ := exists_toInt_of_isWord hword
      exact hnone w hw
    exact Number.ofInt_of_not_isWord hword

/-- A total that leaves the 64 bits and comes back, without a digit lost on the way. -/
theorem sum_independent_of_order_returning :
    let run := (Engine.executor ⟨.memory [], {}⟩).executeTo 0
    let ns : List Int64 := [2 ^ 62, -2 ^ 62, 2 ^ 62]
    let ms : List Int64 := [2 ^ 62, 2 ^ 62, -2 ^ 62]
    let group : List Record := (ms.map Value.integer).map fun v => ⟨[("a", v)]⟩
    ms.Perm ns ∧
      (group.mapM fun r => (Expr.identifier "a").evaluate run r).run.run .start =
        (.ok (ms.map Value.integer), .start) ∧
      Unrounded 0 ms ∧
      (Expr.aggregate run [.identifier "a"] .sum group).run.run .start =
        (.ok (.integer (2 ^ 62)), .start) := by
  intro run ns ms group
  have hperm : ms.Perm ns := .cons _ (.swap _ _ _)
  have hvalues := Expr.column_run run "a" .start (ms.map Value.integer)
  have hunrounded : Unrounded 0 ms := by decide +kernel
  obtain ⟨r, hsum, hinteger, -⟩ := sum_independent_of_order run (.identifier "a") [] hperm
    hvalues (.inl hunrounded)
  rw [hinteger (2 ^ 62) (by decide +kernel)] at hsum
  exact ⟨hperm, hvalues, hunrounded, hsum⟩

/-- The greatest integer twice and its opposite: the total leaves the 64 bits if the two are added
first. It is rounded there, and so is the opposite; the sum is the floating-point number `2 ^ 63`. -/
theorem sum_depends_on_order :
    let run := (Engine.executor ⟨.memory [], {}⟩).executeTo 0
    let great : Int64 := 2 ^ 63 - 1
    let ns : List Int64 := [great, -great, great]
    let ms : List Int64 := [great, great, -great]
    let group (ns : List Int64) : List Record :=
      (ns.map Value.integer).map fun v => ⟨[("a", v)]⟩
    ms.Perm ns ∧ (ns.map Int64.toInt).sum = great.toInt ∧
      (Expr.aggregate run [.identifier "a"] .sum (group ns)).run.run .start =
        (.ok (.integer great), .start) ∧
      (Expr.aggregate run [.identifier "a"] .sum (group ms)).run.run .start =
        (.ok (.float (.ofInt (2 ^ 63))), .start) := by
  intro run great ns ms group
  have hsum : ∀ {ks : List Int64} {r : Number}, Number.sum? (ks.map Number.integer) = some r →
      (Expr.aggregate run [.identifier "a"] .sum (group ks)).run.run .start =
        (.ok (.number r), .start) := fun {ks r} h => by
    rw [Expr.aggregate_run (Expr.column_run run "a" .start (ks.map Value.integer)) [] (by decide),
      Value.filterMap_toNumber?_integer]
    exact congrArg (fun r => (Except.ok (Value.ofNumber? r), Session.start)) h
  exact ⟨by decide +kernel, by decide +kernel, hsum (by decide +kernel), hsum (by decide +kernel)⟩

/-! ### Means -/

/-- **The mean is the sum by the count, where there is a sum.** Let an argument have values on the
rows of a group. Then SUM and AVG have values. If there are numbers and SUM is one, AVG is the
floating-point number of it by their count. SUM is null exactly if the total leaves the range of the
finite numbers on the way; and AVG is zero then. So AVG is null with SUM unless the total leaves
the range; it is null only where there are no numbers. -/
theorem mean_follows_sum (run : Runner) (e : Expr) (rest : List Expr) (group : List Record)
    {values : List Value} {s s' : Session}
    (h : (group.mapM fun r => e.evaluate run r).run.run s = (.ok values, s')) :
    let numbers := values.filterMap Value.toNumber?
    ∃ total mean : Value,
      (Expr.aggregate run (e :: rest) .sum group).run.run s = (.ok total, s') ∧
      (Expr.aggregate run (e :: rest) .avg group).run.run s = (.ok mean, s') ∧
      (numbers ≠ [] → ∀ r, total = .number r →
        mean = .float (r.toBinary64 / .ofInt numbers.length)) ∧
      (total = .null ↔ Number.LeavesRange numbers) ∧
      (total = .null → mean = .float (.zero false)) ∧
      (mean = .null ↔ ∀ v ∈ values, v.toNumber? = none) ∧
      ((total = .null → mean = .null) ↔ ¬ Number.LeavesRange numbers) := by
  intro numbers
  have hsum : Value.ofNumber? (Number.sum? numbers) = .null ↔ Number.LeavesRange numbers :=
    Value.ofNumber?_eq_null_iff.trans Number.sum?_eq_none_iff
  have hzero : Value.ofNumber? (Number.sum? numbers) = .null →
      Value.ofNumber? (Number.mean? numbers) = .float (.zero false) := fun hnull =>
    congrArg Value.ofNumber? (Number.mean?_of_sum?_eq_none (Value.ofNumber?_eq_null_iff.1 hnull))
  refine ⟨_, _, Expr.aggregate_run h rest (by decide), Expr.aggregate_run h rest (by decide),
    fun hne r hr => ?_, hsum, hzero, ?_, ?_⟩
  · have htotal : Number.sum? numbers = some r := Value.ofNumber?_eq_number_iff.1 hr
    exact congrArg Value.ofNumber? (Number.mean?_of_sum? hne htotal)
  · exact (Value.ofNumber?_eq_null_iff.trans Number.mean?_eq_none_iff).trans
      List.filterMap_eq_nil_iff
  · rw [← hsum]
    constructor
    · intro himp hnull
      exact nomatch (hzero hnull).symm.trans (himp hnull)
    · exact fun hne hnull => absurd hnull hne

/-- A group with an integer, null, a string that writes a number and another text. -/
theorem mean_follows_sum_mixed :
    let run := (Engine.executor ⟨.memory [], {}⟩).executeTo 0
    let values : List Value := [.integer 3, .null, .string "7", .string "x"]
    let group : List Record := values.map fun v => ⟨[("a", v)]⟩
    (group.mapM fun r => (Expr.identifier "a").evaluate run r).run.run .start =
        (.ok values, .start) ∧
      (Expr.aggregate run [.identifier "a"] .sum group).run.run .start =
        (.ok (.integer 10), .start) ∧
      (Expr.aggregate run [.identifier "a"] .avg group).run.run .start =
        (.ok (.float (.ofInt 10 / .ofInt 2)), .start) := by
  intro run values group
  have hvalues := Expr.column_run run "a" .start values
  have hnumbers : values.filterMap Value.toNumber? = [.integer 3, .integer 7] := by decide +kernel
  obtain ⟨total, mean, htotal, hmean, hquotient, -⟩ :=
    mean_follows_sum run (.identifier "a") [] group hvalues
  rw [hnumbers] at hquotient
  have hten : total = .integer 10 := by
    have hsum := Expr.aggregate_run (a := .sum) hvalues [] (by decide)
    rw [hnumbers] at hsum
    have hten : Number.sum? [.integer 3, .integer 7] = some (.integer 10) := by decide +kernel
    exact (Except.ok.inj (congrArg Prod.fst (htotal.symm.trans hsum))).trans
      (congrArg Value.ofNumber? hten)
  have hfive := hquotient (by decide) (.integer 10) hten
  rw [hten] at htotal
  rw [hfive] at hmean
  exact ⟨hvalues, htotal, hmean⟩

/-- Two numbers whose total is out of range: there is no sum, and the mean is zero. -/
theorem mean_without_sum :
    let run := (Engine.executor ⟨.memory [], {}⟩).executeTo 0
    let great : Value := .float (.ofDecimal false 1 308)
    let group : List Record := [great, great].map fun v => ⟨[("a", v)]⟩
    (Expr.aggregate run [.identifier "a"] .sum group).run.run .start = (.ok .null, .start) ∧
      (Expr.aggregate run [.identifier "a"] .avg group).run.run .start =
        (.ok (.float (.zero false)), .start) := by
  intro run great group
  have hvalues := Expr.column_run run "a" .start [great, great]
  have hsum : Number.sum? ([great, great].filterMap Value.toNumber?) = none := by decide +kernel
  constructor
  · rw [Expr.aggregate_run hvalues [] (by decide)]
    exact congrArg (fun r => (Except.ok (Value.ofNumber? r), Session.start)) hsum
  · rw [Expr.aggregate_run hvalues [] (by decide)]
    exact congrArg (fun r => (Except.ok (Value.ofNumber? r), Session.start))
      (Number.mean?_of_sum?_eq_none hsum)

end RowQuery
