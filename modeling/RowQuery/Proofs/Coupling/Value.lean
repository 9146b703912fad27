/-
# Operators and functions on corresponding values

A lawful coupling relates only values that read alike, and relates to itself
whatever an operation can make. Operations on corresponding values then have
corresponding results; what is more, most have the same.

Key definition: `Coupling.Lawful`.
Key theorems: `Lawful.binary`, `Lawful.call`, `Lawful.ofNumbers`.
-/
import RowQuery.Proofs.Coupling.Basic
import RowQuery.Proofs.Value.Alike

namespace RowQuery

/-! ### Lawful couplings -/

namespace Coupling

/-- What makes the operations of expressions respect a coupling. -/
structure Lawful (R : Coupling) : Prop where
  alike {a b : Value} : R.value a b → a.ReadAlike b
  /-- Whatever an operation can make corresponds to itself. -/
  plain (v : Value) : v.isNaN = false → R.value v v
  /-- So does the number of a value that corresponds to one. -/
  number {a b : Value} {n : Number} : R.value a b → a.toNumber? = some n →
    R.value (.number n) (.number n)
  canonical {r r' : Record} : R.identity → R.Row r r' → r.canonical = r'.canonical
  push {x y : Scope} {xs ys : List Scope} : ScopeLike R.value x y → R.scopes xs ys →
    R.scopes (x :: xs) (y :: ys)

namespace Lawful

variable {R : Coupling} (laws : R.Lawful)

include laws

theorem null : R.value .null .null := laws.plain .null rfl

theorem boolean {b b' : Bool} (h : b = b') : R.value (.boolean b) (.boolean b') :=
  h ▸ laws.plain (.boolean b) rfl

/-- Equal values that are not not-a-number correspond. -/
theorem of_eq {a b : Value} (h : a = b) (ha : a.isNaN = false) : R.value a b := h ▸ laws.plain a ha

theorem binary {a a' b b' : Value} (h : R.value a a') (h' : R.value b b') (op : BinaryOp) :
    R.value (op.apply a b) (op.apply a' b') :=
  laws.of_eq ((laws.alike h).apply_eq (laws.alike h') op) (Value.apply_isNaN op a b)

/-! ### Functions -/

theorem onText {v v' : Value} (h : R.value v v') {f : List Char → Value}
    (hf : ∀ text, (f text).isNaN = false) : R.value (Function.onText f v) (Function.onText f v') :=
  laws.of_eq (Function.onText_congr (laws.alike h) f) (Function.onText_isNaN hf v)

theorem substringOf {v v' a a' : Value} (h : R.value v v') (ha : R.value a a')
    {count count' : Option Value} (hc : Option.Rel R.value count count') :
    R.value (Function.substringOf v a count) (Function.substringOf v' a' count') := by
  refine laws.of_eq ?_ (Function.substringOf_isNaN v a count)
  refine Function.substringOf_congr (laws.alike h) (laws.alike ha) ?_
  cases hc with
  | none => exact .none
  | some hc => exact .some (laws.alike hc)

theorem matchPattern {v v' a a' : Value} (h : R.value v v') (ha : R.value a a') :
    R.value (Function.matchPattern v a) (Function.matchPattern v' a') :=
  laws.of_eq (Function.matchPattern_congr (laws.alike h) (laws.alike ha))
    (Function.matchPattern_isNaN v a)

theorem onNumber {v v' : Value} (h : R.value v v') {f : Number → Option Number}
    (hf : ∀ n r, f n = some r → r.isNaN = true → r = n) :
    R.value (Function.onNumber f v) (Function.onNumber f v') := by
  rw [← Function.onNumber_congr (laws.alike h)]
  unfold Function.onNumber
  split
  · rename_i r hr
    obtain ⟨n, hn, hr⟩ := Option.bind_eq_some_iff.1 hr
    cases hNaN : r.isNaN with
    | false => exact laws.plain _ hNaN
    | true =>
      rw [hf n r hr hNaN]
      exact laws.number h hn
  · exact laws.null

theorem round {v v' : Value} (h : R.value v v') (digits : Nat) :
    R.value (Function.onNumber (·.round? digits) v) (Function.onNumber (·.round? digits) v') :=
  laws.onNumber h fun _ _ hr hNaN => nomatch (Number.round?_isNaN hr).symm.trans hNaN

theorem replaceIn {v v' a a' b b' : Value} (h : R.value v v') (ha : R.value a a')
    (hb : R.value b b') : R.value (Function.replaceIn v a b) (Function.replaceIn v' a' b') := by
  have hnull : ∀ v a b, Function.replaceIn v a b = if v.isNull then .null else
      if a.text.isEmpty then v else
        Function.ofChars (Text.replace a.text.toList b.text.toList v.text.toList) :=
    fun v _ _ => by cases v <;> rfl
  rw [hnull, hnull, (laws.alike h).null, (laws.alike h).text, (laws.alike ha).text,
    (laws.alike hb).text]
  split
  · exact laws.null
  · split
    · exact h
    · exact laws.plain _ rfl

theorem coalesce {args args' : List Value} (h : List.Forall₂ R.value args args') :
    R.value ((args.find? Function.isPresent).getD .null)
      ((args'.find? Function.isPresent).getD .null) := by
  induction h with
  | nil => exact laws.null
  | cons h _ ih =>
    rw [List.find?_cons, List.find?_cons, (laws.alike h).present]
    split
    · exact h
    · exact ih

theorem texts {args args' : List Value} (h : List.Forall₂ R.value args args') :
    args.map Value.text = args'.map Value.text := by
  induction h with
  | nil => rfl
  | cons h _ ih => rw [List.map_cons, List.map_cons, (laws.alike h).text, ih]

/-- A function of corresponding arguments. Where the number of arguments is not one that the
function has, it gives null on both sides. -/
theorem apply (f : Function) {args args' : List Value} (h : List.Forall₂ R.value args args') :
    R.value (f.apply args) (f.apply args') := by
  cases f with
  | coalesce => exact laws.coalesce h
  | concat =>
    show R.value (.string (String.join (args.map Value.text)))
      (.string (String.join (args'.map Value.text)))
    rw [laws.texts h]
    exact laws.plain _ rfl
  | choose =>
    rcases h with _ | ⟨hc, _ | ⟨hy, _ | ⟨hn, _ | _⟩⟩⟩
    case cons.cons.cons.nil =>
      show R.value (if _ then _ else _) (if _ then _ else _)
      rw [(laws.alike hc).truth]
      split
      · exact hy
      · exact hn
    all_goals exact laws.null
  | substring =>
    rcases h with _ | ⟨hv, _ | ⟨hs, _ | ⟨hc, _ | _⟩⟩⟩
    case cons.cons.nil =>
      exact laws.substringOf hv hs .none
    case cons.cons.cons.nil =>
      exact laws.substringOf hv hs (.some hc)
    all_goals exact laws.null
  | length | upper | lower | trim =>
    rcases h with _ | ⟨hv, _ | _⟩
    case cons.nil =>
      simp only [Function.apply]
      exact laws.onText hv fun _ => rfl
    all_goals exact laws.null
  | abs =>
    rcases h with _ | ⟨hv, _ | _⟩
    case cons.nil => exact laws.onNumber hv fun _ _ => Number.abs?_isNaN
    all_goals exact laws.null
  | round =>
    rcases h with _ | ⟨hv, _ | ⟨hd, _ | _⟩⟩
    case cons.nil => exact laws.round hv 0
    case cons.cons.nil =>
      simp only [Function.apply, ← Function.digits?_congr (laws.alike hd)]
      split
      · exact laws.round hv _
      · exact laws.null
    all_goals exact laws.null
  | replace =>
    rcases h with _ | ⟨hv, _ | ⟨ha, _ | ⟨hb, _ | _⟩⟩⟩
    case cons.cons.cons.nil => exact laws.replaceIn hv ha hb
    all_goals exact laws.null
  | regexpLike =>
    rcases h with _ | ⟨hv, _ | ⟨hp, _ | _⟩⟩
    case cons.cons.nil =>
      exact laws.matchPattern hv hp
    all_goals exact laws.null

/-- **A call of corresponding arguments** has corresponding values. -/
theorem call (name : String) {args args' : List Value} (h : List.Forall₂ R.value args args') :
    R.value (Function.call name args) (Function.call name args') := by
  unfold Function.call
  split
  · exact laws.apply _ h
  · exact laws.null

/-! ### Aggregates -/

theorem numbers_eq {values values' : List Value} (h : List.Forall₂ R.value values values') :
    values.filterMap Value.toNumber? = values'.filterMap Value.toNumber? := by
  induction h with
  | nil => rfl
  | cons h _ ih => rw [List.filterMap_cons, List.filterMap_cons, (laws.alike h).number, ih]

theorem number_mem {values values' : List Value} (h : List.Forall₂ R.value values values')
    {n : Number} (hn : n ∈ values.filterMap Value.toNumber?) : R.value (.number n) (.number n) := by
  induction h with
  | nil => cases hn
  | cons h _ ih =>
    rw [List.filterMap_cons] at hn
    split at hn
    · exact ih hn
    · rename_i m hm
      rcases List.mem_cons.1 hn with rfl | hn
      · exact laws.number h hm
      · exact ih hn

theorem ofNumber? {r : Option Number} (h : ∀ n, r = some n → R.value (.number n) (.number n)) :
    R.value (Value.ofNumber? r) (Value.ofNumber? r) := by
  cases r with
  | none => exact laws.null
  | some n => exact h n rfl

/-- An aggregate of numbers of cells corresponds to itself. The least and the greatest are among
them, all else is computed. -/
theorem ofNumbers (f : Aggregate) {numbers : List Number}
    (h : ∀ n ∈ numbers, R.value (.number n) (.number n)) :
    R.value (f.ofNumbers numbers) (f.ofNumbers numbers) := by
  cases f with
  | count => exact laws.null
  | sum =>
    exact laws.ofNumber? fun n hn =>
      laws.plain (.number n) (Number.isNaN_of_isFinite (Number.sum?_isFinite hn))
  | avg => exact laws.ofNumber? fun n hn => laws.plain (.number n) (Number.mean?_isNaN hn)
  | min => exact laws.ofNumber? fun n hn => h n (Number.least?_mem hn)
  | max => exact laws.ofNumber? fun n hn => h n (Number.greatest?_mem hn)
  | diff =>
    refine laws.ofNumber? fun n hn => laws.plain (.number n) (Number.isNaN_of_isFinite ?_)
    obtain ⟨_, -, hn⟩ := Option.bind_eq_some_iff.1 hn
    obtain ⟨_, -, hn⟩ := Option.bind_eq_some_iff.1 hn
    exact Number.sub?_isFinite hn

end Lawful

end Coupling

end RowQuery
