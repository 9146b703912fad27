/-
# Values that read alike

Two values *read alike* if nothing that operators and functions look at tells
them apart: number, text, truth, nullity, presence, and which boolean they are.
So the result of an operation is one on values that read alike. It holds
not-a-number only if an operand does.

Key definitions: `Value.isNaN`, `Value.ReadAlike`.
Key theorems: `ReadAlike.apply_eq`, `apply_isNaN`, `eq_number_of_isNaN`,
`Function.onText_congr`.
-/
import RowQuery.Evaluation.Function
import RowQuery.Proofs.Number.Finite

namespace RowQuery

/-! ### Values that read alike -/

namespace Value

/-- A cell that holds not-a-number. -/
def isNaN : Value → Bool
  | .number n => n.isNaN
  | _ => false

/-- Values that nothing but their storage tells apart. -/
structure ReadAlike (a b : Value) : Prop where
  number : a.toNumber? = b.toNumber?
  text : a.text = b.text
  truth : a.isTrue = b.isTrue
  null : a.isNull = b.isNull
  present : Function.isPresent a = Function.isPresent b
  boolean (c : Bool) : a = .boolean c ↔ b = .boolean c

theorem ReadAlike.refl (v : Value) : v.ReadAlike v := ⟨rfl, rfl, rfl, rfl, rfl, fun _ => Iff.rfl⟩

namespace ReadAlike

variable {a a' b b' : Value}

theorem symm (h : a.ReadAlike b) : b.ReadAlike a :=
  ⟨h.number.symm, h.text.symm, h.truth.symm, h.null.symm, h.present.symm, fun c => (h.boolean c).symm⟩

theorem compare_eq (h : a.ReadAlike a') (h' : b.ReadAlike b') : a.compare b = a'.compare b' := by
  unfold Value.compare
  rw [h.number, h'.number, h.text, h'.text]

theorem same_eq (h : a.ReadAlike a') (h' : b.ReadAlike b') : a.same b = a'.same b' := by
  unfold Value.same
  rw [h.compare_eq h']

theorem key_eq (h : a.ReadAlike b) : a.key = b.key := by
  unfold Value.key
  rw [h.number, h.text]

theorem like_eq (h : a.ReadAlike a') (h' : b.ReadAlike b') : a.like b = a'.like b' := by
  unfold Value.like
  rw [h.text, h'.text]

theorem arithmetic_eq (h : a.ReadAlike a') (h' : b.ReadAlike b')
    (op : Number → Number → Option Number) : arithmetic op a b = arithmetic op a' b' := by
  unfold arithmetic
  rw [h.number, h'.number]

/-- An operator does not tell values apart that read alike. -/
theorem apply_eq (h : a.ReadAlike a') (h' : b.ReadAlike b') (op : BinaryOp) :
    op.apply a b = op.apply a' b' := by
  cases op with
  | add | subtract | multiply | divide => exact h.arithmetic_eq h' _
  | and => simp only [BinaryOp.apply, h.truth, h'.truth]
  | _ => simp only [BinaryOp.apply, h.compare_eq h']

end ReadAlike

/-! ### Results that are not not-a-number -/

theorem ofNumber?_isNaN {r : Option Number} (h : ∀ n, r = some n → n.isNaN = false) :
    (ofNumber? r).isNaN = false := by
  cases r with
  | none => rfl
  | some n => exact h n rfl

theorem arithmetic_isNaN {op : Number → Number → Option Number}
    (h : ∀ m n r, op m n = some r → r.isFinite = true) (a b : Value) :
    (arithmetic op a b).isNaN = false := by
  unfold arithmetic
  split
  · exact ofNumber?_isNaN fun _ hr => Number.isNaN_of_isFinite (h _ _ _ hr)
  · rfl

theorem apply_isNaN (op : BinaryOp) (a b : Value) : (op.apply a b).isNaN = false := by
  cases op with
  | add => exact arithmetic_isNaN (fun _ _ _ => Number.add?_isFinite) a b
  | subtract => exact arithmetic_isNaN (fun _ _ _ => Number.sub?_isFinite) a b
  | multiply => exact arithmetic_isNaN (fun _ _ _ => Number.mul?_isFinite) a b
  | divide => exact arithmetic_isNaN (fun _ _ _ => Number.div?_isFinite) a b
  | _ => rfl

/-- A string writes no not-a-number. -/
theorem numberOfString?_isNaN {s : String} {n : Number} (h : numberOfString? s = some n) :
    n.isNaN = false := by
  unfold numberOfString? at h
  dsimp only at h
  split at h
  · cases h; rfl
  · obtain ⟨x, -, hx⟩ := Option.bind_eq_some_iff.1 h
    exact Number.isNaN_of_isFinite (Number.ofFinite?_isFinite hx)

theorem eq_number_of_isNaN {v : Value} {n : Number} (h : v.toNumber? = some n)
    (hn : n.isNaN = true) : v = .number n := by
  cases v with
  | number m => exact congrArg Value.number (Option.some.inj h)
  | string s => exact nomatch (numberOfString?_isNaN h).symm.trans hn
  | null | boolean | array | object => cases h

end Value

namespace Function

theorem onText_isNaN {f : List Char → Value} (h : ∀ text, (f text).isNaN = false) (v : Value) :
    (onText f v).isNaN = false := by
  unfold onText
  split
  · rfl
  · exact h _

theorem substringOf_isNaN (v start : Value) (count : Option Value) :
    (substringOf v start count).isNaN = false := by
  refine onText_isNaN (fun text => ?_) v
  split
  · dsimp only
    split
    · rfl
    · split
      · rfl
      · split <;> rfl
  · rfl

theorem matchPattern_isNaN (v pattern : Value) : (matchPattern v pattern).isNaN = false := by
  unfold matchPattern
  split
  · exact onText_isNaN (fun _ => rfl) v
  · rfl

/-- A text function depends on the text of a value and on whether it is null. -/
theorem onText_eq (f : List Char → Value) (v : Value) :
    onText f v = if v.isNull then .null else f v.text.toList := by
  cases v <;> rfl

section ReadAlike

variable {v v' a a' b b' : Value}

theorem onText_congr (h : v.ReadAlike v') (f : List Char → Value) : onText f v = onText f v' := by
  rw [onText_eq, onText_eq, h.null, h.text]

theorem substringOf_congr (h : v.ReadAlike v') (ha : a.ReadAlike a') {count count' : Option Value}
    (hc : Option.Rel Value.ReadAlike count count') :
    substringOf v a count = substringOf v' a' count' := by
  unfold substringOf
  rw [onText_congr h, ha.number]
  cases hc with
  | none => rfl
  | some hc => simp only [hc.number]

theorem matchPattern_congr (h : v.ReadAlike v') (ha : a.ReadAlike a') :
    matchPattern v a = matchPattern v' a' := by
  unfold matchPattern
  rw [ha.text]
  split
  · exact onText_congr h _
  · rfl

theorem onNumber_congr (h : v.ReadAlike v') (f : Number → Option Number) :
    onNumber f v = onNumber f v' := by
  unfold onNumber
  rw [h.number]

theorem digits?_congr (h : v.ReadAlike v') : digits? v = digits? v' := by
  unfold digits?
  rw [h.number]

end ReadAlike

end Function

end RowQuery
