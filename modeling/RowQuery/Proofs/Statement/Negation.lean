/-
# Signs never overflow

Wherever in a text a minus sign stands, and whatever is read behind it through
more signs and parentheses, an integer that is read there has an opposite of 64
bits. For the digits of an integer are read before its signs, and those above
`2 ^ 63 - 1` are a floating-point number; and the range up to there is closed
under negation.

Key definition: `Expr.Negatable`.
Key theorem: `negation_exact`.
-/
import RowQuery.Proofs.Statement.Literal

namespace RowQuery

open List

attribute [local irreducible] Binary64.one Binary64.limit

/-- The range of integers that are written, which is the same on both sides of zero. -/
theorem Value.Written.bounds {n : Int64} (h : (Value.integer n).Written) :
    -(2 ^ 63 - 1) ≤ n.toInt ∧ n.toInt ≤ 2 ^ 63 - 1 := by
  have hlow : -2 ^ 63 < n.toInt := h
  have hhigh := n.toInt_lt
  omega

/-- If an operand is an integer, its opposite is one of 64 bits. -/
def Expr.Negatable (e : Expr) : Prop :=
  ∀ n : Int64, e = .literal (.integer n) → (-n).toInt = -n.toInt

theorem Expr.negatable_of_written {e : Expr} (h : e.Written) : e.Negatable := by
  rintro n rfl
  exact toInt_neg_of_lt (Literals.of_literal h)

/-- An integer that occurs in written pieces is in range. -/
theorem Literals.bounds {features : Bool → List Feature} (h : Literals Value.Written features)
    (b : Bool) {n : Int64} (hn : .literal (.integer n) ∈ features b) :
    -(2 ^ 63 - 1) ≤ n.toInt ∧ n.toInt ≤ 2 ^ 63 - 1 :=
  Value.Written.bounds (h b _ hn)

namespace Grammar

theorem primary_of_integer (g : Grammar) {s : Reading} (h : s.current.kind = .integer) :
    ((primary g).run s).1 = .literal (integerLiteral s.current.literal) := by
  have hlook : ∀ k : Token → Reader Expr, (Reader.current >>= k).run s = (k s.current).run s :=
    fun _ => rfl
  rw [primary, hlook, h]
  rfl

end Grammar

open Grammar in
/-- **Signs never overflow.** In the tree of any text, be it a statement, an expression or neither,
every integer literal is between `-(2 ^ 63 - 1)` and `2 ^ 63 - 1`. Wherever in the text a reader
stands, what signs and parentheses have it read is negated without overflow, however deep it nests;
and digits that it reads are an integer up to `2 ^ 63 - 1` and a floating-point number above. -/
theorem negation_exact (text : String) :
    (∀ b n, .literal (.integer n) ∈ (Statement.readText text).1.features b →
      -(2 ^ 63 - 1) ≤ n.toInt ∧ n.toInt ≤ 2 ^ 63 - 1) ∧
    (∀ b n, .literal (.integer n) ∈ (Expr.readText text).1.features b →
      -(2 ^ 63 - 1) ≤ n.toInt ∧ n.toInt ≤ 2 ^ 63 - 1) ∧
    ∀ s : Reading, s.rest <:+ Token.ofText text →
      (∀ depth signs, ((signed (ofDepth depth) signs).run s).1.Negatable) ∧
      ∀ g, s.current.kind = .integer →
        let value := Numeral.ofDigits s.current.literal.toList
        (value ≤ 2 ^ 63 - 1 → ∃ n : Int64, n.toInt = value ∧
          ((primary g).run s).1 = .literal (.integer n)) ∧
        (2 ^ 63 - 1 < value → ∃ x, Numeral.binary64? s.current.literal.toList = some x ∧
          ((primary g).run s).1 = .literal (.float x)) := by
  refine ⟨fun b _ => (Statement.written_readText text).bounds b,
    fun b _ => (Expr.written_readText text).bounds b, fun s hs => ?_⟩
  have htokens : ∀ t ∈ s.rest, t.Digital := fun t ht =>
    Token.digital_ofText text t (hs.subset ht)
  refine ⟨fun depth signs => ?_, fun g hkind => ?_⟩
  · exact Expr.negatable_of_written (written_signed (written_ofDepth depth) signs s htokens).1
  · have hcurrent : s.current.Digital := (current_digital s htokens).1
    have hdigits := hcurrent.integer hkind
    dsimp only
    rw [primary_of_integer g hkind]
    constructor
    · intro hle
      obtain ⟨n, hn, hvalue⟩ := integerLiteral_of_lt hdigits (by omega)
      exact ⟨n, hvalue, congrArg Expr.literal hn⟩
    · intro hlt
      obtain ⟨x, hx, hread, -⟩ := integerLiteral_of_le hdigits (by omega)
      exact ⟨x, hread, congrArg Expr.literal hx⟩

open Grammar in
/-- Signs and parentheses around the most digits that are an integer, and one more than these. -/
theorem negation_exact_nested :
    let least : Int64 := -9223372036854775807
    let inner := Reading.ofText "-(-9223372036854775807)"
    let beyond := Reading.ofText "9223372036854775808"
    (Expr.readText "-(-(-9223372036854775807))").1 = .literal (.integer least) ∧
      -(2 ^ 63 - 1) ≤ least.toInt ∧
      ((signed (ofDepth 5) 5).run inner).1.Negatable ∧
      beyond.current.kind = .integer ∧
      ∃ x, ((primary exhausted).run beyond).1 = .literal (.float x) := by
  intro least inner beyond
  have hread : (Expr.readText "-(-(-9223372036854775807))").1 = .literal (.integer least) := by
    with_unfolding_all rfl
  have hkind : beyond.current.kind = .integer := by with_unfolding_all rfl
  have hvalue : 2 ^ 63 - 1 < Numeral.ofDigits beyond.current.literal.toList := by
    have hliteral : beyond.current.literal = "9223372036854775808" := by with_unfolding_all rfl
    rw [hliteral]
    decide
  have hrange := (negation_exact "-(-(-9223372036854775807))").2.1 true least (by simp [hread])
  have hnegatable := ((negation_exact "-(-9223372036854775807)").2.2 inner suffix_rfl).1 5 5
  obtain ⟨x, -, hfloat⟩ := (((negation_exact "9223372036854775808").2.2 beyond suffix_rfl).2
    exhausted hkind).2 hvalue
  exact ⟨hread, hrange.1, hnegatable, hkind, x, hfloat⟩

end RowQuery
