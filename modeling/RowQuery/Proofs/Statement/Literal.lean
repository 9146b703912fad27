/-
# The literals of a text

A literal of a tree that is read from a text is null, a boolean, a string, or the
number that a token writes, possibly negated. So it is *written*: it is not
not-a-number, and it is not the least integer of 64 bits, as the digits of an
integer are read before its signs. The opposite of a written number is written.

The text may be no statement. This goes through the grammar level by level, as
the grammar is made; what is nested is written by the bound on nesting.

Key definitions: `Literals`, `Plain`, `Value.Written`, `Grammar.Written`.
Key theorems: `Grammar.written_negate`, `Grammar.written_next`,
`Statement.written_readText`, `Expr.written_readText`, `Statement.plain_ofText`.
-/
import RowQuery.Proofs.Coupling.Value
import RowQuery.Proofs.Feature
import RowQuery.Proofs.Statement.Reader
import RowQuery.Proofs.Token.Numeral

namespace RowQuery

open List

attribute [local irreducible] Binary64.one Binary64.limit

/-! ### Literals by the parts of a statement -/

/-- A literal with a property; what is no literal has it anyway. -/
def Feature.Obeys (P : Value → Prop) : Feature → Prop
  | .literal v => P v
  | _ => True

/-- Pieces of which all literals have a property, at any place. -/
def Literals (P : Value → Prop) (features : Bool → List Feature) : Prop :=
  ∀ b, ∀ x ∈ features b, x.Obeys P

namespace Literals

variable {P Q : Value → Prop} {xs ys : Bool → List Feature}

theorem mono (h : Literals P xs) (hPQ : ∀ v, P v → Q v) : Literals Q xs := by
  intro b x hx
  have hobeys := h b x hx
  cases x with
  | literal v => exact hPQ v hobeys
  | _ => exact trivial

theorem nil : Literals P fun _ => [] := fun _ _ h => nomatch h

theorem cons {x : Bool → Feature} (hx : ∀ b, (x b).Obeys P) (h : Literals P xs) :
    Literals P fun b => x b :: xs b :=
  fun b => forall_mem_cons.2 ⟨hx b, h b⟩

theorem append (hx : Literals P xs) (hy : Literals P ys) : Literals P fun b => xs b ++ ys b :=
  fun b => forall_mem_append.2 ⟨hx b, hy b⟩

/-- At a place that is known. -/
theorem at_place (h : Literals P xs) (b : Bool) : Literals P fun _ => xs b := fun _ => h b

theorem exprs : ∀ {es : List Expr}, (∀ e ∈ es, Literals P e.features) →
    Literals P (exprsFeatures · es)
  | [], _ => by simpa only [exprsFeatures] using nil
  | e :: rest, h => by
    obtain ⟨he, hrest⟩ := forall_mem_cons.1 h
    simpa only [exprsFeatures] using append he (exprs hrest)

theorem keys : ∀ {ks : List SortKey}, (∀ k ∈ ks, Literals P k.expr.features) →
    Literals P (keysFeatures · ks)
  | [], _ => by simpa only [keysFeatures] using nil
  | ⟨e, _⟩ :: rest, h => by
    obtain ⟨he, hrest⟩ := forall_mem_cons.1 h
    simpa only [keysFeatures] using
      cons (x := fun _ => .sortKey) (fun _ => trivial) (append he (keys hrest))

theorem branches : ∀ {bs : List Branch},
    (∀ b ∈ bs, Literals P b.condition.features ∧ Literals P b.result.features) →
    Literals P (branchesFeatures · bs)
  | [], _ => by simpa only [branchesFeatures] using nil
  | ⟨condition, result⟩ :: rest, h => by
    obtain ⟨⟨hc, hr⟩, hrest⟩ := forall_mem_cons.1 h
    simpa only [branchesFeatures] using append hc (append hr (branches hrest))

theorem option {o : Option Expr} (h : ∀ e ∈ o, Literals P e.features) :
    Literals P (optionFeatures · o) := by
  cases o with
  | none => simpa only [optionFeatures] using nil
  | some e => simpa only [optionFeatures] using h e rfl

theorem items : ∀ {is : List SelectItem}, (∀ i ∈ is, Literals P i.expr.features) →
    Literals P (itemsFeatures · is)
  | [], _ => by simpa only [itemsFeatures] using nil
  | ⟨e, _⟩ :: rest, h => by
    obtain ⟨he, hrest⟩ := forall_mem_cons.1 h
    simpa only [itemsFeatures] using append he (items hrest)

theorem joins : ∀ {js : List Join}, (∀ j ∈ js, ∀ e ∈ j.condition, Literals P e.features) →
    Literals P (joinsFeatures · js)
  | [], _ => by simpa only [joinsFeatures] using nil
  | ⟨_, table, condition⟩ :: rest, h => by
    obtain ⟨hc, hrest⟩ := forall_mem_cons.1 h
    simpa only [joinsFeatures] using
      cons (x := fun _ => .table table) (fun _ => trivial) (append (option hc) (joins hrest))

theorem tables : ∀ {ts : List TableExpr}, (∀ t ∈ ts, Literals P t.body.features) →
    Literals P (tablesFeatures · ts)
  | [], _ => by simpa only [tablesFeatures] using nil
  | ⟨_, body⟩ :: rest, h => by
    obtain ⟨hb, hrest⟩ := forall_mem_cons.1 h
    simpa only [tablesFeatures] using append hb (tables hrest)

theorem compound {o : Option Compound} (h : ∀ c ∈ o, Literals P c.right.features) :
    Literals P (compoundFeatures · o) := by
  cases o with
  | none => simpa only [compoundFeatures] using nil
  | some c =>
    obtain ⟨op, right⟩ := c
    simpa only [compoundFeatures] using
      cons (x := fun _ => .setOperation op) (fun _ => trivial) (h _ rfl)

theorem identifier (name : String) : Literals P (Expr.identifier name).features := by
  simpa only [Expr.features] using nil

theorem star : Literals P Expr.star.features := by simpa only [Expr.features] using nil

theorem literal {v : Value} (h : P v) : Literals P (Expr.literal v).features := by
  intro b
  simp only [Expr.features]
  exact forall_mem_singleton.2 h

theorem of_literal {v : Value} (h : Literals P (Expr.literal v).features) : P v :=
  h true (.literal v) (by simp)

theorem binary {left right : Expr} (hl : Literals P left.features) (op : BinaryOp)
    (hr : Literals P right.features) : Literals P (Expr.binary left op right).features := by
  simpa only [Expr.features] using append hl hr

theorem isNull {e : Expr} (h : Literals P e.features) (negated : Bool) :
    Literals P (Expr.isNull e negated).features := by
  simpa only [Expr.features] using h

theorem inList {left : Expr} (hl : Literals P left.features) {es : List Expr}
    (h : ∀ e ∈ es, Literals P e.features) (negated : Bool) :
    Literals P (Expr.inList left es negated).features := by
  simpa only [Expr.features] using append hl (exprs h)

theorem like {left pattern : Expr} (hl : Literals P left.features)
    (hp : Literals P pattern.features) (negated : Bool) :
    Literals P (Expr.like left pattern negated).features := by
  simpa only [Expr.features] using append hl hp

theorem call (name : String) {args : List Expr} (h : ∀ e ∈ args, Literals P e.features) :
    Literals P (Expr.call name args).features := by
  simpa only [Expr.features] using exprs h

theorem window (name : String) {args partitionBy : List Expr} {orderBy : List SortKey}
    (hargs : ∀ e ∈ args, Literals P e.features) (hpart : ∀ e ∈ partitionBy, Literals P e.features)
    (horder : ∀ k ∈ orderBy, Literals P k.expr.features) :
    Literals P (Expr.window name args partitionBy orderBy).features := by
  simpa only [Expr.features] using
    cons (x := .window name) (fun _ => trivial) (append (exprs hargs) (append (exprs hpart) (keys horder)))

theorem case {bs : List Branch}
    (h : ∀ b ∈ bs, Literals P b.condition.features ∧ Literals P b.result.features) {o : Option Expr}
    (ho : ∀ e ∈ o, Literals P e.features) : Literals P (Expr.case bs o).features := by
  simpa only [Expr.features] using append (branches h) (option ho)

theorem subquery {s : Statement} (h : Literals P s.features) :
    Literals P (Expr.subquery s).features := by
  simpa only [Expr.features] using h

theorem query {q : Query} (hitems : ∀ i ∈ q.items, Literals P i.expr.features)
    (hjoins : ∀ j ∈ q.joins, ∀ e ∈ j.condition, Literals P e.features)
    (hcondition : ∀ e ∈ q.condition, Literals P e.features)
    (hgroupBy : ∀ e ∈ q.groupBy, Literals P e.features)
    (hhaving : ∀ e ∈ q.having, Literals P e.features)
    (horderBy : ∀ k ∈ q.orderBy, Literals P k.expr.features) : Literals P q.features := by
  have hclauses := append (append (at_place (items hitems) true) (at_place (exprs hgroupBy) true))
    (append (at_place (option hhaving) true) (at_place (keys horderBy) true))
  have hdistinct : Literals P fun _ => if q.distinct then [Feature.distinct] else [] := by
    intro b
    split
    · exact forall_mem_singleton.2 trivial
    · exact forall_mem_nil _
  have hconditions := cons (x := fun _ => .table q.source) (fun _ => trivial)
    (append (joins hjoins) (option hcondition))
  obtain ⟨distinct, qitems, source, qjoins, condition, groupBy, having, orderBy, limit⟩ := q
  have h := append hdistinct (append hconditions hclauses)
  simpa only [Query.features, append_assoc, cons_append] using h

theorem statement {s : Statement} (htables : ∀ t ∈ s.tables, Literals P t.body.features)
    (hprimary : Literals P s.primary.features)
    (hcompound : ∀ c ∈ s.compound, Literals P c.right.features) : Literals P s.features := by
  obtain ⟨ts, primary, second⟩ := s
  simpa only [Statement.features] using
    append (tables htables) (append hprimary (compound hcompound))

end Literals

/-! ### Literals that are no not-a-number -/

/-- No literal that is not-a-number. -/
def Feature.Plain : Feature → Prop
  | .literal v => v.isNaN = false
  | _ => True

/-- Pieces without such literals, at any place. -/
def Plain (features : Bool → List Feature) : Prop := ∀ b, ∀ x ∈ features b, x.Plain

abbrev Expr.Plain (e : Expr) : Prop := RowQuery.Plain e.features

abbrev Join.Plain (j : Join) : Prop := ∀ e ∈ j.condition, e.Plain

abbrev Query.Plain (q : Query) : Prop := RowQuery.Plain q.features

abbrev Statement.Plain (s : Statement) : Prop := RowQuery.Plain s.features

theorem plain_iff {features : Bool → List Feature} :
    Plain features ↔ Literals (·.isNaN = false) features := by
  refine forall_congr' fun b => forall₂_congr fun x _ => ?_
  cases x <;> exact Iff.rfl

namespace Plain

theorem exprs {es : List Expr} (h : ∀ e ∈ es, e.Plain) : Plain (exprsFeatures · es) :=
  plain_iff.2 (.exprs fun e he => plain_iff.1 (h e he))

theorem joins {js : List Join} (h : ∀ j ∈ js, j.Plain) : Plain (joinsFeatures · js) :=
  plain_iff.2 (.joins fun j hj e he => plain_iff.1 (h j hj e he))

theorem identifier (name : String) : (Expr.identifier name).Plain :=
  plain_iff.2 (.identifier name)

theorem literal {v : Value} (h : v.isNaN = false) : (Expr.literal v).Plain :=
  plain_iff.2 (.literal h)

theorem binary {left right : Expr} (hl : left.Plain) (op : BinaryOp) (hr : right.Plain) :
    (Expr.binary left op right).Plain :=
  plain_iff.2 (.binary (plain_iff.1 hl) op (plain_iff.1 hr))

end Plain

/-! ### Values that a text can write -/

/-- The opposite of an integer other than the least one is one of 64 bits. -/
theorem toInt_neg_of_lt {n : Int64} (h : -2 ^ 63 < n.toInt) : (-n).toInt = -n.toInt := by
  have hupper := n.toInt_lt
  rw [Int64.toInt_neg]
  exact Int.bmod_eq_of_le (by omega) (by omega)

/-- Values that a text can write: strings, numbers and constants, but neither the least integer nor
not-a-number. -/
def Value.Written : Value → Prop
  | .null | .boolean _ | .string _ => True
  | .integer n => -2 ^ 63 < n.toInt
  | .float x => x ≠ .notANumber
  | .array _ | .object _ => False

theorem Value.Written.isNaN {v : Value} (h : v.Written) : v.isNaN = false := by
  cases v with
  | number n =>
    cases n with
    | integer n => rfl
    | float x => exact Number.isNaN_float h
  | array items => exact h.elim
  | object fields => exact h.elim
  | _ => rfl

abbrev Expr.Written (e : Expr) : Prop := Literals Value.Written e.features

abbrev SortKey.Written (k : SortKey) : Prop := k.expr.Written

abbrev Branch.Written (b : Branch) : Prop := b.condition.Written ∧ b.result.Written

abbrev SelectItem.Written (i : SelectItem) : Prop := i.expr.Written

abbrev Join.Written (j : Join) : Prop := ∀ e ∈ j.condition, e.Written

abbrev Query.Written (q : Query) : Prop := Literals Value.Written q.features

abbrev Statement.Written (s : Statement) : Prop := Literals Value.Written s.features

/-! ### Readers of expressions -/

open Reader

/-- Readers that make written pieces from tokens of numbers that are digits. -/
structure Grammar.Written (g : Grammar) : Prop where
  expression : Makes Token.Digital Expr.Written g.expression
  body : Makes Token.Digital Statement.Written g.body

namespace Grammar

theorem current_digital : Makes Token.Digital Token.Digital current :=
  Makes.current (.of_ne nofun nofun)

section Digits

variable {digits : String} (h : Numeral.IsDigits digits.toList)

include h

/-- Digits up to `2 ^ 63 - 1` are an integer. -/
theorem integerLiteral_of_lt (hlt : Numeral.ofDigits digits.toList < 2 ^ 63) : ∃ n : Int64,
    integerLiteral digits = .integer n ∧ n.toInt = Numeral.ofDigits digits.toList := by
  have hint := Numeral.int64?_of_digits h
  have hbounds : -2 ^ 63 ≤ (Numeral.ofDigits digits.toList : Int) ∧
      (Numeral.ofDigits digits.toList : Int) < 2 ^ 63 := by omega
  rw [int64OfInt?, if_pos hbounds] at hint
  refine ⟨_, ?_, Int64.toInt_ofInt_of_le hbounds.1 hbounds.2⟩
  unfold integerLiteral
  rw [hint]

/-- Digits beyond are the nearest floating-point number. -/
theorem integerLiteral_of_le (hle : 2 ^ 63 ≤ Numeral.ofDigits digits.toList) : ∃ x,
    integerLiteral digits = .float x ∧ Numeral.binary64? digits.toList = some x ∧
      x ≠ .notANumber := by
  have hint := Numeral.int64?_of_digits h
  have hbounds : ¬(-2 ^ 63 ≤ (Numeral.ofDigits digits.toList : Int) ∧
      (Numeral.ofDigits digits.toList : Int) < 2 ^ 63) := by omega
  obtain ⟨x, hx, hne⟩ := h.binary64?
  rw [int64OfInt?, if_neg hbounds] at hint
  refine ⟨x, ?_, hx, hne⟩
  unfold integerLiteral
  rw [hint, hx]
  rfl

end Digits

theorem written_integerLiteral {t : Token} (h : t.Digital) (hkind : t.kind = .integer) :
    (Expr.literal (integerLiteral t.literal)).Written := by
  have hdigits := h.integer hkind
  refine .literal ?_
  rcases Nat.lt_or_ge (Numeral.ofDigits t.literal.toList) (2 ^ 63) with hlt | hle
  · obtain ⟨n, hn, hvalue⟩ := integerLiteral_of_lt hdigits hlt
    rw [hn]
    show -2 ^ 63 < n.toInt
    omega
  · obtain ⟨x, hx, -, hne⟩ := integerLiteral_of_le hdigits hle
    rw [hx]
    exact hne

theorem written_decimalLiteral {t : Token} (h : t.Digital) (hkind : t.kind = .decimal) :
    (Expr.literal (decimalLiteral t.literal)).Written := by
  obtain ⟨x, hx, hne⟩ := h.numeric (.inr hkind)
  refine .literal ?_
  rw [decimalLiteral, hx]
  exact hne

/-- **The opposite of what is written is written.** -/
theorem written_negate {e : Expr} (h : e.Written) : (negate e).Written := by
  unfold negate
  split
  · rename_i n
    have hlow : -2 ^ 63 < n.toInt := Literals.of_literal h
    have hhigh := n.toInt_lt
    refine .literal ?_
    show -2 ^ 63 < (-n).toInt
    rw [toInt_neg_of_lt hlow]
    omega
  · rename_i x
    have hne : x ≠ .notANumber := Literals.of_literal h
    refine .literal ?_
    cases x with
    | finite => nofun
    | infinite => nofun
    | notANumber => exact absurd rfl hne
  · have hzero : (Value.integer 0).Written := by
      show -2 ^ 63 < (0 : Int64).toInt
      decide
    exact .binary (.literal hzero) _ h

section Levels

variable {expression : Reader Expr} (hexpression : Makes Token.Digital Expr.Written expression)

include hexpression

theorem written_sortKey : Makes Token.Digital SortKey.Written (sortKey expression) :=
  hexpression.bind fun _ he => (Makes.eat _).skip fun _ => .ite (.pure he)
    ((Makes.eat _).skip fun _ => .pure he)

theorem written_orderBy : Makes Token.Digital (∀ k ∈ ·, k.Written) (orderBy expression) :=
  (Makes.eat _).skip fun _ => .ite
    ((Makes.expect _ _).skip fun _ => .commaList (written_sortKey hexpression))
    (.pure (forall_mem_nil _))

/-- An expression that may be left out. -/
theorem written_clause (word : Keyword) :
    Makes Token.Digital (∀ e ∈ ·, Expr.Written e) (clause word expression) :=
  (Makes.eat _).skip fun _ => .ite
    (hexpression.bind fun _ he => .pure (by rintro _ ⟨⟩; exact he))
    (.pure (by rintro _ ⟨⟩))

end Levels

section Nested

variable {g : Grammar} (hg : g.Written)

include hg

theorem written_nested : Makes Token.Digital Expr.Written (nested g) :=
  (Makes.sees _).skip fun _ => (Makes.sees _).skip fun _ => .ite
    (hg.body.bind fun _ hs => .pure (.subquery hs)) hg.expression

theorem written_window (name : String) {args : List Expr} (hargs : ∀ e ∈ args, e.Written) :
    Makes Token.Digital Expr.Written (window g name args) := by
  have hrest : ∀ partitionBy : List Expr, (∀ e ∈ partitionBy, e.Written) →
      Makes Token.Digital Expr.Written (do
        let keys ← orderBy g.expression
        let _ ← expect .rightParen .closeOfWindow
        pure (.window name args partitionBy keys)) :=
    fun _ hpart => (written_orderBy hg.expression).bind fun _ horder =>
      (Makes.expect _ _).skip fun _ => .pure (.window name hargs hpart horder)
  refine Makes.advance.skip fun _ => (Makes.expect _ _).skip fun _ => (Makes.eat _).skip fun _ =>
    .ite ?_ (hrest [] (forall_mem_nil _))
  exact (Makes.expect _ _).skip fun _ => (Makes.commaList hg.expression).bind hrest

theorem written_call (name : String) : Makes Token.Digital Expr.Written (call g name) := by
  have hrest : ∀ args : List Expr, (∀ e ∈ args, e.Written) → Makes Token.Digital Expr.Written (do
      let _ ← expect .rightParen .closeOfCall
      if ← sees (.keyword .OVER) then window g (Text.asciiUpper name) args
      else pure (.call (Text.asciiUpper name) args)) :=
    fun _ hargs => (Makes.expect _ _).skip fun _ => (Makes.sees _).skip fun _ =>
      .ite (written_window hg _ hargs) (.pure (.call _ hargs))
  refine Makes.advance.skip fun _ => (Makes.sees _).skip fun _ =>
    .ite (hrest [] (forall_mem_nil _)) ?_
  exact (Makes.commaList hg.expression).bind hrest

theorem written_branches : ∀ n, Makes Token.Digital (∀ b ∈ ·, b.Written) (branches g n)
  | 0 => .pure (forall_mem_nil _)
  | n + 1 => (Makes.eat _).skip fun _ => .ite
      (hg.expression.bind fun _ hc => (Makes.expect _ _).skip fun _ =>
        hg.expression.bind fun _ hr => (written_branches n).bind fun _ hrest =>
          .pure (forall_mem_cons.2 ⟨⟨hc, hr⟩, hrest⟩))
      (.pure (forall_mem_nil _))

theorem written_caseExpr : Makes Token.Digital Expr.Written (caseExpr g) := by
  refine Makes.advance.skip fun _ => (Makes.bounded (written_branches hg)).bind fun bs hbs => ?_
  have hend : ∀ o : Option Expr, (∀ e ∈ o, e.Written) → Makes Token.Digital Expr.Written (do
      let _ ← expect (.keyword .END) .endOfCase
      pure (.case bs o)) :=
    fun _ ho => (Makes.expect _ _).skip fun _ => .pure (.case hbs ho)
  have hrest : Makes Token.Digital Expr.Written (do
      if ← eat (.keyword .ELSE) then
        let e ← g.expression
        let _ ← expect (.keyword .END) .endOfCase
        pure (.case bs (some e))
      else
        let _ ← expect (.keyword .END) .endOfCase
        pure (.case bs none)) := by
    refine (Makes.eat _).skip fun _ => .ite ?_ (hend none (by rintro _ ⟨⟩))
    exact hg.expression.bind fun e he => hend (some e) (by rintro _ ⟨⟩; exact he)
  exact .ite ((Makes.reportExpected _).skip fun _ => hrest) hrest

omit hg in
theorem written_stray (token : Token) : Makes Token.Digital Expr.Written (stray token) :=
  Makes.advance.skip fun _ => (Makes.reportAt _ _).skip fun _ => .pure (.literal trivial)

theorem written_primary : Makes Token.Digital Expr.Written (primary g) := by
  have take : ∀ e : Expr, e.Written → Makes Token.Digital Expr.Written (do let _ ← advance; pure e) :=
    fun _ he => Makes.advance.skip fun _ => .pure he
  refine current_digital.bind fun token htoken => ?_
  split
  · rename_i hkind
    exact take _ (written_integerLiteral htoken hkind)
  · rename_i hkind
    exact take _ (written_decimalLiteral htoken hkind)
  · exact take _ (.literal trivial)
  · exact take _ (.literal trivial)
  · exact take _ (.literal trivial)
  · exact take _ (.literal trivial)
  · exact take _ .star
  · exact Makes.advance.skip fun _ => (written_nested hg).bind fun _ he =>
      (Makes.expect _ _).skip fun _ => .pure he
  · exact written_caseExpr hg
  · exact Makes.advance.skip fun _ => (Makes.sees _).skip fun _ =>
      .ite (written_call hg _) (.pure (.identifier _))
  · exact written_stray token
  · exact (Makes.report _).skip fun _ => .pure (.literal trivial)
  · exact (Makes.report _).skip fun _ => take _ (.literal trivial)

/-! ### Readers of operators -/

theorem written_signed : ∀ n, Makes Token.Digital Expr.Written (signed g n)
  | 0 => written_primary hg
  | n + 1 => (Makes.eat _).skip fun _ => .ite
      ((written_signed n).bind fun _ he => .pure (written_negate he)) (written_primary hg)

omit hg in
theorem written_chain (operator? : TokenKind → Option BinaryOp) {operand : Reader Expr}
    (hoperand : Makes Token.Digital Expr.Written operand) : ∀ (n : Nat) {left : Expr}, left.Written →
    Makes Token.Digital Expr.Written (chain operator? operand n left)
  | 0, _, hl => .pure hl
  | n + 1, _, hl => by
    refine Makes.kind.skip fun k => ?_
    cases operator? k with
    | none => exact .pure hl
    | some op =>
      exact Makes.advance.skip fun _ => hoperand.bind fun _ hr =>
        written_chain operator? hoperand n (.binary hl op hr)

omit hg in
theorem written_leftAssociative (operator? : TokenKind → Option BinaryOp) {operand : Reader Expr}
    (hoperand : Makes Token.Digital Expr.Written operand) :
    Makes Token.Digital Expr.Written (leftAssociative operator? operand) :=
  hoperand.bind fun _ hl => .bounded fun n => written_chain operator? hoperand n hl

theorem written_sum : Makes Token.Digital Expr.Written (sum g) :=
  written_leftAssociative _ (written_leftAssociative _ (.bounded (written_signed hg)))

theorem written_inList {left : Expr} (hl : left.Written) (negated : Bool) :
    Makes Token.Digital Expr.Written (inList g left negated) := by
  have hrest : ∀ candidates : List Expr, (∀ e ∈ candidates, e.Written) →
      Makes Token.Digital Expr.Written (do
        let _ ← expect .rightParen .closeOfList
        pure (.inList left candidates negated)) :=
    fun _ h => (Makes.expect _ _).skip fun _ => .pure (.inList hl h negated)
  refine Makes.advance.skip fun _ => (Makes.expect _ _).skip fun _ => (Makes.sees _).skip fun _ =>
    (Makes.sees _).skip fun _ => .ite ?_ ((Makes.commaList hg.expression).bind hrest)
  exact hg.body.bind fun s hs => hrest [.subquery s] (forall_mem_singleton.2 (.subquery hs))

theorem written_like {left : Expr} (hl : left.Written) (negated : Bool) :
    Makes Token.Digital Expr.Written (like g left negated) :=
  Makes.advance.skip fun _ => (written_sum hg).bind fun _ hp => .pure (.like hl hp negated)

theorem written_comparison : Makes Token.Digital Expr.Written (comparison g) := by
  refine (written_sum hg).bind fun left hl => Makes.kind.skip fun k => ?_
  cases comparisonOperator? k with
  | some op =>
    exact Makes.advance.skip fun _ => (written_sum hg).bind fun _ hr => .pure (.binary hl op hr)
  | none =>
    dsimp only
    split
    · exact Makes.advance.skip fun _ => (Makes.eat _).skip fun _ => (Makes.expect _ _).skip fun _ =>
        .pure (.isNull hl _)
    · refine Makes.advance.skip fun _ => Makes.kind.skip fun k => ?_
      split
      · exact written_inList hg hl true
      · exact written_like hg hl true
      · exact (Makes.reportExpected _).skip fun _ => .pure hl
    · exact written_inList hg hl false
    · exact written_like hg hl false
    · exact .pure hl

omit hg in
theorem seesOr_any : Makes Token.Digital Any seesOr := current_digital.skip fun _ => .pure trivial

/-- **An expression is written**, and so are those that are dropped. -/
theorem written_disjunction : Makes Token.Digital Expr.Written (disjunction g) := by
  have hconjunction := written_leftAssociative andOperator? (written_comparison hg)
  refine hconjunction.bind fun e he => seesOr_any.skip fun _ => .ite ?_ (.pure he)
  exact (Makes.report _).skip fun _ => Makes.advance.skip fun _ => hconjunction.skip fun _ => .pure he

end Nested

/-! ### Readers of clauses -/

theorem optionalAlias_any (accepts : TokenKind → Bool) (what : Expectation) :
    Makes Token.Digital Any (optionalAlias accepts what) := by
  have htake : Makes Token.Digital (Any : Option String → Prop) (do
      let token ← advance
      pure (some token.literal)) :=
    Makes.advance.skip fun _ => .pure trivial
  refine (Makes.eat _).skip fun _ => .ite (Makes.kind.skip fun _ => .ite htake ?_) ?_
  · exact (Makes.reportExpected _).skip fun _ => .pure trivial
  · exact (Makes.sees _).skip fun _ => seesOr_any.skip fun _ => .ite htake (.pure trivial)

theorem sourceKind_any : Makes Token.Digital Any sourceKind := by
  refine current_digital.skip fun token => Makes.secondKind.skip fun k => ?_
  split
  · exact Makes.advance.skip fun _ => .pure trivial
  · exact .pure trivial

theorem tableRef_any : Makes Token.Digital Any tableRef := by
  have hrest : ∀ k name, Makes Token.Digital (Any : TableRef → Prop) (do
      let other ← optionalAlias (· == .identifier) .tableAlias
      pure ⟨k, name, other⟩) :=
    fun _ _ => (optionalAlias_any _ _).skip fun _ => .pure trivial
  refine sourceKind_any.skip fun k => Makes.kind.skip fun _ => .ite ?_ ?_
  · exact Makes.advance.skip fun _ => hrest k _
  · exact (Makes.reportExpected _).skip fun _ => hrest k _

theorem joinKind?_any : Makes Token.Digital Any joinKind? := by
  have hrest : ∀ join, Makes Token.Digital (Any : Option JoinKind → Prop) (do
      let _ ← expect (.keyword .JOIN) (.word .JOIN)
      pure (some join)) :=
    fun _ => (Makes.expect _ _).skip fun _ => .pure trivial
  refine Makes.kind.skip fun k => .ite (Makes.advance.skip fun _ => .pure trivial) ?_
  cases joinWord? k with
  | none => exact .pure trivial
  | some join =>
    refine Makes.advance.skip fun _ => .ite ?_ (hrest join)
    exact (Makes.eat _).skip fun _ => hrest join

theorem rowCount_any : Makes Token.Digital Any rowCount := by
  refine current_digital.skip fun token => ?_
  dsimp only
  split
  · exact Makes.advance.skip fun _ => .pure trivial
  · refine (Makes.reportExpected _).skip fun _ => .ite ?_ (.pure trivial)
    exact Makes.advance.skip fun _ => .pure trivial

theorem limit_any : Makes Token.Digital Any limit := by
  refine (Makes.eat _).skip fun _ => .ite ?_ ?_
  · refine rowCount_any.skip fun _ => (Makes.eat _).skip fun _ => .ite ?_ (.pure trivial)
    exact rowCount_any.skip fun _ => .pure trivial
  · refine (Makes.eat _).skip fun _ => .ite ?_ (.pure trivial)
    exact rowCount_any.skip fun _ => .pure trivial

section Clauses

variable {expression : Reader Expr} (hexpression : Makes Token.Digital Expr.Written expression)

include hexpression

theorem written_selectItem : Makes Token.Digital SelectItem.Written (selectItem expression) := by
  refine (Makes.eat _).skip fun _ => .ite (.pure .star) ?_
  exact hexpression.bind fun _ he => (optionalAlias_any _ _).skip fun _ => .pure he

theorem written_joins : ∀ n, Makes Token.Digital (∀ j ∈ ·, j.Written) (joins expression n)
  | 0 => .pure (forall_mem_nil _)
  | n + 1 => by
    have hrest : ∀ join table (o : Option Expr), (∀ e ∈ o, e.Written) →
        Makes Token.Digital (∀ j ∈ ·, Join.Written j) (do
          let rest ← joins expression n
          pure (⟨join, table, o⟩ :: rest)) :=
      fun _ _ _ ho => (written_joins n).bind fun _ hrest => .pure (forall_mem_cons.2 ⟨ho, hrest⟩)
    refine joinKind?_any.skip fun join => ?_
    cases join with
    | none => exact .pure (forall_mem_nil _)
    | some join =>
      refine tableRef_any.skip fun table => (Makes.eat _).skip fun _ => .ite ?_ ?_
      · exact hexpression.bind fun e he => hrest join table (some e) (by rintro _ ⟨⟩; exact he)
      · have hnone := hrest join table none (by rintro _ ⟨⟩)
        exact .ite ((Makes.report _).skip fun _ => hnone) hnone

theorem written_groupBy : Makes Token.Digital (∀ e ∈ ·, Expr.Written e) (groupBy expression) :=
  (Makes.eat _).skip fun _ => .ite ((Makes.expect _ _).skip fun _ => .commaList hexpression)
    (.pure (forall_mem_nil _))

/-- **A query is written.** -/
theorem written_query : Makes Token.Digital Query.Written (query expression) := by
  have hrest : ∀ distinct items source, (∀ i ∈ items, SelectItem.Written i) →
      Makes Token.Digital Query.Written (do
        let joins ← bounded (joins expression)
        let condition ← clause .WHERE expression
        let groupBy ← groupBy expression
        let having ← clause .HAVING expression
        let orderBy ← orderBy expression
        let limit ← limit
        pure { distinct, items, source, joins, condition, groupBy, having, orderBy, limit }) := by
    intro distinct items source hitems
    refine (Makes.bounded (written_joins hexpression)).bind fun _ hjoins => ?_
    refine (written_clause hexpression .WHERE).bind fun _ hcondition => ?_
    refine (written_groupBy hexpression).bind fun _ hgroupBy => ?_
    refine (written_clause hexpression .HAVING).bind fun _ hhaving => ?_
    refine (written_orderBy hexpression).bind fun _ horderBy => limit_any.skip fun _ => ?_
    exact .pure (.query hitems hjoins hcondition hgroupBy hhaving horderBy)
  refine (Makes.expect _ _).skip fun _ => (Makes.eat _).skip fun distinct => ?_
  refine (Makes.commaList (written_selectItem hexpression)).bind fun items hitems => ?_
  refine (Makes.expect _ _).skip fun _ => .ite ?_ ?_
  · exact tableRef_any.skip fun source => hrest distinct items source hitems
  · exact (Makes.pure (P := Any) trivial).skip fun source => hrest distinct items source hitems

end Clauses

/-! ### Readers of statements -/

theorem setOperator?_any : Makes Token.Digital Any setOperator? := by
  refine Makes.kind.skip fun k => ?_
  split
  · refine Makes.advance.skip fun _ => (Makes.eat _).skip fun _ => ?_
    exact .ite (.pure trivial) (.pure trivial)
  · exact Makes.advance.skip fun _ => .pure trivial
  · exact Makes.advance.skip fun _ => .pure trivial
  · exact .pure trivial

theorem written_tableExpr {body : Reader Statement}
    (hbody : Makes Token.Digital Statement.Written body) :
    Makes Token.Digital (fun t : TableExpr => t.body.Written) (tableExpr body) := by
  have hrest : ∀ name, Makes Token.Digital (fun t : TableExpr => t.body.Written) (do
      let _ ← expect (.keyword .AS) (.word .AS)
      let _ ← expect .leftParen .openParen
      let statement ← body
      let _ ← expect .rightParen .closeParen
      pure ⟨name, statement⟩) :=
    fun _ => (Makes.expect _ _).skip fun _ => (Makes.expect _ _).skip fun _ =>
      hbody.bind fun _ hs => (Makes.expect _ _).skip fun _ => .pure hs
  refine (Makes.sees _).skip fun _ => .ite (Makes.advance.skip fun _ => hrest _) ?_
  exact (Makes.reportExpected _).skip fun _ => hrest _

section Statements

variable {expression : Reader Expr} (hexpression : Makes Token.Digital Expr.Written expression)

include hexpression

theorem written_compound :
    Makes Token.Digital (fun o : Option Compound => ∀ c ∈ o, c.right.Written)
      (compound expression) := by
  refine setOperator?_any.skip fun op => ?_
  cases op with
  | none => exact .pure (by rintro _ ⟨⟩)
  | some op =>
    refine (written_query hexpression).bind fun right hright => setOperator?_any.skip fun _ => ?_
    have hdone : Makes Token.Digital (fun o : Option Compound => ∀ c ∈ o, c.right.Written)
        (pure (some ⟨op, right⟩)) := .pure (by rintro _ ⟨⟩; exact hright)
    refine .ite ?_ hdone
    exact (Makes.report _).skip fun _ => (written_query hexpression).skip fun _ => hdone

/-- **A statement is written.** -/
theorem written_statement {body : Reader Statement}
    (hbody : Makes Token.Digital Statement.Written body) :
    Makes Token.Digital Statement.Written (statement expression body) := by
  have hrest : ∀ tables : List TableExpr, (∀ t ∈ tables, t.body.Written) →
      Makes Token.Digital Statement.Written (do
        let primary ← query expression
        let second ← compound expression
        pure ⟨tables, primary, second⟩) :=
    fun _ htables => (written_query hexpression).bind fun _ hprimary =>
      (written_compound hexpression).bind fun _ hsecond =>
        .pure (.statement htables hprimary hsecond)
  refine (Makes.eat _).skip fun _ => .ite ?_ ?_
  · exact (Makes.commaList (written_tableExpr hbody)).bind hrest
  · exact (Makes.pure (forall_mem_nil _)).bind hrest

end Statements

/-! ### Nesting -/

theorem written_noQuery : noQuery.Written :=
  .query (forall_mem_nil _) (forall_mem_nil _) (by rintro _ ⟨⟩) (forall_mem_nil _) (by rintro _ ⟨⟩)
    (forall_mem_nil _)

theorem written_exhausted : exhausted.Written where
  expression := (Makes.report _).skip fun _ => .pure (.literal trivial)
  body := (Makes.report _).skip fun _ =>
    .pure (.statement (forall_mem_nil _) written_noQuery (by rintro _ ⟨⟩))

/-- **What a grammar makes is written if what is nested in it is.** -/
theorem written_next {g : Grammar} (hg : g.Written) : g.next.Written where
  expression := written_disjunction hg
  body := written_statement (written_disjunction hg) hg.body

theorem written_ofDepth : ∀ n, (ofDepth n).Written
  | 0 => written_exhausted
  | n + 1 => written_next (written_ofDepth n)

end Grammar

/-! ### Whole texts -/

theorem Statement.written_read {g : Grammar} (hg : g.Written) :
    Makes Token.Digital Statement.Written (Statement.read g) := by
  refine hg.body.bind fun s hs => (Makes.bounded (Makes.skipAll _)).skip fun _ => ?_
  refine Grammar.current_digital.skip fun _ => .ite ?_ (.pure hs)
  exact (Makes.report _).skip fun _ => .pure hs

/-- **The literals of a text are written**, be it a statement or not. -/
theorem Statement.written_readText (text : String) : (Statement.readText text).1.Written :=
  (Statement.written_read (Grammar.written_ofDepth _) (Reading.ofText text)
    (Token.digital_ofText text)).1

theorem Expr.written_readText (text : String) : (Expr.readText text).1.Written :=
  ((Grammar.written_ofDepth _).expression (Reading.ofText text) (Token.digital_ofText text)).1

/-- **No literal of a text is not-a-number.** -/
theorem Statement.plain_ofText {text : String} {s : Statement}
    (h : Statement.ofText text = .ok s) : s.Plain := by
  have hwritten := Statement.written_readText text
  unfold Statement.ofText at h
  split at h
  · rename_i heq
    rw [heq] at hwritten
    obtain rfl := Except.ok.inj h
    exact plain_iff.2 (hwritten.mono fun _ => Value.Written.isNaN)
  · cases h

end RowQuery
