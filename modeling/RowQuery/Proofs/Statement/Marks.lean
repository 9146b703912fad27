/-
# What a statement says, token by token

Names, strings, numbers, truth values and nulls are the tokens of a text that
its statement repeats: each is a *mark* of the statement, and the marks of a
statement are in the order of its text. A mark says which tokens it may stand
for: a name is spelled as it is, the name of a function as it is but for case,
and the sign of a number is not its token's.

Two marks may stand for no token. A minus sign in front of what is no number
subtracts it from a zero that is not written; and no offset beside a row count
is the offset zero. An offset that is written has the word OFFSET in front of
it, which is listed for this reason.

Key definitions: `Mark`, `Mark.IsOf`, `Spelled`, `Expr.marks`, `Query.marks`,
`Statement.marks`.
Key theorems: `Spelled.append`, `Spelled.split`, `spelled_binary`,
`spelled_negate`.
-/
import RowQuery.Statement.Parser

namespace RowQuery

open List

/-! ### Marks -/

/-- What a statement says of a token. -/
inductive Mark where
  | identifier (name : String)
  /-- A name that may be written as a string. -/
  | name (name : String)
  /-- The name of a function, in capitals. -/
  | function (name : String)
  | source (kind : SourceKind)
  | literal (value : Value)
  /-- The zero that a minus sign subtracts from. -/
  | zero
  | count (n : Nat)
  /-- A number of rows to drop, which need not be said beside a row count. -/
  | offset (n : Nat) (besideCount : Bool)

namespace Number

/-- The number of the same magnitude on the other side of zero. -/
def opposite : Number → Number
  | .integer n => .integer (-n)
  | .float x => .float (-x)

theorem opposite_opposite (n : Number) : n.opposite.opposite = n := by
  cases n with
  | integer n => exact congrArg Number.integer (Int64.neg_neg)
  | float x =>
    refine congrArg Number.float ?_
    cases x with
    | finite negative units h => cases negative <;> rfl
    | infinite negative => cases negative <;> rfl
    | notANumber => rfl

end Number

namespace Token

/-- The number that digits write. -/
def number? (t : Token) : Option Number :=
  match t.kind with
  | .integer =>
    match Numeral.int64? t.literal.toList with
    | some n => some (.integer n)
    | none => (Numeral.binary64? t.literal.toList).map .float
  | .decimal => (Numeral.binary64? t.literal.toList).map .float
  | _ => none

end Token

/-- The tokens that a statement repeats, and the word OFFSET. -/
def TokenKind.isListed : TokenKind → Bool
  | .identifier | .string | .integer | .decimal => true
  | .keyword .TRUE | .keyword .FALSE | .keyword .NULL | .keyword .OFFSET => true
  | _ => false

/-- The tokens among others that a statement repeats. -/
def Token.listed (tokens : List Token) : List Token := tokens.filter (·.kind.isListed)

/-- A mark may stand for a token. -/
def Mark.IsOf : Mark → Token → Prop
  | .identifier s, t => t.kind = .identifier ∧ t.literal = s
  | .name s, t => (t.kind = .identifier ∨ t.kind = .string) ∧ t.literal = s
  | .function s, t => t.kind = .identifier ∧ Text.asciiUpper t.literal = s
  | .source k, t => t.kind = .identifier ∧ SourceKind.ofWord? t.literal = some k
  | .literal .null, t => t.kind = .keyword .NULL
  | .literal (.boolean b), t => t.kind = .keyword (if b then .TRUE else .FALSE)
  | .literal (.string s), t => t.kind = .string ∧ t.literal = s
  | .literal (.number n), t => ∃ m, t.number? = some m ∧ (n = m ∨ n = m.opposite)
  | .literal _, _ => False
  | .zero, t => t.number? = some (.integer 0)
  | .count n, t => t.kind = .integer ∧ Numeral.natural? t.literal.toList = some n
  | .offset .., _ => False

/-- Marks stand for tokens: each for one, in order, apart from a zero and an offset that are not
written and from the word in front of an offset that is. -/
inductive Spelled : List Mark → List Token → Prop
  | nil : Spelled [] []
  | token {m : Mark} {t : Token} {ms : List Mark} {ts : List Token} (h : m.IsOf t)
      (rest : Spelled ms ts) : Spelled (m :: ms) (t :: ts)
  | minus {ms : List Mark} {ts : List Token} (rest : Spelled ms ts) : Spelled (.zero :: ms) ts
  | offset {n : Nat} {besideCount : Bool} {w t : Token} {ms : List Mark} {ts : List Token}
      (hw : w.kind = .keyword .OFFSET) (h : (Mark.count n).IsOf t) (rest : Spelled ms ts) :
      Spelled (.offset n besideCount :: ms) (w :: t :: ts)
  | noOffset {ms : List Mark} {ts : List Token} (rest : Spelled ms ts) :
      Spelled (.offset 0 true :: ms) ts

namespace Spelled

variable {ms ns : List Mark} {ts us : List Token} {m : Mark} {t : Token}

theorem append (h : Spelled ms ts) (h' : Spelled ns us) : Spelled (ms ++ ns) (ts ++ us) := by
  induction h with
  | nil => exact h'
  | token h _ ih => exact .token h ih
  | minus _ ih => exact .minus ih
  | offset hw h _ ih => exact .offset hw h ih
  | noOffset _ ih => exact .noOffset ih

theorem split : ∀ {ms : List Mark} {ts : List Token}, Spelled (ms ++ ns) ts →
    ∃ front back, ts = front ++ back ∧ Spelled ms front ∧ Spelled ns back
  | [], ts, h => ⟨[], ts, rfl, .nil, h⟩
  | _ :: _, _, .token h rest => by
    obtain ⟨front, back, rfl, hfront, hback⟩ := split rest
    exact ⟨_ :: front, back, rfl, .token h hfront, hback⟩
  | _ :: _, _, .minus rest => by
    obtain ⟨front, back, rfl, hfront, hback⟩ := split rest
    exact ⟨front, back, rfl, .minus hfront, hback⟩
  | _ :: _, _, .offset hw h rest => by
    obtain ⟨front, back, rfl, hfront, hback⟩ := split rest
    exact ⟨_ :: _ :: front, back, rfl, .offset hw h hfront, hback⟩
  | _ :: _, _, .noOffset rest => by
    obtain ⟨front, back, rfl, hfront, hback⟩ := split rest
    exact ⟨front, back, rfl, .noOffset hfront, hback⟩

theorem one (h : m.IsOf t) : Spelled [m] [t] := .token h .nil

/-- A literal stands for one token. -/
theorem of_literal {value : Value} (h : Spelled [.literal value] ts) :
    ∃ t, ts = [t] ∧ (Mark.literal value).IsOf t := by
  cases h with
  | token h rest =>
    cases rest
    exact ⟨_, rfl, h⟩

end Spelled

/-! ### The marks of a statement -/

def TableRef.marks (t : TableRef) : List Mark :=
  (t.kind.map Mark.source).toList ++ .name t.name :: (t.aliasName.map Mark.identifier).toList

def Limit.marks (l : Limit) : List Mark :=
  (l.count.map Mark.count).toList ++ [.offset l.offset l.count.isSome]

namespace Expr

def isNumber : Expr → Bool
  | .literal (.number _) => true
  | _ => false

/-- An operation that a minus sign may stand for. -/
def opposes : Expr → BinaryOp → Expr → Bool
  | .literal (.integer n), .subtract, right => n == 0 && !right.isNumber
  | _, _, _ => false

end Expr

mutual

def Expr.marks : Expr → List Mark
  | .identifier name => [.identifier name]
  | .literal value => [.literal value]
  | .binary left op right => (if left.opposes op right then [.zero] else left.marks) ++ right.marks
  | .isNull operand _ => operand.marks ++ [.literal .null]
  | .inList left candidates _ => left.marks ++ exprsMarks candidates
  | .like left pattern _ => left.marks ++ pattern.marks
  | .call name args => .function name :: exprsMarks args
  | .window name args partitionBy orderBy =>
    .function name :: (exprsMarks args ++ (exprsMarks partitionBy ++ keysMarks orderBy))
  | .case branches otherwise => branchesMarks branches ++ optionMarks otherwise
  | .star => []
  | .subquery s => s.marks

def exprsMarks : List Expr → List Mark
  | [] => []
  | e :: rest => e.marks ++ exprsMarks rest

def keysMarks : List SortKey → List Mark
  | [] => []
  | ⟨e, _⟩ :: rest => e.marks ++ keysMarks rest

def branchesMarks : List Branch → List Mark
  | [] => []
  | ⟨condition, result⟩ :: rest => condition.marks ++ (result.marks ++ branchesMarks rest)

def optionMarks : Option Expr → List Mark
  | none => []
  | some e => e.marks

def itemsMarks : List SelectItem → List Mark
  | [] => []
  | ⟨e, aliasName⟩ :: rest => e.marks ++ ((aliasName.map Mark.name).toList ++ itemsMarks rest)

def joinsMarks : List Join → List Mark
  | [] => []
  | ⟨_, table, condition⟩ :: rest => table.marks ++ (optionMarks condition ++ joinsMarks rest)

def tablesMarks : List TableExpr → List Mark
  | [] => []
  | ⟨name, body⟩ :: rest => .identifier name :: (body.marks ++ tablesMarks rest)

def compoundMarks : Option Compound → List Mark
  | none => []
  | some ⟨_, right⟩ => right.marks

/-- The marks of a query, in the order of its clauses. -/
def Query.marks : Query → List Mark
  | ⟨_, items, source, joins, condition, groupBy, having, orderBy, limit⟩ =>
    itemsMarks items ++ (source.marks ++ (joinsMarks joins ++ (optionMarks condition ++
      (exprsMarks groupBy ++ (optionMarks having ++ (keysMarks orderBy ++
        (limit.map Limit.marks).getD []))))))

/-- The marks of a statement, in the order of its text. -/
def Statement.marks : Statement → List Mark
  | ⟨tables, primary, compound⟩ => tablesMarks tables ++ (primary.marks ++ compoundMarks compound)

end

abbrev SortKey.marks (k : SortKey) : List Mark := k.expr.marks

abbrev SelectItem.marks (i : SelectItem) : List Mark :=
  i.expr.marks ++ (i.aliasName.map Mark.name).toList

abbrev TableExpr.marks (t : TableExpr) : List Mark := .identifier t.name :: t.body.marks

theorem exprsMarks_eq : ∀ es : List Expr, exprsMarks es = es.flatMap Expr.marks
  | [] => by rw [exprsMarks, flatMap_nil]
  | e :: rest => by rw [exprsMarks, exprsMarks_eq rest, flatMap_cons]

theorem keysMarks_eq : ∀ keys : List SortKey, keysMarks keys = keys.flatMap SortKey.marks
  | [] => by rw [keysMarks, flatMap_nil]
  | ⟨e, _⟩ :: rest => by rw [keysMarks, keysMarks_eq rest, flatMap_cons]

theorem itemsMarks_eq : ∀ items : List SelectItem, itemsMarks items = items.flatMap SelectItem.marks
  | [] => by rw [itemsMarks, flatMap_nil]
  | ⟨e, _⟩ :: rest => by rw [itemsMarks, itemsMarks_eq rest, flatMap_cons, append_assoc]

theorem tablesMarks_eq : ∀ tables : List TableExpr,
    tablesMarks tables = tables.flatMap TableExpr.marks
  | [] => by rw [tablesMarks, flatMap_nil]
  | ⟨name, body⟩ :: rest => by rw [tablesMarks, tablesMarks_eq rest, flatMap_cons, cons_append]

/-! ### Operations -/

/-- Only of a zero a minus sign is made. -/
theorem eq_zero_of_opposes {left right : Expr} {op : BinaryOp} (h : left.opposes op right = true) :
    left = .literal (.integer 0) := by
  unfold Expr.opposes at h
  split at h
  · obtain ⟨hzero, -⟩ := Bool.and_eq_true_iff.1 h
    rw [eq_of_beq hzero]
  · exact absurd h (by decide)

/-- The marks of an operation are those of its operands. -/
theorem spelled_binary {ms : List Mark} {left right : Expr} {op : BinaryOp} {ts : List Token}
    (h : Spelled (ms ++ left.marks ++ right.marks) ts) :
    Spelled (ms ++ (Expr.binary left op right).marks) ts := by
  rw [Expr.marks]
  by_cases hopposes : left.opposes op right = true
  · rw [if_pos hopposes]
    obtain ⟨front, back, rfl, hfront, hright⟩ := h.split
    obtain ⟨before, middle, rfl, hbefore, hleft⟩ := hfront.split
    rw [eq_zero_of_opposes hopposes, Expr.marks] at hleft
    obtain ⟨t, rfl, m, hm, hsign⟩ := hleft.of_literal
    have hzero : m = .integer 0 := by
      rcases hsign with rfl | hopposite
      · rfl
      · rw [← m.opposite_opposite, ← hopposite]
        rfl
    subst hzero
    have hmark : Spelled [.zero] [t] := .one hm
    rw [append_assoc]
    exact hbefore.append (hmark.append hright)
  · rw [if_neg hopposes, ← append_assoc]
    exact h

/-- **The marks of an opposite are those of the operand**: the sign of a number is not marked, and
neither is the zero that anything else is subtracted from. -/
theorem spelled_negate {ms : List Mark} {operand : Expr} {ts : List Token}
    (h : Spelled (ms ++ operand.marks) ts) : Spelled (ms ++ (Grammar.negate operand).marks) ts := by
  obtain ⟨front, back, rfl, hfront, hback⟩ := h.split
  refine hfront.append ?_
  have hnumber : ∀ n : Number, operand = .literal (.number n) →
      Spelled [.literal (.number n.opposite)] back := by
    rintro n rfl
    rw [Expr.marks] at hback
    obtain ⟨t, rfl, m, hm, hsign⟩ := hback.of_literal
    have hopposite : n.opposite = m ∨ n.opposite = m.opposite := by
      rcases hsign with rfl | rfl
      · exact .inr rfl
      · exact .inl m.opposite_opposite
    exact .one ⟨m, hm, hopposite⟩
  unfold Grammar.negate
  split
  · rename_i n
    exact hnumber (.integer n) rfl
  · rename_i x
    exact hnumber (.float x) rfl
  · rename_i hinteger hfloat
    have hopposes : (Expr.literal (.integer 0)).opposes .subtract operand = true := by
      have hno : operand.isNumber = false := by
        unfold Expr.isNumber
        split
        · rename_i n
          cases n with
          | integer n => exact absurd rfl (hinteger n)
          | float x => exact absurd rfl (hfloat x)
        · rfl
      rw [Expr.opposes, hno]
      rfl
    rw [Expr.marks, if_pos hopposes]
    exact .minus hback

end RowQuery
