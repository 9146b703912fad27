/-
# Text of expressions reads back

A legible expression is read back from its text: the tree is the same, nothing
is noted, and nothing is left but the end of input.

The grammar has a reader for each level, and an expression is read at its own
level and at all looser ones. A token after it ends it at a level if the grammar
goes on, at this level and at tighter ones, with tokens of other kinds only. An
operation that associates to the left is read with its left operand already
there, as far as a chain of its operators has come.

Key definitions: `TokenKind.reach`, `Grammar.reader`, `Grammar.Readable`.
Key theorems: `Readable.of_takes`, `Readable.of_begins`, `readable`,
`Expr.readText_text`.
-/
import RowQuery.Proofs.Statement.Legible
import RowQuery.Proofs.Statement.Takes

namespace RowQuery

open List Token Reader

attribute [local irreducible] Binary64.one Binary64.limit

/-- The tightest level at which an expression goes on with a token of a kind; the word OR, which is
an identifier, is looser than all operators, and other tokens are beyond every expression. -/
def TokenKind.reach : TokenKind → Nat
  | .leftParen | .keyword .OVER => 0
  | .asterisk | .slash => 1
  | .plus | .minus => 2
  | .equal | .notEqual | .less | .greater | .lessEqual | .greaterEqual => 3
  | .keyword .IS | .keyword .NOT | .keyword .IN | .keyword .LIKE => 3
  | .keyword .AND => 4
  | .identifier => 5
  | _ => 6

namespace Grammar

/-- A token after an expression ends it, as far as a level and tighter ones go. -/
def Ends (l : Nat) (κ : TokenKind) : Prop := l < κ.reach

instance (l : Nat) (κ : TokenKind) : Decidable (Ends l κ) := inferInstanceAs (Decidable (_ < _))

theorem Ends.mono {l l' : Nat} {κ : TokenKind} (h : Ends l κ) (hl : l' ≤ l) : Ends l' κ :=
  Nat.lt_of_le_of_lt hl h

/-- The reader of a level: signed primaries, products, sums, comparisons, conjunctions, and all
expressions. -/
def reader (g : Grammar) : Nat → Reader Expr
  | 0 => bounded (signed g)
  | 1 => product g
  | 2 => sum g
  | 3 => comparison g
  | 4 => leftAssociative andOperator? (comparison g)
  | _ => disjunction g

/-- The levels at which operators associate to the left. -/
def Associates (l : Nat) : Prop := l = 1 ∨ l = 2 ∨ l = 4

instance (l : Nat) : Decidable (Associates l) := inferInstanceAs (Decidable (_ ∨ _))

theorem not_associates_zero : ¬ Associates 0 := by decide

theorem not_associates_three : ¬ Associates 3 := by decide

/-- The operators of such a level. -/
def operator? : Nat → TokenKind → Option BinaryOp
  | 1 => productOperator?
  | 2 => sumOperator?
  | _ => andOperator?

variable {g : Grammar} {e : Expr} {ps q : List Piece} {l l' : Nat}

theorem reader_of_associates (hl : Associates l) :
    g.reader l = leftAssociative (operator? l) (g.reader (l - 1)) := by
  rcases hl with rfl | rfl | rfl <;> rfl

theorem operator?_of_ends (hl : Associates l) {κ : TokenKind} (h : Ends l κ) :
    operator? l κ = none := by
  rcases hl with rfl | rfl | rfl
  · cases κ <;> first | rfl | exact absurd h (by decide)
  · cases κ <;> first | rfl | exact absurd h (by decide)
  · cases κ with
    | keyword w => cases w <;> first | rfl | exact absurd h (by decide)
    | _ => rfl

/-! ### From a level to looser ones -/

theorem takes_of_begins (hl : Associates l)
    (h : Begins (operator? l) (g.reader (l - 1)) e ps (Ends (l - 1))) :
    Takes (g.reader l) e ps (Ends l) := by
  rw [reader_of_associates hl]
  exact h.takes.mono fun κ hκ => ⟨hκ.mono (Nat.sub_le l 1), operator?_of_ends hl hκ⟩

/-- A sum that is not compared. -/
theorem takes_comparison (h : Takes (g.reader 2) e ps (Ends 2)) :
    Takes (g.reader 3) e ps (Ends 3) := by
  rw [← append_nil ps]
  refine h.bind (Takes.kind (q := []) fun κ hκ => ?_) fun κ hκ => Ends.mono hκ (by decide)
  have hends : Ends 3 κ := hκ
  cases κ with
  | keyword w => cases w <;> first | exact Takes.pure | exact absurd hends (by decide)
  | _ => first | exact Takes.pure | exact absurd hends (by decide)

theorem takes_seesOr_not {α : Type} {a : α} {k : Bool → Reader α} {F : TokenKind → Prop}
    (hk : Takes (k false) a q F) (hnext : ∀ κ, Next q F κ → κ ≠ .identifier) :
    Takes (seesOr >>= k) a q F := by
  intro tokens after ds hps hfollow
  have hne : (nextKind (tokens ++ after) == .identifier) = false :=
    beq_eq_false_iff_ne.2 (hnext _ (next_of_map hps hfollow))
  show k (nextKind (tokens ++ after) == .identifier && _) _ = _
  rw [hne, Bool.false_and]
  exact hk tokens after ds hps hfollow

/-- A conjunction after which there is no word OR. -/
theorem takes_disjunction (h : Takes (g.reader 4) e ps (Ends 4)) :
    Takes (g.reader 5) e ps (Ends 5) := by
  rw [← append_nil ps]
  refine h.bind (takes_seesOr_not (q := []) Takes.pure fun κ hκ => ?_)
    fun κ hκ => Ends.mono hκ (by decide)
  rintro rfl
  exact absurd (show Ends 5 .identifier from hκ) (by decide)

theorem takes_next (h : Takes (g.reader l) e ps (Ends l)) (hl : l < 5) :
    Takes (g.reader (l + 1)) e ps (Ends (l + 1)) := by
  match l, hl with
  | 0, _ => exact takes_of_begins (.inl rfl) (.of_takes h)
  | 1, _ => exact takes_of_begins (.inr (.inl rfl)) (.of_takes h)
  | 2, _ => exact takes_comparison h
  | 3, _ => exact takes_of_begins (.inr (.inr rfl)) (.of_takes h)
  | 4, _ => exact takes_disjunction h

theorem takes_looser (h : Takes (g.reader l) e ps (Ends l)) (hl : l ≤ l') (hl' : l' ≤ 5) :
    Takes (g.reader l') e ps (Ends l') := by
  induction l', hl using Nat.le_induction with
  | base => exact h
  | succ n _ ih => exact takes_next (ih (by omega)) (by omega)

/-- An expression is read at its level and at looser ones, and is what a chain may go on with. -/
structure Readable (g : Grammar) (e : Expr) : Prop where
  begins (l : Nat) : Associates l → e.level ≤ l →
    Begins (operator? l) (g.reader (l - 1)) e e.pieces (Ends (l - 1))
  takes (l : Nat) : e.level ≤ l → l ≤ 5 → Takes (g.reader l) e e.pieces (Ends l)

/-- Expressions of a level that does not associate are read. -/
theorem Readable.of_takes (hlevel : ¬ Associates e.level)
    (h : Takes (g.reader e.level) e e.pieces (Ends e.level)) : Readable g e where
  begins l hl hle := by
    have hne : e.level ≠ l := fun heq => hlevel (heq ▸ hl)
    have hbound : l ≤ 4 := by
      rcases hl with rfl | rfl | rfl <;> decide
    exact .of_takes (takes_looser h (by omega) (by omega))
  takes l hle hl := takes_looser h hle hl

/-- Expressions of a level that associates are read as a chain. -/
theorem Readable.of_begins (hlevel : Associates e.level)
    (h : Begins (operator? e.level) (g.reader (e.level - 1)) e e.pieces (Ends (e.level - 1))) :
    Readable g e where
  begins l hl hle := by
    have hbound : l ≤ 4 := by
      rcases hl with rfl | rfl | rfl <;> decide
    by_cases heq : e.level = l
    · exact heq ▸ h
    · exact .of_takes (takes_looser (takes_of_begins hlevel h) (by omega) (by omega))
  takes l hle hl := takes_looser (takes_of_begins hlevel h) hle hl

/-! ### Primaries -/

/-- A primary that starts with no minus sign is a signed one. -/
theorem takes_signed {p : Piece} {F : TokenKind → Prop} (h : Takes (primary g) e (p :: ps) F)
    (hp : p.1 ≠ .minus) : ∀ n, Takes (signed g n) e (p :: ps) F
  | 0 => h
  | n + 1 => by
    refine Takes.eat_not h fun κ hκ => ?_
    have hκ : κ = p.1 := hκ
    exact hκ ▸ hp

theorem takes_primary {p : Piece} {F : TokenKind → Prop} (h : Takes (primary g) e (p :: ps) F)
    (hp : p.1 ≠ .minus) : Takes (g.reader 0) e (p :: ps) F :=
  Takes.bounded fun n _ => takes_signed h hp n

theorem takes_identifier (name : String) :
    Takes (g.reader 0) (.identifier name) [(.identifier, name)] (Ends 0) := by
  refine takes_primary (Takes.current fun _ => ?_) nofun
  refine Takes.advance fun _ _ => Takes.sees_not (q := []) Takes.pure fun κ hκ => ?_
  rintro rfl
  exact absurd (show Ends 0 .leftParen from hκ) (by decide)

theorem takes_star : Takes (g.reader 0) .star [asterisk] (Ends 0) :=
  takes_primary (Takes.current fun _ => Takes.advance fun _ _ => Takes.pure) nofun

theorem int64?_toDigits {n : Nat} (hn : n ≤ 2 ^ 63 - 1) :
    Numeral.int64? (Nat.toDigits 10 n) = some (Int64.ofInt n) := by
  have hbounds : -2 ^ 63 ≤ (n : Int) ∧ (n : Int) < 2 ^ 63 := by omega
  have htext : Nat.toDigits 10 n = Numeral.ofInt n := (if_neg (by omega)).symm
  rw [htext, Numeral.int64?, Numeral.integer?_ofInt, Option.bind_some, int64OfInt?, if_pos hbounds]

/-- The digits of an integer without its sign. -/
theorem takes_digits {n : Nat} (hn : n ≤ 2 ^ 63 - 1) :
    Takes (primary g) (.literal (.integer (Int64.ofInt n))) [digits n] (Ends 0) := by
  have hvalue : integerLiteral (digits n).2 = .integer (Int64.ofInt n) := by
    unfold integerLiteral digits
    rw [String.toList_ofList, int64?_toDigits hn]
  rw [← hvalue]
  exact Takes.current fun _ => Takes.advance fun _ _ => Takes.pure

theorem takes_integer {n : Int64} (hn : n.toInt.natAbs ≤ 2 ^ 63 - 1) :
    Takes (g.reader 0) (.literal (.integer n)) (Expr.integerPieces n.toInt) (Ends 0) := by
  have hdigits := takes_digits (g := g) hn
  unfold Expr.integerPieces
  by_cases hneg : n.toInt < 0
  · rw [if_pos hneg]
    have hvalue : negate (.literal (.integer (Int64.ofInt n.toInt.natAbs))) =
        .literal (.integer n) := by
      have habs : ((n.toInt.natAbs : Nat) : Int) = -n.toInt := by omega
      have hopposite : -Int64.ofInt n.toInt.natAbs = n := by
        rw [habs, Int64.ofInt_neg, Int64.neg_neg, Int64.ofInt_toInt]
      rw [negate, hopposite]
    refine Takes.bounded fun k hk => ?_
    cases k with
    | zero => exact absurd hk (by simp)
    | succ k =>
      rw [← hvalue]
      exact Takes.eat ((takes_signed hdigits nofun k).last (g := negate)) rfl
  · rw [if_neg hneg]
    have hvalue : Int64.ofInt n.toInt.natAbs = n := by
      have habs : ((n.toInt.natAbs : Nat) : Int) = n.toInt := by omega
      rw [habs, Int64.ofInt_toInt]
    rw [hvalue] at hdigits
    exact takes_primary hdigits nofun

theorem takes_literal {value : Value} (h : Expr.legibleLiteral value = true) :
    Takes (g.reader 0) (.literal value) (Expr.literalPieces value) (Ends 0) := by
  cases value with
  | null => exact takes_primary (Takes.current fun _ => Takes.advance fun _ _ => Takes.pure) nofun
  | boolean b =>
    cases b with
    | true => exact takes_primary (Takes.current fun _ => Takes.advance fun _ _ => Takes.pure) nofun
    | false => exact takes_primary (Takes.current fun _ => Takes.advance fun _ _ => Takes.pure) nofun
  | string s => exact takes_primary (Takes.current fun _ => Takes.advance fun _ _ => Takes.pure) nofun
  | number n =>
    cases n with
    | integer n => exact takes_integer (of_decide_eq_true h)
    | float x => simp [Expr.legibleLiteral] at h
  | array items => simp [Expr.legibleLiteral] at h
  | object fields => simp [Expr.legibleLiteral] at h

/-! ### What expressions start with -/

/-- A token that closes no list and starts no statement. -/
def Opens (κ : TokenKind) : Prop :=
  κ ≠ .rightParen ∧ κ ≠ .keyword .SELECT ∧ κ ≠ .keyword .WITH

instance (κ : TokenKind) : Decidable (Opens κ) := inferInstanceAs (Decidable (_ ∧ _))

theorem opens_literal {value : Value} (h : Expr.legibleLiteral value = true)
    {F : TokenKind → Prop} {κ : TokenKind} (hκ : Next (Expr.literalPieces value ++ ps) F κ) :
    Opens κ := by
  cases value with
  | null => exact (show κ = .keyword .NULL from hκ) ▸ by decide
  | boolean b =>
    cases b with
    | true => exact (show κ = .keyword .TRUE from hκ) ▸ by decide
    | false => exact (show κ = .keyword .FALSE from hκ) ▸ by decide
  | string s => exact (show κ = .string from hκ) ▸ by decide
  | number n =>
    cases n with
    | integer n =>
      by_cases hneg : n.toInt < 0
      · rw [Expr.literalPieces, Expr.integerPieces, if_pos hneg] at hκ
        exact (show κ = .minus from hκ) ▸ by decide
      · rw [Expr.literalPieces, Expr.integerPieces, if_neg hneg] at hκ
        exact (show κ = .integer from hκ) ▸ by decide
    | float x => simp [Expr.legibleLiteral] at h
  | array items => simp [Expr.legibleLiteral] at h
  | object fields => simp [Expr.legibleLiteral] at h

theorem opens_pieces : ∀ e : Expr, e.legible = true → ∀ {ps : List Piece} {F : TokenKind → Prop}
    {κ : TokenKind}, Next (e.pieces ++ ps) F κ → Opens κ
  | .identifier _, _, _, _, κ, hκ => (show κ = .identifier from hκ) ▸ by decide
  | .literal _, h, _, _, _, hκ => opens_literal h hκ
  | .binary left _ _, h, _, _, _, hκ => by
    simp only [Expr.legible, Bool.and_eq_true] at h
    rw [Expr.pieces, append_assoc] at hκ
    exact opens_pieces left h.1.1.1 hκ
  | .isNull operand _, h, _, _, _, hκ => by
    simp only [Expr.legible, Bool.and_eq_true] at h
    rw [Expr.pieces, append_assoc] at hκ
    exact opens_pieces operand h.1 hκ
  | .inList left _ _, h, _, _, _, hκ => by
    simp only [Expr.legible, Bool.and_eq_true] at h
    rw [Expr.pieces, append_assoc] at hκ
    exact opens_pieces left h.1.1.1 hκ
  | .like left _ _, h, _, _, _, hκ => by
    simp only [Expr.legible, Bool.and_eq_true] at h
    rw [Expr.pieces, append_assoc] at hκ
    exact opens_pieces left h.1.1.1 hκ
  | .call .., _, _, _, κ, hκ => (show κ = .identifier from hκ) ▸ by decide
  | .window .., _, _, _, κ, hκ => (show κ = .identifier from hκ) ▸ by decide
  | .case .., _, _, _, κ, hκ => (show κ = .keyword .CASE from hκ) ▸ by decide
  | .star, _, _, _, κ, hκ => (show κ = .asterisk from hκ) ▸ by decide

/-! ### Lists -/

/-- A nested expression is read. -/
def Inner (g : Grammar) (e : Expr) : Prop :=
  e.legible = true ∧ Takes g.expression e e.pieces (Ends 5)

theorem listPieces_cons (e : Expr) (rest : List Expr) :
    Expr.listPieces (e :: rest) = e.pieces ++ rest.flatMap fun e => comma :: e.pieces := by
  induction rest generalizing e with
  | nil => rw [Expr.listPieces, flatMap_nil, append_nil]
  | cons e' rest ih =>
    rw [Expr.listPieces, ih, flatMap_cons, cons_append]
    exact cons_ne_nil _ _

/-- The pieces of a sort key. -/
def keyPieces (k : SortKey) : List Piece := k.expr.pieces ++ Expr.directionPieces k.direction

theorem keysPieces_cons (k : SortKey) (rest : List SortKey) :
    Expr.keysPieces (k :: rest) = keyPieces k ++ rest.flatMap fun k => comma :: keyPieces k := by
  induction rest generalizing k with
  | nil =>
    obtain ⟨e, direction⟩ := k
    rw [Expr.keysPieces, flatMap_nil, append_nil, keyPieces]
  | cons k' rest ih =>
    obtain ⟨e, direction⟩ := k
    rw [Expr.keysPieces, ih, flatMap_cons, cons_append]
    · rfl
    · exact cons_ne_nil _ _

theorem takes_list {es : List Expr} (hes : es ≠ []) (h : ∀ e ∈ es, Inner g e) :
    Takes (commaList g.expression) es (Expr.listPieces es) (fun κ => Ends 5 κ ∧ κ ≠ .comma) := by
  cases es with
  | nil => exact absurd rfl hes
  | cons e rest =>
    rw [listPieces_cons]
    exact Takes.commaList (by decide) fun e he => (h e he).2

/-- What may follow a sort key. -/
def EndsKey (κ : TokenKind) : Prop := κ = .comma ∨ κ = .rightParen

theorem takes_sortKey {k : SortKey} (h : Inner g k.expr) :
    Takes (sortKey g.expression) k (keyPieces k) EndsKey := by
  obtain ⟨e, direction⟩ := k
  cases direction with
  | ascending =>
    refine h.2.bind (Takes.eat_not (q := []) (Takes.eat_not (q := []) Takes.pure ?_) ?_) ?_
    · rintro κ (rfl | rfl) <;> decide
    · rintro κ (rfl | rfl) <;> decide
    · rintro κ (rfl | rfl) <;> decide
  | descending =>
    refine h.2.bind (Takes.eat Takes.pure rfl) fun κ hκ => ?_
    exact (show κ = .keyword .DESC from hκ) ▸ by decide

theorem takes_orderBy {keys : List SortKey} (h : ∀ k ∈ keys, Inner g k.expr) :
    Takes (orderBy g.expression) keys
      (if keys.isEmpty then [] else word .ORDER :: word .BY :: Expr.keysPieces keys)
      (· = .rightParen) := by
  cases keys with
  | nil => exact Takes.eat_not Takes.pure fun κ hκ => (show κ = .rightParen from hκ) ▸ by decide
  | cons k rest =>
    have hkeys : Takes (commaList (sortKey g.expression)) (k :: rest) _ _ :=
      Takes.commaList (.inl rfl) fun k hk => takes_sortKey (h k hk)
    rw [← keysPieces_cons] at hkeys
    refine Takes.eat (Takes.expect (hkeys.mono ?_) rfl) rfl
    rintro _ rfl
    exact ⟨.inr rfl, by decide⟩

/-! ### Calls and windows -/

theorem toUpper_of_not_isLower {c : Char} (h : (!c.isLower) = true) : c.toUpper = c := by
  unfold Char.toUpper
  refine dif_neg fun hbounds => ?_
  have hlower : c.isLower = true :=
    Bool.and_eq_true_iff.2 ⟨decide_eq_true hbounds.1, decide_eq_true hbounds.2⟩
  rw [hlower] at h
  exact absurd h (by decide)

theorem asciiUpper_of_legible {name : String} (h : Expr.legibleFunction name = true) :
    Text.asciiUpper name = name := by
  have hall := all_eq_true.1 (Bool.and_eq_true_iff.1 h).2
  have hmap : name.toList.map Char.toUpper = name.toList := by
    rw [map_congr_left fun c hc => toUpper_of_not_isLower (hall c hc), map_id']
  unfold Text.asciiUpper
  rw [hmap, String.ofList_toList]

variable {b : Expr} {F : TokenKind → Prop}

/-- The arguments of a call, and what is read after them. -/
theorem takes_arguments {args : List Expr} (h : ∀ e ∈ args, Inner g e) {k : List Expr → Reader Expr}
    (hk : Takes (k args) b ps F) (hnext : ∀ κ, Next ps F κ → κ = .rightParen) :
    Takes (sees .rightParen >>= fun closed =>
        if closed then pure [] >>= k else commaList g.expression >>= k) b
      (Expr.listPieces args ++ ps) F := by
  cases args with
  | nil => exact Takes.sees hk hnext
  | cons e rest =>
    have hlist := takes_list (cons_ne_nil e rest) h
    refine Takes.sees_not (hlist.bind hk fun κ hκ => ?_) fun κ hκ => ?_
    · exact hnext κ hκ ▸ by decide
    · rw [listPieces_cons, append_assoc] at hκ
      exact (opens_pieces e (h e mem_cons_self).1 hκ).1

theorem takes_call {name : String} (hname : Expr.legibleFunction name = true) {args : List Expr}
    (h : ∀ e ∈ args, Inner g e) :
    Takes (g.reader 0) (.call name args) (Expr.call name args).pieces (Ends 0) := by
  rw [Expr.pieces]
  refine takes_primary (Takes.current fun _ => ?_) nofun
  refine Takes.advance fun _ _ => Takes.sees ?_ fun κ hκ => hκ
  refine Takes.advance fun _ _ => takes_arguments h (Takes.expect ?_ rfl) fun κ hκ => ?_
  · rw [asciiUpper_of_legible hname]
    refine Takes.sees_not (q := []) Takes.pure fun κ hκ => ?_
    rintro rfl
    exact absurd (show Ends 0 (.keyword .OVER) from hκ) (by decide)
  · exact hκ

/-- The partition of a window, and what is read after it. -/
theorem takes_partition {es : List Expr} (h : ∀ e ∈ es, Inner g e) {k : List Expr → Reader Expr}
    (hk : Takes (k es) b ps F) (hnext : ∀ κ, Next ps F κ → κ = .keyword .ORDER ∨ κ = .rightParen) :
    Takes (eat (.keyword .PARTITION) >>= fun there =>
        if there then expect (.keyword .BY) (.wordAfter .BY .PARTITION) >>= fun _ =>
          commaList g.expression >>= k
        else pure [] >>= k) b
      ((if es.isEmpty then [] else word .PARTITION :: word .BY :: Expr.listPieces es) ++ ps) F := by
  cases es with
  | nil =>
    refine Takes.eat_not hk fun κ hκ => ?_
    rcases hnext κ hκ with rfl | rfl <;> decide
  | cons e rest =>
    have hlist := takes_list (cons_ne_nil e rest) h
    refine Takes.eat (Takes.expect (hlist.bind hk fun κ hκ => ?_) rfl) rfl
    rcases hnext κ hκ with rfl | rfl
    · exact ⟨by decide, by decide⟩
    · exact ⟨by decide, by decide⟩

theorem takes_over {name : String} {args partitionBy : List Expr} {keys : List SortKey}
    (hpartition : ∀ e ∈ partitionBy, Inner g e) (hkeys : ∀ k ∈ keys, Inner g k.expr) :
    Takes (window g name args) (.window name args partitionBy keys)
      (word .OVER :: leftParen ::
        ((if partitionBy.isEmpty then [] else
            word .PARTITION :: word .BY :: Expr.listPieces partitionBy) ++
          ((if keys.isEmpty then [] else word .ORDER :: word .BY :: Expr.keysPieces keys) ++
            [rightParen])))
      (Ends 0) := by
  refine Takes.advance fun _ _ => Takes.expect ?_ rfl
  refine takes_partition hpartition ?_ fun κ hκ => ?_
  · exact (takes_orderBy hkeys).bind (Takes.expect Takes.pure rfl) fun κ hκ => hκ
  · cases keys with
    | nil => exact .inr hκ
    | cons k rest => exact .inl hκ

theorem takes_window {name : String} (hname : Expr.legibleFunction name = true)
    {args partitionBy : List Expr} {keys : List SortKey} (hargs : ∀ e ∈ args, Inner g e)
    (hpartition : ∀ e ∈ partitionBy, Inner g e) (hkeys : ∀ k ∈ keys, Inner g k.expr) :
    Takes (g.reader 0) (.window name args partitionBy keys)
      (Expr.window name args partitionBy keys).pieces (Ends 0) := by
  rw [Expr.pieces]
  refine takes_primary (Takes.current fun _ => ?_) nofun
  refine Takes.advance fun _ _ => Takes.sees ?_ fun κ hκ => hκ
  refine Takes.advance fun _ _ => takes_arguments hargs (Takes.expect ?_ rfl) fun κ hκ => ?_
  · rw [asciiUpper_of_legible hname]
    exact Takes.sees (takes_over hpartition hkeys) fun κ hκ => hκ
  · exact hκ

/-! ### Cases -/

theorem takes_branches : ∀ (bs : List Branch) (n : Nat), (Expr.branchesPieces bs).length ≤ n →
    (∀ b ∈ bs, Inner g b.condition ∧ Inner g b.result) →
    Takes (branches g n) bs (Expr.branchesPieces bs)
      (fun κ => κ = .keyword .ELSE ∨ κ = .keyword .END)
  | [], 0, _, _ => Takes.pure
  | [], n + 1, _, _ => by
    refine Takes.eat_not Takes.pure fun κ hκ => ?_
    rcases hκ with rfl | rfl <;> decide
  | ⟨_, _⟩ :: _, 0, hn, _ => absurd hn (by rw [Expr.branchesPieces]; simp)
  | ⟨condition, result⟩ :: bs, n + 1, hn, h => by
    obtain ⟨⟨hcondition, hresult⟩, hbs⟩ := forall_mem_cons.1 h
    have hlength : (Expr.branchesPieces bs).length ≤ n := by
      rw [Expr.branchesPieces] at hn
      simp only [length_cons, length_append] at hn
      omega
    have hrest := (takes_branches bs n hlength hbs).last (g := (Branch.mk condition result :: ·))
    rw [Expr.branchesPieces]
    refine Takes.eat (hcondition.2.bind (Takes.expect (hresult.2.bind hrest fun κ hκ => ?_) rfl)
      fun κ hκ => ?_) rfl
    · cases bs with
      | nil => rcases hκ with rfl | rfl <;> decide
      | cons b bs =>
        obtain ⟨_, _⟩ := b
        rw [Expr.branchesPieces] at hκ
        exact (show κ = .keyword .WHEN from hκ) ▸ by decide
    · exact (show κ = .keyword .THEN from hκ) ▸ by decide

/-- What a case may end with, and what is read after it. -/
theorem takes_otherwise {otherwise : Option Expr} (h : ∀ e ∈ otherwise, Inner g e)
    {k : Option Expr → Reader Expr} (hk : Takes (k otherwise) b ps F)
    (hnext : ∀ κ, Next ps F κ → κ = .keyword .END) :
    Takes (eat (.keyword .ELSE) >>= fun there =>
        if there then g.expression >>= fun e => pure (some e) >>= k else pure none >>= k) b
      (Expr.otherwisePieces otherwise ++ ps) F := by
  cases otherwise with
  | none => exact Takes.eat_not hk fun κ hκ => hnext κ hκ ▸ by decide
  | some e =>
    rw [Expr.otherwisePieces]
    refine Takes.eat ((h e rfl).2.bind (k := fun e => pure (some e) >>= k) hk fun κ hκ => ?_) rfl
    exact hnext κ hκ ▸ by decide

theorem takes_case {bs : List Branch} {otherwise : Option Expr} (hne : bs ≠ [])
    (hbs : ∀ b ∈ bs, Inner g b.condition ∧ Inner g b.result)
    (hotherwise : ∀ e ∈ otherwise, Inner g e) :
    Takes (g.reader 0) (.case bs otherwise) (Expr.case bs otherwise).pieces (Ends 0) := by
  rw [Expr.pieces]
  refine takes_primary (Takes.current fun _ => Takes.advance fun _ _ => ?_) nofun
  have hlist : Takes (bounded (branches g)) bs (Expr.branchesPieces bs)
      (fun κ => κ = .keyword .ELSE ∨ κ = .keyword .END) :=
    Takes.bounded fun n hn => takes_branches bs n hn hbs
  have hempty : bs.isEmpty = false := isEmpty_eq_false_iff.2 hne
  refine hlist.bind ?_ fun κ hκ => ?_
  · rw [hempty]
    exact takes_otherwise hotherwise (Takes.expect Takes.pure rfl) fun κ hκ => hκ
  · cases otherwise with
    | none => exact .inr hκ
    | some e =>
      rw [Expr.otherwisePieces] at hκ
      exact .inl hκ

/-! ### Comparisons -/

section Comparisons

variable {left right : Expr}

theorem takes_compared {op : BinaryOp} (hop : op.level = 3)
    (hleft : Takes (g.reader 2) left left.pieces (Ends 2))
    (hright : Takes (g.reader 2) right right.pieces (Ends 2)) :
    Takes (g.reader 3) (.binary left op right) (Expr.binary left op right).pieces (Ends 3) := by
  rw [Expr.pieces]
  have hright := hright.mono fun κ (hκ : Ends 3 κ) => hκ.mono (by decide)
  refine hleft.bind (Takes.kind fun κ hκ => ?_) fun κ hκ => ?_
  · have hκ : κ = op.piece.1 := hκ
    subst hκ
    cases op <;> first
      | exact Takes.advance fun _ _ => hright.last
      | exact absurd hop (by decide)
  · have hκ : κ = op.piece.1 := hκ
    subst hκ
    cases op <;> first
      | decide
      | exact absurd hop (by decide)

theorem takes_isNull (negated : Bool) (hleft : Takes (g.reader 2) left left.pieces (Ends 2)) :
    Takes (g.reader 3) (.isNull left negated) (Expr.isNull left negated).pieces (Ends 3) := by
  rw [Expr.pieces]
  refine hleft.bind (Takes.kind fun κ hκ => ?_) fun κ hκ => ?_
  · have hκ : κ = .keyword .IS := hκ
    subst hκ
    refine Takes.advance fun _ _ => ?_
    cases negated with
    | true => exact Takes.eat (Takes.expect Takes.pure rfl) rfl
    | false =>
      refine Takes.eat_not (Takes.expect Takes.pure rfl) fun κ hκ => ?_
      exact (show κ = .keyword .NULL from hκ) ▸ by decide
  · exact (show κ = .keyword .IS from hκ) ▸ by decide

/-- The list after the word IN. -/
theorem takes_candidates {es : List Expr} (hes : es ≠ []) (h : ∀ e ∈ es, Inner g e)
    (negated : Bool) :
    Takes (inList g left negated) (.inList left es negated)
      (word .IN :: leftParen :: (Expr.listPieces es ++ [rightParen])) F := by
  have hlist := takes_list hes h
  have hopens : ∀ κ, Next (Expr.listPieces es ++ [rightParen]) F κ → Opens κ := by
    intro κ hκ
    cases es with
    | nil => exact absurd rfl hes
    | cons e rest =>
      rw [listPieces_cons, append_assoc] at hκ
      exact opens_pieces e (h e mem_cons_self).1 hκ
  refine Takes.advance fun _ _ => Takes.expect ?_ rfl
  refine Takes.sees_not (Takes.sees_not ?_ fun κ hκ => (hopens κ hκ).2.2)
    fun κ hκ => (hopens κ hκ).2.1
  refine hlist.bind (Takes.expect Takes.pure rfl) fun κ hκ => ?_
  exact (show κ = .rightParen from hκ) ▸ by decide

theorem takes_inList {es : List Expr} (hes : es ≠ []) (h : ∀ e ∈ es, Inner g e) (negated : Bool)
    (hleft : Takes (g.reader 2) left left.pieces (Ends 2)) :
    Takes (g.reader 3) (.inList left es negated) (Expr.inList left es negated).pieces (Ends 3) := by
  have hlist : Takes (inList g left negated) (.inList left es negated) _ (Ends 3) :=
    takes_candidates hes h negated
  rw [Expr.pieces]
  cases negated with
  | true =>
    refine hleft.bind (Takes.kind fun κ hκ => ?_) fun κ hκ => ?_
    · have hκ : κ = .keyword .NOT := hκ
      subst hκ
      refine Takes.advance fun _ _ => Takes.kind fun κ hκ => ?_
      have hκ : κ = .keyword .IN := hκ
      subst hκ
      exact hlist
    · exact (show κ = .keyword .NOT from hκ) ▸ by decide
  | false =>
    refine hleft.bind (Takes.kind fun κ hκ => ?_) fun κ hκ => ?_
    · have hκ : κ = .keyword .IN := hκ
      subst hκ
      exact hlist
    · exact (show κ = .keyword .IN from hκ) ▸ by decide

theorem takes_like (negated : Bool) (hleft : Takes (g.reader 2) left left.pieces (Ends 2))
    (hright : Takes (g.reader 2) right right.pieces (Ends 2)) :
    Takes (g.reader 3) (.like left right negated) (Expr.like left right negated).pieces (Ends 3) := by
  have hright := hright.mono fun κ (hκ : Ends 3 κ) => hκ.mono (by decide)
  have hpattern : Takes (like g left negated) (.like left right negated)
      (word .LIKE :: right.pieces) (Ends 3) := Takes.advance fun _ _ => hright.last
  rw [Expr.pieces]
  cases negated with
  | true =>
    refine hleft.bind (Takes.kind fun κ hκ => ?_) fun κ hκ => ?_
    · have hκ : κ = .keyword .NOT := hκ
      subst hκ
      refine Takes.advance fun _ _ => Takes.kind fun κ hκ => ?_
      have hκ : κ = .keyword .LIKE := hκ
      subst hκ
      exact hpattern
    · exact (show κ = .keyword .NOT from hκ) ▸ by decide
  | false =>
    refine hleft.bind (Takes.kind fun κ hκ => ?_) fun κ hκ => ?_
    · have hκ : κ = .keyword .LIKE := hκ
      subst hκ
      exact hpattern
    · exact (show κ = .keyword .LIKE from hκ) ▸ by decide

end Comparisons

/-! ### All legible expressions -/

theorem level_le (e : Expr) : e.level ≤ 4 := by
  cases e with
  | binary left op right => cases op <;> simp [Expr.level, BinaryOp.level]
  | _ => simp [Expr.level]

/-- What is nested is read by the grammar one level of nesting below. -/
theorem inner_of_readable {n : Nat} (h : e.legible = true) (hn : e.pieces.length < n)
    (hread : ∀ m, e.pieces.length ≤ m → Readable (ofDepth m) e) : Inner (ofDepth n) e := by
  cases n with
  | zero => exact absurd hn (by omega)
  | succ m =>
    have hlevel := level_le e
    exact ⟨h, (hread m (by omega)).takes 5 (by omega) (by decide)⟩

theorem length_le_flatMap {α : Type} {f : α → List Piece} {a : α} {as : List α} (ha : a ∈ as) :
    (f a).length ≤ (as.flatMap fun a => comma :: f a).length := by
  obtain ⟨before, after, rfl⟩ := append_of_mem ha
  simp only [flatMap_append, flatMap_cons, length_append, length_cons]
  omega

theorem length_le_listPieces {es : List Expr} (he : e ∈ es) :
    e.pieces.length ≤ (Expr.listPieces es).length := by
  cases es with
  | nil => exact nomatch he
  | cons e' rest =>
    rw [listPieces_cons, length_append]
    rcases mem_cons.1 he with rfl | he
    · omega
    · have hrest := length_le_flatMap (f := Expr.pieces) he
      omega

theorem length_le_keysPieces {k : SortKey} {keys : List SortKey} (hk : k ∈ keys) :
    k.expr.pieces.length ≤ (Expr.keysPieces keys).length := by
  have hkey : ∀ k : SortKey, k.expr.pieces.length ≤ (keyPieces k).length := fun k => by
    rw [keyPieces, length_append]
    omega
  cases keys with
  | nil => exact nomatch hk
  | cons k' rest =>
    rw [keysPieces_cons, length_append]
    rcases mem_cons.1 hk with rfl | hk
    · have hfirst := hkey k
      omega
    · have hrest := length_le_flatMap (f := keyPieces) hk
      have hlast := hkey k
      omega

theorem length_le_branchesPieces {b : Branch} {bs : List Branch} (hb : b ∈ bs) :
    b.condition.pieces.length ≤ (Expr.branchesPieces bs).length ∧
      b.result.pieces.length ≤ (Expr.branchesPieces bs).length := by
  induction bs with
  | nil => exact nomatch hb
  | cons b' rest ih =>
    obtain ⟨condition, result⟩ := b'
    rw [Expr.branchesPieces]
    simp only [length_cons, length_append]
    rcases mem_cons.1 hb with rfl | hb
    · exact ⟨by dsimp only; omega, by dsimp only; omega⟩
    · have hrest := ih hb
      exact ⟨by omega, by omega⟩

/-- An operation is read if its operands are. -/
theorem readable_binary {left right : Expr} {op : BinaryOp} (hleft : Readable g left)
    (hright : Readable g right) (hleftLevel : left.level ≤ op.leftLevel)
    (hrightLevel : right.level ≤ op.rightLevel) : Readable g (.binary left op right) := by
  by_cases hop : op.level = 3
  · have hassociates : ¬ Associates (Expr.binary left op right).level := by
      rw [Expr.level, hop]
      decide
    rw [BinaryOp.leftLevel, if_pos hop] at hleftLevel
    rw [BinaryOp.rightLevel, hop] at hrightLevel
    refine .of_takes hassociates ?_
    rw [show (Expr.binary left op right).level = 3 from hop]
    exact takes_compared hop (hleft.takes 2 hleftLevel (by decide))
      (hright.takes 2 hrightLevel (by decide))
  · have hassociates : Associates op.level := by
      cases op <;> first | exact absurd rfl hop | decide
    have hoperator : operator? op.level op.piece.1 = some op := by
      cases op <;> first | exact absurd rfl hop | rfl
    have hends : Ends (op.level - 1) op.piece.1 := by
      cases op <;> first | exact absurd rfl hop | decide
    rw [BinaryOp.leftLevel, if_neg hop] at hleftLevel
    have hbound := level_le (.binary left op right)
    refine .of_begins hassociates ?_
    rw [Expr.pieces]
    exact (hleft.begins op.level hassociates hleftLevel).step hoperator hends
      (hright.takes (op.level - 1) hrightLevel (by rw [Expr.level] at hbound; omega))

mutual

/-- **Legible expressions are read**, with a bound on nesting that is as large as their text. -/
theorem readable : ∀ (e : Expr) (n : Nat), e.legible = true → e.pieces.length ≤ n →
    Readable (ofDepth n) e
  | .identifier name, _, _, _ => .of_takes not_associates_zero (takes_identifier name)
  | .literal value, _, h, _ => .of_takes not_associates_zero (takes_literal h)
  | .binary left op right, n, h, hn => by
    simp only [Expr.legible, Bool.and_eq_true, decide_eq_true_eq] at h
    obtain ⟨⟨⟨hl, hr⟩, hleftLevel⟩, hrightLevel⟩ := h
    rw [Expr.pieces, length_append, length_cons] at hn
    exact readable_binary (readable left n hl (by omega)) (readable right n hr (by omega))
      hleftLevel hrightLevel
  | .isNull operand negated, n, h, hn => by
    simp only [Expr.legible, Bool.and_eq_true, decide_eq_true_eq] at h
    obtain ⟨ho, hlevel⟩ := h
    rw [Expr.pieces, length_append] at hn
    have hoperand := readable operand n ho (by omega)
    exact .of_takes not_associates_three (takes_isNull negated (hoperand.takes 2 hlevel (by decide)))
  | .inList left candidates negated, n, h, hn => by
    simp only [Expr.legible, Bool.and_eq_true, decide_eq_true_eq, Bool.not_eq_true',
      isEmpty_eq_false_iff] at h
    obtain ⟨⟨⟨hl, hlevel⟩, hne⟩, hcandidates⟩ := h
    rw [Expr.pieces] at hn
    simp only [length_append, length_cons] at hn
    have hleft := readable left n hl (by omega)
    have hlist := readable_list candidates n hcandidates fun e he => by
      have hlength := length_le_listPieces he
      omega
    exact .of_takes not_associates_three (takes_inList hne hlist negated (hleft.takes 2 hlevel (by decide)))
  | .like left pattern negated, n, h, hn => by
    simp only [Expr.legible, Bool.and_eq_true, decide_eq_true_eq] at h
    obtain ⟨⟨⟨hl, hp⟩, hleftLevel⟩, hpatternLevel⟩ := h
    rw [Expr.pieces] at hn
    simp only [length_append, length_cons] at hn
    have hleft := readable left n hl (by omega)
    have hpattern := readable pattern n hp (by omega)
    exact .of_takes not_associates_three (takes_like negated (hleft.takes 2 hleftLevel (by decide))
      (hpattern.takes 2 hpatternLevel (by decide)))
  | .call name args, n, h, hn => by
    simp only [Expr.legible, Bool.and_eq_true] at h
    rw [Expr.pieces] at hn
    simp only [length_append, length_cons] at hn
    have hargs := readable_list args n h.2 fun e he => by
      have hlength := length_le_listPieces he
      omega
    exact .of_takes not_associates_zero (takes_call h.1 hargs)
  | .window name args partitionBy orderBy, n, h, hn => by
    simp only [Expr.legible, Bool.and_eq_true] at h
    obtain ⟨⟨⟨hname, ha⟩, hp⟩, hk⟩ := h
    rw [Expr.pieces] at hn
    simp only [length_append, length_cons] at hn
    have hargs := readable_list args n ha fun e he => by
      have hlength := length_le_listPieces he
      omega
    have hpartition := readable_list partitionBy n hp fun e he => by
      have hlength := length_le_listPieces he
      have hne : partitionBy.isEmpty = false := isEmpty_eq_false_iff.2 (ne_nil_of_mem he)
      simp only [hne, Bool.false_eq_true, ↓reduceIte, length_cons] at hn
      omega
    have hkeys := readable_keys orderBy n hk fun k hk => by
      have hlength := length_le_keysPieces hk
      have hne : orderBy.isEmpty = false := isEmpty_eq_false_iff.2 (ne_nil_of_mem hk)
      simp only [hne, Bool.false_eq_true, ↓reduceIte, length_cons] at hn
      omega
    exact .of_takes not_associates_zero (takes_window hname hargs hpartition hkeys)
  | .case branches otherwise, n, h, hn => by
    simp only [Expr.legible, Bool.and_eq_true, Bool.not_eq_true', isEmpty_eq_false_iff] at h
    obtain ⟨⟨hne, hb⟩, ho⟩ := h
    rw [Expr.pieces] at hn
    simp only [length_append, length_cons] at hn
    have hbranches := readable_branches branches n hb fun b hb => by
      have hlength := length_le_branchesPieces hb
      exact ⟨by omega, by omega⟩
    have hotherwise := readable_option otherwise n ho fun e he => by
      obtain rfl := Option.mem_def.1 he
      rw [Expr.otherwisePieces, length_cons] at hn
      omega
    exact .of_takes not_associates_zero (takes_case hne hbranches hotherwise)
  | .star, _, _, _ => .of_takes not_associates_zero takes_star

theorem readable_list : ∀ (es : List Expr) (n : Nat), Expr.allLegible es = true →
    (∀ e ∈ es, e.pieces.length < n) → ∀ e ∈ es, Inner (ofDepth n) e
  | [], _, _, _ => forall_mem_nil _
  | e :: rest, n, h, hn => by
    simp only [Expr.allLegible, Bool.and_eq_true] at h
    obtain ⟨hfirst, hrest⟩ := forall_mem_cons.1 hn
    exact forall_mem_cons.2 ⟨inner_of_readable h.1 hfirst fun m hm => readable e m h.1 hm,
      readable_list rest n h.2 hrest⟩

theorem readable_keys : ∀ (keys : List SortKey) (n : Nat), Expr.keysLegible keys = true →
    (∀ k ∈ keys, k.expr.pieces.length < n) → ∀ k ∈ keys, Inner (ofDepth n) k.expr
  | [], _, _, _ => forall_mem_nil _
  | ⟨e, _⟩ :: rest, n, h, hn => by
    simp only [Expr.keysLegible, Bool.and_eq_true] at h
    obtain ⟨hfirst, hrest⟩ := forall_mem_cons.1 hn
    exact forall_mem_cons.2 ⟨inner_of_readable h.1 hfirst fun m hm => readable e m h.1 hm,
      readable_keys rest n h.2 hrest⟩

theorem readable_branches : ∀ (bs : List Branch) (n : Nat), Expr.branchesLegible bs = true →
    (∀ b ∈ bs, b.condition.pieces.length < n ∧ b.result.pieces.length < n) →
    ∀ b ∈ bs, Inner (ofDepth n) b.condition ∧ Inner (ofDepth n) b.result
  | [], _, _, _ => forall_mem_nil _
  | ⟨condition, result⟩ :: rest, n, h, hn => by
    simp only [Expr.branchesLegible, Bool.and_eq_true] at h
    obtain ⟨⟨hc, hr⟩, hrest⟩ := h
    obtain ⟨⟨hcondition, hresult⟩, hn⟩ := forall_mem_cons.1 hn
    refine forall_mem_cons.2 ⟨⟨?_, ?_⟩, readable_branches rest n hrest hn⟩
    · exact inner_of_readable hc hcondition fun m hm => readable condition m hc hm
    · exact inner_of_readable hr hresult fun m hm => readable result m hr hm

theorem readable_option : ∀ (o : Option Expr) (n : Nat), Expr.optionLegible o = true →
    (∀ e ∈ o, e.pieces.length < n) → ∀ e ∈ o, Inner (ofDepth n) e
  | none, _, _, _ => nofun
  | some e, n, h, hn => by
    rintro _ ⟨⟩
    exact inner_of_readable h (hn e rfl) fun m hm => readable e m h hm

end

end Grammar

/-! ### The text of an expression -/

/-- **Legible expressions are read back from their text**: the tree is the same, nothing is noted,
and what is left is the end of input. -/
theorem Expr.readText_text (e : Expr) (h : e.legible = true) :
    Expr.readText e.text = (e, []) ∧ ∃ position,
      (Grammar.ofDepth (Token.ofText e.text).length).expression (.ofText e.text) =
        (e, ⟨[⟨.endOfInput, "", position⟩], []⟩) := by
  have hpieces : (Token.ofText e.text).map Token.piece = e.pieces ++ [(.endOfInput, "")] :=
    (Expr.cuts_text e h).whole
  obtain ⟨tokens, last, htokens, hfront, hlast⟩ := map_eq_append_iff.1 hpieces
  obtain ⟨t, rfl, ht⟩ := map_eq_singleton_iff.1 hlast
  obtain ⟨hkind, hliteral⟩ := Prod.mk.inj ht
  have hlength : (Token.ofText e.text).length = e.pieces.length + 1 := by
    rw [htokens, length_append, ← hfront, length_map]
    rfl
  have hnext : Grammar.Ends 5 (nextKind [t]) := by
    rw [show nextKind [t] = .endOfInput from hkind]
    decide
  have hread : (Grammar.ofDepth (Token.ofText e.text).length).expression (.ofText e.text) =
      (e, ⟨[t], []⟩) := by
    have hinner := Grammar.inner_of_readable h (Nat.lt_succ_self _)
      fun m hm => Grammar.readable e m h hm
    rw [hlength, Reading.ofText, htokens]
    exact hinner.2 tokens [t] [] hfront hnext
  refine ⟨?_, t.position, ?_⟩
  · have hresult : Expr.readText e.text = (fun x : Expr × Reading => (x.1, x.2.diagnostics))
        ((Grammar.ofDepth (Token.ofText e.text).length).expression (.ofText e.text)) := rfl
    rw [hresult, hread]
  · rw [hread, ← hkind, ← hliteral]

/-- Signs and quotes, a window, and operators of all levels. -/
theorem Expr.readText_text_case :
    let sum : Expr := .binary (.identifier "t.a") .subtract (.literal (.integer (-5)))
    let condition : Expr := .binary (.binary sum .greaterEqual (.literal (.integer 0))) .and
      (.like (.identifier "name") (.literal (.string "it's -- %")) true)
    let window : Expr := .window "SUM" [.identifier "a"] [.identifier "b"]
      [⟨.identifier "c", .descending⟩]
    let e : Expr := .case [⟨condition, window⟩] (some (.literal .null))
    Expr.readText e.text = (e, []) := by
  intro sum condition window e
  exact (Expr.readText_text e (by decide +kernel)).1

end RowQuery
