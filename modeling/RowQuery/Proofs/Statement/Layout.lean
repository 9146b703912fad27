/-
# Layout does not matter

The gist of a token is its kind and, if it is a name, a string or a number, its
literal. Where a token stands, how a keyword is spelled, which of two signs
stands for "not equal" and what a stray character is, are not in it. Texts of
one gist may differ in all of these, and in blanks and comments.

Two readers *concur* if, from readings of one gist in which equally many causes
were noted, they read the same and leave such readings. Every reader of the
grammar concurs with itself. So the statement of a text, and how much is wrong
with the text, depend on its gist alone; only the messages tell the rest.

Key definitions: `Token.gist`, `Reading.Matches`, `Reader.Concurs`,
`Grammar.Concurs`.
Key theorems: `Concurs.bind`, `Concurs.advance`, `Grammar.Concurs.next`,
`Statement.readText_of_gist`.
-/
import RowQuery.Proofs.Statement.Terminates

namespace RowQuery

open List

/-! ### Gists -/

/-- The kinds of token whose literal says more than the kind. -/
def TokenKind.isSpelled : TokenKind → Bool
  | .identifier | .string | .integer | .decimal => true
  | _ => false

/-- What of a token may matter for a statement. -/
def Token.gist (t : Token) : TokenKind × Option String :=
  (t.kind, if t.kind.isSpelled then some t.literal else none)

namespace Token

variable {t t' : Token}

theorem kind_eq_of_gist (h : t.gist = t'.gist) : t.kind = t'.kind := congrArg Prod.fst h

theorem literal_eq_of_gist (h : t.gist = t'.gist) (hkind : t.kind.isSpelled = true) :
    t.literal = t'.literal := by
  have hspelled := congrArg Prod.snd h
  unfold gist at hspelled
  dsimp only at hspelled
  rw [← kind_eq_of_gist h, if_pos hkind, if_pos hkind] at hspelled
  exact Option.some.inj hspelled

/-- Whether a token is the word OR. -/
def isOr (t : Token) : Bool := t.kind == .identifier && Text.asciiLower t.literal == "or"

theorem isOr_eq_of_gist (h : t.gist = t'.gist) : t.isOr = t'.isOr := by
  unfold isOr
  rw [← kind_eq_of_gist h]
  by_cases hkind : t.kind = .identifier
  · rw [literal_eq_of_gist h (hkind ▸ rfl)]
  · rw [beq_eq_false_iff_ne.2 hkind, Bool.false_and, Bool.false_and]

end Token

/-- Tokens of one gist are left, and equally many causes were noted. -/
structure Reading.Matches (s s' : Reading) : Prop where
  rest : s.rest.map Token.gist = s'.rest.map Token.gist
  diagnostics : s.diagnostics.length = s'.diagnostics.length

namespace Reading.Matches

variable {s s' : Reading}

theorem current (h : s.Matches s') : s.current.gist = s'.current.gist := by
  obtain ⟨rest, diagnostics⟩ := s
  obtain ⟨rest', diagnostics'⟩ := s'
  have hrest : rest.map Token.gist = rest'.map Token.gist := h.rest
  cases rest with
  | nil =>
    obtain rfl : rest' = [] := map_eq_nil_iff.1 hrest.symm
    rfl
  | cons t rest =>
    obtain ⟨t', rest', rfl, ht, -⟩ := map_eq_cons_iff.1 hrest.symm
    exact ht.symm

theorem length_eq (h : s.Matches s') : s.rest.length = s'.rest.length := by
  have hlength := congrArg length h.rest
  rwa [length_map, length_map] at hlength

theorem tail (h : s.Matches s') :
    Matches ⟨s.rest.tail, s.diagnostics⟩ ⟨s'.rest.tail, s'.diagnostics⟩ where
  rest := by rw [map_tail, map_tail, h.rest]
  diagnostics := h.diagnostics

theorem note (h : s.Matches s') (d d' : Diagnostic) :
    Matches ⟨s.rest, s.diagnostics ++ [d]⟩ ⟨s'.rest, s'.diagnostics ++ [d']⟩ where
  rest := h.rest
  diagnostics := by rw [length_append, length_append, h.diagnostics]; rfl

end Reading.Matches

/-! ### Readers that concur -/

namespace Reader

variable {α β : Type}

/-- From readings of one gist, the next token of which is of a kind as given, two readers read the
same and leave readings of one gist. -/
def Concurs (P : TokenKind → Prop) (m m' : Reader α) : Prop :=
  ∀ s s' : Reading, s.Matches s' → P s.current.kind →
    (m s).1 = (m' s').1 ∧ (m s).2.Matches (m' s').2

/-- Whatever the next token is. -/
abbrev AnyKind : TokenKind → Prop := fun _ => True

namespace Concurs

variable {P Q : TokenKind → Prop} {m m' : Reader α} {k k' : α → Reader β}

theorem before (h : Concurs P m m') (hP : ∀ κ, Q κ → P κ) : Concurs Q m m' :=
  fun s s' hs hQ => h s s' hs (hP _ hQ)

theorem pure {a : α} : Concurs P (pure a) (pure a) := fun _ _ hs _ => ⟨rfl, hs⟩

theorem bind (hm : Concurs P m m') (hk : ∀ a, Concurs AnyKind (k a) (k' a)) :
    Concurs P (m >>= k) (m' >>= k') := by
  intro s s' hs hP
  obtain ⟨hresult, hleft⟩ := hm s s' hs hP
  have hnext := hk (m s).1 _ _ hleft trivial
  show (k (m s).1 (m s).2).1 = (k' (m' s').1 (m' s').2).1 ∧
    (k (m s).1 (m s).2).2.Matches (k' (m' s').1 (m' s').2).2
  rwa [← hresult]

theorem given {a : α} (hk : Concurs P (k a) (k' a)) :
    Concurs P (Pure.pure a >>= k) (Pure.pure a >>= k') := hk

theorem ite {c : Prop} [Decidable c] {r r' : Reader α} (hm : c → Concurs P m m')
    (hr : ¬c → Concurs P r r') : Concurs P (if c then m else r) (if c then m' else r') := by
  split
  · exact hm ‹_›
  · exact hr ‹_›

theorem bounded {m m' : Nat → Reader α} (h : ∀ b, Concurs P (m b) (m' b)) :
    Concurs P (Reader.bounded m) (Reader.bounded m') := by
  intro s s' hs hP
  show (m s.rest.length s).1 = (m' s'.rest.length s').1 ∧
    (m s.rest.length s).2.Matches (m' s'.rest.length s').2
  rw [← hs.length_eq]
  exact h s.rest.length s s' hs hP

/-! ### Looking -/

/-- What is seen of the next token may be different, but not its gist. -/
theorem current {k k' : Token → Reader β}
    (hk : ∀ t t' : Token, t.gist = t'.gist → Concurs (fun κ => P κ ∧ κ = t.kind) (k t) (k' t')) :
    Concurs P (Reader.current >>= k) (Reader.current >>= k') :=
  fun s s' hs hP => hk s.current s'.current hs.current s s' hs ⟨hP, rfl⟩

/-- What is in the gist of the next token is seen alike. -/
theorem look {γ : Type} (f : Token → γ) (hf : ∀ t t' : Token, t.gist = t'.gist → f t = f t')
    (k k' : γ → Reader β) (hk : ∀ t, Concurs (fun κ => P κ ∧ κ = t.kind) (k (f t)) (k' (f t))) :
    Concurs P (Reader.current >>= fun t => k (f t)) (Reader.current >>= fun t => k' (f t)) := by
  refine current fun t t' ht => ?_
  rw [← hf t t' ht]
  exact hk t

theorem kind {k k' : TokenKind → Reader β}
    (hk : ∀ κ, Concurs (fun κ' => P κ' ∧ κ' = κ) (k κ) (k' κ)) :
    Concurs P (Reader.kind >>= k) (Reader.kind >>= k') :=
  look Token.kind (fun _ _ => Token.kind_eq_of_gist) k k' fun t => hk t.kind

theorem sees {k k' : Bool → Reader β} (κ : TokenKind)
    (hk : ∀ b, Concurs (fun κ' => P κ' ∧ (b = true → κ' = κ)) (k b) (k' b)) :
    Concurs P (Reader.sees κ >>= k) (Reader.sees κ >>= k') :=
  kind (k := fun κ' => k (κ' == κ)) fun κ' =>
    (hk (κ' == κ)).before fun _ h => ⟨h.1, fun hb => h.2.trans (eq_of_beq hb)⟩

theorem secondKind {k k' : TokenKind → Reader β} (hk : ∀ κ, Concurs P (k κ) (k' κ)) :
    Concurs P (Reader.secondKind >>= k) (Reader.secondKind >>= k') := by
  intro s s' hs hP
  have hsecond : (Reader.secondKind s).1 = (Reader.secondKind s').1 :=
    Token.kind_eq_of_gist hs.tail.current
  have hnext := hk (Reader.secondKind s).1 s s' hs hP
  show (k (Reader.secondKind s).1 s).1 = (k' (Reader.secondKind s').1 s').1 ∧
    (k (Reader.secondKind s).1 s).2.Matches (k' (Reader.secondKind s').1 s').2
  rwa [← hsecond]

/-! ### Taking -/

theorem advance {k k' : Token → Reader β}
    (hk : ∀ t t' : Token, t.gist = t'.gist → P t.kind → Concurs AnyKind (k t) (k' t')) :
    Concurs P (Reader.advance >>= k) (Reader.advance >>= k') :=
  fun _ _ hs hP => hk _ _ hs.current hP _ _ hs.tail trivial

theorem eat {k k' : Bool → Reader β} (κ : TokenKind) (htaken : Concurs AnyKind (k true) (k' true))
    (hleft : Concurs P (k false) (k' false)) :
    Concurs P (Reader.eat κ >>= k) (Reader.eat κ >>= k') := by
  have hrun : ∀ (k : Bool → Reader β) (s : Reading), (Reader.eat κ >>= k) s =
      if s.current.kind == κ then k true ⟨s.rest.tail, s.diagnostics⟩ else k false s := by
    intro k s
    show k (Reader.eat κ s).1 (Reader.eat κ s).2 = _
    unfold Reader.eat
    split
    · rfl
    · rfl
  intro s s' hs hP
  rw [hrun k, hrun k', ← Token.kind_eq_of_gist hs.current]
  split
  · exact htaken _ _ hs.tail trivial
  · exact hleft s s' hs hP

theorem eating {k k' : Bool → Reader β} (κ : TokenKind) (hk : ∀ b, Concurs AnyKind (k b) (k' b)) :
    Concurs AnyKind (Reader.eat κ >>= k) (Reader.eat κ >>= k') :=
  eat κ (hk true) (hk false)

/-! ### Noting -/

/-- It does not matter what is noted, and where. -/
theorem reportAt {k k' : Unit → Reader β} (cause cause' : Cause) (position position' : Nat)
    (hk : Concurs AnyKind (k ()) (k' ())) :
    Concurs P (Reader.reportAt cause position >>= k) (Reader.reportAt cause' position' >>= k') :=
  fun _ _ hs _ => hk _ _ (hs.note ⟨cause, position⟩ ⟨cause', position'⟩) trivial

theorem report {k k' : Unit → Reader β} (cause cause' : Cause) (hk : Concurs P (k ()) (k' ())) :
    Concurs P (Reader.report cause >>= k) (Reader.report cause' >>= k') :=
  fun _ _ hs hP => hk _ _ (hs.note ⟨cause, _⟩ ⟨cause', _⟩) hP

theorem reportExpected {k k' : Unit → Reader β} (what : Expectation)
    (hk : Concurs P (k ()) (k' ())) :
    Concurs P (Reader.reportExpected what >>= k) (Reader.reportExpected what >>= k') :=
  fun s s' hs hP => report (.expected what s.current) (.expected what s'.current) hk s s' hs hP

theorem expect {k k' : Bool → Reader β} (κ : TokenKind) (what : Expectation)
    (hk : ∀ b, Concurs AnyKind (k b) (k' b)) :
    Concurs AnyKind (Reader.expect κ what >>= k) (Reader.expect κ what >>= k') := by
  have hrun : ∀ k : Bool → Reader β, Reader.expect κ what >>= k = Reader.eat κ >>= fun b =>
      (if b = true then Pure.pure true
        else do Reader.reportExpected what; Pure.pure false) >>= k := fun _ => rfl
  rw [hrun k, hrun k']
  refine eat κ (hk true) ?_
  show Concurs _ (Reader.reportExpected what >>= fun _ => k false)
    (Reader.reportExpected what >>= fun _ => k' false)
  exact reportExpected what (hk false)

/-! ### Lists -/

variable {item item' : Reader α}

theorem commaRest (h : Concurs AnyKind item item') :
    ∀ b, Concurs AnyKind (Reader.commaRest item b) (Reader.commaRest item' b)
  | 0 => pure
  | b + 1 => eating _ fun _ =>
      ite (fun _ => bind h fun _ => bind (commaRest h b) fun _ => pure) fun _ => pure

theorem commaList (h : Concurs AnyKind item item') :
    Concurs AnyKind (Reader.commaList item) (Reader.commaList item') :=
  bind h fun _ => bind (bounded (commaRest h)) fun _ => pure

theorem skipAll (κ : TokenKind) : ∀ b, Concurs AnyKind (Reader.skipAll κ b) (Reader.skipAll κ b)
  | 0 => pure
  | b + 1 => eating κ fun _ => ite (fun _ => skipAll κ b) fun _ => pure

end Concurs

end Reader

namespace Grammar

open Reader

/-- What is nested in a grammar concurs with itself. -/
structure Concurs (g : Grammar) : Prop where
  expression : Reader.Concurs AnyKind g.expression g.expression
  body : Reader.Concurs AnyKind g.body g.body

section Expressions

variable {expression : Reader Expr} (h : Reader.Concurs AnyKind expression expression)

include h

theorem concurs_sortKey : Reader.Concurs AnyKind (sortKey expression) (sortKey expression) :=
  .bind h fun _ => .eating _ fun _ => .ite (fun _ => .pure) fun _ => .eating _ fun _ => .pure

theorem concurs_orderBy : Reader.Concurs AnyKind (orderBy expression) (orderBy expression) := by
  refine .eating _ fun _ => .ite (fun _ => ?_) fun _ => .pure
  exact .expect _ _ fun _ => .commaList (concurs_sortKey h)

end Expressions

/-! ### Primaries -/

section Nested

variable {P : TokenKind → Prop} {g : Grammar} (hg : g.Concurs)

include hg

theorem concurs_nested : Reader.Concurs AnyKind (nested g) (nested g) := by
  refine .sees _ fun _ => .sees _ fun _ => .before (P := AnyKind) ?_ fun _ _ => trivial
  exact .ite (fun _ => .bind hg.body fun _ => .pure) fun _ => hg.expression

theorem concurs_window (name : String) (args : List Expr) :
    Reader.Concurs P (window g name args) (window g name args) := by
  refine .advance fun _ _ _ _ => .expect _ _ fun _ => .eating _ fun _ => ?_
  refine .ite (fun _ => .expect _ _ fun _ => .bind (.commaList hg.expression) fun _ => ?_)
    fun _ => .given ?_
  all_goals exact .bind (concurs_orderBy hg.expression) fun _ => .expect _ _ fun _ => .pure

theorem concurs_call (name : String) : Reader.Concurs P (call g name) (call g name) := by
  refine .advance fun _ _ _ _ => .sees _ fun _ => .before (P := AnyKind) ?_ fun _ _ => trivial
  refine .ite (fun _ => .given ?_) fun _ => .bind (.commaList hg.expression) fun _ => ?_
  all_goals
    refine .expect _ _ fun _ => .sees _ fun _ => .ite (fun _ => ?_) fun _ => .pure
    exact concurs_window hg _ _

theorem concurs_branch : Reader.Concurs AnyKind (branch g) (branch g) :=
  .bind hg.expression fun _ => .expect _ _ fun _ => .bind hg.expression fun _ => .pure

theorem concurs_branches : ∀ b, Reader.Concurs AnyKind (branches g b) (branches g b)
  | 0 => .pure
  | b + 1 => by
    rw [branches_succ]
    refine .eating _ fun _ => .ite (fun _ => ?_) fun _ => .pure
    exact .bind (concurs_branch hg) fun _ => .bind (concurs_branches b) fun _ => .pure

theorem concurs_caseExpr : Reader.Concurs P (caseExpr g) (caseExpr g) := by
  refine .advance fun _ _ _ _ => .bind (.bounded (concurs_branches hg)) fun list => ?_
  refine .ite (fun _ => .reportExpected _ ?_) fun _ => ?_
  all_goals
    refine .eating _ fun _ => ?_
    refine .ite (fun _ => .bind hg.expression fun _ => .given ?_) fun _ => .given ?_
    all_goals exact .expect _ _ fun _ => .pure

omit hg in
/-- A stray token is noted as what it is, but it is null whatever it is. -/
theorem concurs_stray (t t' : Token) : Reader.Concurs P (stray t) (stray t') :=
  .advance fun _ _ _ _ => .reportAt _ _ _ _ .pure

/-- **A primary concurs with itself**: of the tokens that a value is made of, the gist tells the
literal. -/
theorem concurs_primary : Reader.Concurs P (primary g) (primary g) := by
  refine .current fun t t' ht => ?_
  have hliteral := Token.literal_eq_of_gist ht
  obtain ⟨κ, literal, position⟩ := t
  obtain ⟨κ', literal', position'⟩ := t'
  obtain rfl : κ = κ' := Token.kind_eq_of_gist ht
  dsimp only at hliteral ⊢
  -- Both readers take the branch of the one kind; only values and names are made of literals.
  split
  any_goals exact .advance fun _ _ _ _ => .pure
  · rw [hliteral rfl]
    exact .advance fun _ _ _ _ => .pure
  · rw [hliteral rfl]
    exact .advance fun _ _ _ _ => .pure
  · rw [hliteral rfl]
    exact .advance fun _ _ _ _ => .pure
  · exact .advance fun _ _ _ _ => .bind (concurs_nested hg) fun _ => .expect _ _ fun _ => .pure
  · exact concurs_caseExpr hg
  · rw [hliteral rfl]
    refine .advance fun _ _ _ _ => .sees _ fun _ => .ite (fun _ => ?_) fun _ => .pure
    exact concurs_call hg _
  · exact concurs_stray _ _
  · exact .report _ _ .pure
  · exact .report _ _ (.advance fun _ _ _ _ => .pure)

/-! ### Operators -/

theorem concurs_signed : ∀ b, Reader.Concurs AnyKind (signed g b) (signed g b)
  | 0 => concurs_primary hg
  | b + 1 => .eating _ fun _ =>
    .ite (fun _ => .bind (concurs_signed b) fun _ => .pure) fun _ => concurs_primary hg

omit hg in
theorem concurs_chain (operator? : TokenKind → Option BinaryOp) {operand : Reader Expr}
    (hoperand : Reader.Concurs AnyKind operand operand) : ∀ (b : Nat) (left : Expr),
    Reader.Concurs AnyKind (chain operator? operand b left) (chain operator? operand b left)
  | 0, _ => .pure
  | b + 1, left => by
    rw [chain_succ]
    refine .kind fun κ => ?_
    cases operator? κ with
    | none => exact .pure
    | some op =>
      refine .advance fun _ _ _ _ => .bind hoperand fun right => ?_
      exact concurs_chain operator? hoperand b (.binary left op right)

omit hg in
theorem concurs_leftAssociative (operator? : TokenKind → Option BinaryOp) {operand : Reader Expr}
    (hoperand : Reader.Concurs AnyKind operand operand) :
    Reader.Concurs AnyKind (leftAssociative operator? operand) (leftAssociative operator? operand) :=
  .bind hoperand fun first => .bounded fun b => concurs_chain operator? hoperand b first

theorem concurs_product : Reader.Concurs AnyKind (product g) (product g) :=
  concurs_leftAssociative _ (.bounded (concurs_signed hg))

theorem concurs_sum : Reader.Concurs AnyKind (sum g) (sum g) :=
  concurs_leftAssociative _ (concurs_product hg)

theorem concurs_inList (left : Expr) (negated : Bool) :
    Reader.Concurs P (inList g left negated) (inList g left negated) := by
  refine .advance fun _ _ _ _ => .expect _ _ fun _ => ?_
  refine .sees _ fun _ => .sees _ fun _ => .before (P := AnyKind) ?_ fun _ _ => trivial
  refine .ite (fun _ => .bind hg.body fun _ => .given ?_) fun _ =>
    .bind (.commaList hg.expression) fun _ => ?_
  all_goals exact .expect _ _ fun _ => .pure

theorem concurs_like (left : Expr) (negated : Bool) :
    Reader.Concurs P (like g left negated) (like g left negated) :=
  .advance fun _ _ _ _ => .bind (concurs_sum hg) fun _ => .pure

theorem concurs_comparison : Reader.Concurs AnyKind (comparison g) (comparison g) := by
  refine .bind (concurs_sum hg) fun left => .kind fun κ => ?_
  cases comparisonOperator? κ with
  | some op => exact .advance fun _ _ _ _ => .bind (concurs_sum hg) fun _ => .pure
  | none =>
    dsimp only
    split
    · refine .advance fun _ _ _ _ => .eating _ fun _ => ?_
      exact .expect _ _ fun _ => .pure
    · refine .advance fun _ _ _ _ => .kind fun κ => ?_
      split
      · exact concurs_inList hg left true
      · exact concurs_like hg left true
      · exact .reportExpected _ .pure
    · exact concurs_inList hg left false
    · exact concurs_like hg left false
    · exact .pure

omit hg in
/-- The word OR is no keyword, so that its gist tells it. -/
theorem concurs_seesOr {α : Type} {k k' : Bool → Reader α}
    (hk : ∀ b, Reader.Concurs P (k b) (k' b)) :
    Reader.Concurs P (seesOr >>= k) (seesOr >>= k') :=
  .look Token.isOr (fun _ _ => Token.isOr_eq_of_gist) k k' fun t =>
    (hk t.isOr).before fun _ h => h.1

theorem concurs_disjunction : Reader.Concurs AnyKind (disjunction g) (disjunction g) := by
  have hconjunction := concurs_leftAssociative andOperator? (concurs_comparison hg)
  refine .bind hconjunction fun e => concurs_seesOr fun b => .ite (fun hb => ?_) fun _ => .pure
  exact .report _ _ (.advance fun _ _ _ _ => .bind hconjunction fun _ => .pure)

end Nested

/-! ### Clauses -/

/-- An alias is of a kind whose literal is in the gist. -/
theorem concurs_optionalAlias {accepts : TokenKind → Bool}
    (haccepts : ∀ κ, accepts κ = true → κ.isSpelled = true) (what : Expectation) :
    Reader.Concurs AnyKind (optionalAlias accepts what) (optionalAlias accepts what) := by
  refine .eating _ fun _ => .ite (fun _ => ?_) fun _ => ?_
  · refine .kind fun κ => .ite (fun hκ => ?_) fun _ => .reportExpected _ .pure
    refine .advance fun t t' ht hP => ?_
    rw [Token.literal_eq_of_gist ht (hP.2 ▸ haccepts κ hκ)]
    exact .pure
  · refine .sees _ fun b => concurs_seesOr fun o => .ite (fun hb => ?_) fun _ => .pure
    refine .advance fun t t' ht hP => ?_
    have hkind : t.kind = .identifier := hP.2 (Bool.and_eq_true_iff.1 hb).1
    rw [Token.literal_eq_of_gist ht (hkind ▸ rfl)]
    exact .pure

theorem isSpelled_of_isName {κ : TokenKind} (h : isName κ = true) : κ.isSpelled = true := by
  unfold isName at h
  rcases Bool.or_eq_true_iff.1 h with h | h
  · rw [eq_of_beq h]; rfl
  · rw [eq_of_beq h]; rfl

theorem isSpelled_of_identifier {κ : TokenKind} (h : (κ == .identifier) = true) :
    κ.isSpelled = true := by
  rw [eq_of_beq h]; rfl

/-- The word for a kind of source is a name by its kind. -/
theorem concurs_sourceKind : Reader.Concurs AnyKind sourceKind sourceKind := by
  refine .current fun t t' ht => .secondKind fun κ => .before (P := AnyKind) ?_ fun _ _ => trivial
  have hliteral := Token.literal_eq_of_gist ht
  obtain ⟨κ, literal, position⟩ := t
  obtain ⟨κ', literal', position'⟩ := t'
  obtain rfl : κ = κ' := Token.kind_eq_of_gist ht
  dsimp only at hliteral ⊢
  by_cases hkind : κ = .identifier
  · obtain rfl := hkind
    rw [hliteral rfl]
    split
    · exact .advance fun _ _ _ _ => .pure
    · exact .pure
  · split
    · contradiction
    · split
      · contradiction
      · exact .pure

theorem concurs_tableRef : Reader.Concurs AnyKind tableRef tableRef := by
  have halias := concurs_optionalAlias (fun _ => isSpelled_of_identifier) .tableAlias
  refine .bind concurs_sourceKind fun k => .kind fun κ => .ite (fun hκ => ?_) fun _ => ?_
  · refine .advance fun t t' ht hP => ?_
    rw [Token.literal_eq_of_gist ht (hP.2 ▸ isSpelled_of_isName hκ)]
    exact .given (.bind halias fun _ => .pure)
  · refine .reportExpected _ (.given (.before (P := AnyKind) ?_ fun _ _ => trivial))
    exact .bind halias fun _ => .pure

theorem concurs_joinEnd (κ : TokenKind) (kind : JoinKind) :
    Reader.Concurs AnyKind (joinEnd κ kind) (joinEnd κ kind) := by
  refine .ite (fun _ => .eating _ fun _ => ?_) fun _ => ?_
  · exact .expect _ _ fun _ => .pure
  · exact .expect _ _ fun _ => .pure

theorem concurs_joinKind? : Reader.Concurs AnyKind joinKind? joinKind? := by
  refine .kind fun κ => .ite (fun _ => .advance fun _ _ _ _ => .pure) fun _ => ?_
  cases joinWord? κ with
  | none => exact .pure
  | some kind => exact .advance fun _ _ _ _ => concurs_joinEnd κ kind

section Queries

variable {expression : Reader Expr} (h : Reader.Concurs AnyKind expression expression)

include h

theorem concurs_selectItem :
    Reader.Concurs AnyKind (selectItem expression) (selectItem expression) :=
  .eat _ .pure (.bind h fun _ =>
    .bind (concurs_optionalAlias (fun _ => isSpelled_of_isName) _) fun _ => .pure)

theorem concurs_join (kind : JoinKind) :
    Reader.Concurs AnyKind (join expression kind) (join expression kind) := by
  refine .bind concurs_tableRef fun table => .eating _ fun _ => .ite (fun _ => ?_) fun _ => ?_
  · exact .bind h fun _ => .pure
  · exact .ite (fun _ => .report _ _ .pure) fun _ => .pure

theorem concurs_joins : ∀ b, Reader.Concurs AnyKind (joins expression b) (joins expression b)
  | 0 => .pure
  | b + 1 => by
    rw [joins_succ]
    refine .bind concurs_joinKind? fun word => ?_
    cases word with
    | none => exact .pure
    | some kind => exact .bind (concurs_join h kind) fun _ => .bind (concurs_joins b) fun _ => .pure

theorem concurs_clause (word : Keyword) :
    Reader.Concurs AnyKind (clause word expression) (clause word expression) :=
  .eating _ fun _ => .ite (fun _ => .bind h fun _ => .pure) fun _ => .pure

theorem concurs_groupBy : Reader.Concurs AnyKind (groupBy expression) (groupBy expression) :=
  .eating _ fun _ => .ite (fun _ => .expect _ _ fun _ => .commaList h) fun _ => .pure

omit h in
theorem rowCountOf?_eq_of_gist {t t' : Token} (ht : t.gist = t'.gist) :
    rowCountOf? t = rowCountOf? t' := by
  unfold rowCountOf?
  rw [← Token.kind_eq_of_gist ht]
  by_cases hkind : t.kind = .integer
  · rw [Token.literal_eq_of_gist ht (hkind ▸ rfl)]
  · rw [if_neg fun h => hkind (eq_of_beq h), if_neg fun h => hkind (eq_of_beq h)]

omit h in
theorem concurs_rowCount : Reader.Concurs AnyKind rowCount rowCount := by
  refine .current fun t t' ht => ?_
  rw [← rowCountOf?_eq_of_gist ht, ← Token.kind_eq_of_gist ht]
  split
  · exact .advance fun _ _ _ _ => .pure
  · exact .reportExpected _ (.ite (fun _ => .advance fun _ _ _ _ => .pure) fun _ => .pure)

omit h in
theorem concurs_limit : Reader.Concurs AnyKind limit limit := by
  refine .eating _ fun _ => .ite (fun _ => ?_) fun _ => ?_
  · refine .bind concurs_rowCount fun _ => .eating _ fun _ => .ite (fun _ => ?_) fun _ => .pure
    exact .bind concurs_rowCount fun _ => .pure
  · refine .eating _ fun _ => .ite (fun _ => ?_) fun _ => .pure
    exact .bind concurs_rowCount fun _ => .pure

theorem concurs_query : Reader.Concurs AnyKind (query expression) (query expression) := by
  refine .expect _ _ fun _ => .eating _ fun _ => ?_
  refine .bind (.commaList (concurs_selectItem h)) fun _ => .expect _ _ fun _ => ?_
  refine .ite (fun _ => .bind concurs_tableRef fun _ => ?_) fun _ => .given ?_
  -- The clauses are the same with a table and without.
  all_goals
    refine .bind (.bounded (concurs_joins h)) fun _ => .bind (concurs_clause h .WHERE) fun _ => ?_
    refine .bind (concurs_groupBy h) fun _ => .bind (concurs_clause h .HAVING) fun _ => ?_
    exact .bind (concurs_orderBy h) fun _ => .bind concurs_limit fun _ => .pure

end Queries

/-! ### Statements -/

theorem concurs_setOperator? : Reader.Concurs AnyKind setOperator? setOperator? := by
  refine .kind fun κ => ?_
  split
  · refine .advance fun _ _ _ _ => .eating _ fun _ => ?_
    exact .ite (fun _ => .pure) fun _ => .pure
  · exact .advance fun _ _ _ _ => .pure
  · exact .advance fun _ _ _ _ => .pure
  · exact .pure

theorem concurs_tableExpr {body : Reader Statement} (h : Reader.Concurs AnyKind body body) :
    Reader.Concurs AnyKind (tableExpr body) (tableExpr body) := by
  refine .sees _ fun b => .ite (fun hb => ?_) fun _ => .reportExpected _ ?_
  · refine .advance fun t t' ht hP => ?_
    have hkind : t.kind = .identifier := hP.2 hb
    rw [Token.literal_eq_of_gist ht (hkind ▸ rfl)]
    refine .given (.expect _ _ fun _ => .expect _ _ fun _ => .bind h fun _ => ?_)
    exact .expect _ _ fun _ => .pure
  · refine .given (.before (P := AnyKind) ?_ fun _ _ => trivial)
    refine .expect _ _ fun _ => .expect _ _ fun _ => .bind h fun _ => ?_
    exact .expect _ _ fun _ => .pure

theorem concurs_compound {expression : Reader Expr}
    (h : Reader.Concurs AnyKind expression expression) :
    Reader.Concurs AnyKind (compound expression) (compound expression) := by
  refine .bind concurs_setOperator? fun op => ?_
  cases op with
  | none => exact .pure
  | some op =>
    refine .bind (concurs_query h) fun right => .bind concurs_setOperator? fun second => ?_
    refine .ite (fun _ => ?_) fun _ => .pure
    exact .report _ _ (.bind (concurs_query h) fun _ => .pure)

theorem concurs_statement {expression : Reader Expr} {body : Reader Statement}
    (h : Reader.Concurs AnyKind expression expression) (hbody : Reader.Concurs AnyKind body body) :
    Reader.Concurs AnyKind (statement expression body) (statement expression body) := by
  refine .eating _ fun _ => ?_
  refine .ite (fun _ => .bind (.commaList (concurs_tableExpr hbody)) fun _ => ?_) fun _ => .given ?_
  all_goals exact .bind (concurs_query h) fun _ => .bind (concurs_compound h) fun _ => .pure

/-! ### Nesting -/

/-- **One more level of nesting concurs with itself if what is nested does.** -/
theorem Concurs.next {g : Grammar} (hg : g.Concurs) : g.next.Concurs where
  expression := concurs_disjunction hg
  body := concurs_statement (concurs_disjunction hg) hg.body

theorem concurs_exhausted : exhausted.Concurs where
  expression := .report _ _ .pure
  body := .report _ _ .pure

theorem concurs_ofDepth : ∀ depth, (ofDepth depth).Concurs
  | 0 => concurs_exhausted
  | depth + 1 => (concurs_ofDepth depth).next

end Grammar

/-! ### Whole texts -/

namespace Statement

theorem concurs_read {g : Grammar} (hg : g.Concurs) :
    Reader.Concurs Reader.AnyKind (Statement.read g) (Statement.read g) := by
  refine .bind hg.body fun statement => .bind (.bounded (.skipAll _)) fun _ => ?_
  refine .current fun t t' ht => ?_
  rw [← Token.kind_eq_of_gist ht]
  exact .ite (fun _ => .report _ _ .pure) fun _ => .pure

/-- **Layout does not matter.** Two texts whose tokens agree in their kinds, and in the literals of
their names, strings and numbers, are read as one statement, with equally many causes noted. Blanks,
comments, the case of keywords, the sign for "not equal", where tokens stand and what stray characters
there are make no difference. -/
theorem readText_of_gist {text text' : String}
    (h : (Token.ofText text).map Token.gist = (Token.ofText text').map Token.gist) :
    (readText text).1 = (readText text').1 ∧
      (readText text).2.length = (readText text').2.length := by
  have hmatches : (Reading.ofText text).Matches (.ofText text') := ⟨h, rfl⟩
  have hconcurs := concurs_read (Grammar.concurs_ofDepth (Token.ofText text).length)
  obtain ⟨hstatement, hleft⟩ := hconcurs _ _ hmatches trivial
  have hread : ∀ text, readText text =
      ((Statement.read (Grammar.ofDepth (Token.ofText text).length) (.ofText text)).1,
        (Statement.read (Grammar.ofDepth (Token.ofText text).length) (.ofText text)).2.diagnostics) :=
    fun _ => rfl
  have hdepth : (Token.ofText text).length = (Token.ofText text').length := hmatches.length_eq
  rw [hread, hread, ← hdepth]
  exact ⟨hstatement, hleft.diagnostics⟩

/-- In two lines or in one, with a stray character in both texts. -/
theorem readText_of_gist_lines :
    let text := "SELECT a<>1 -- all\nFROM t #"
    let text' := "select a!=1 from t~"
    text ≠ text' ∧ (Token.ofText text).map Token.gist = (Token.ofText text').map Token.gist ∧
      (Statement.readText text).1 = (Statement.readText text').1 ∧
      (Statement.readText text).2.length = (Statement.readText text').2.length := by
  have hgist : (Token.ofText "SELECT a<>1 -- all\nFROM t #").map Token.gist =
      (Token.ofText "select a!=1 from t~").map Token.gist := by
    decide +kernel
  exact ⟨by decide, hgist, readText_of_gist hgist⟩

end Statement

end RowQuery
