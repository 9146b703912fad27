/-
# What readers take

A reader *takes* a thing from some pieces if, from tokens that are these pieces
and in front of a token that may follow them, it reads the thing, leaves what
follows and notes nothing. There is a rule for each reader of one token, put
together with what is read after it; the rest is composed.

What may follow a reader is what comes next: the first of the pieces that are
read after it or, if there are none, what may follow these.

Key definitions: `Reader.Takes`, `Reader.Next`, `Reader.Begins`.
Key theorems: `Takes.bind`, `Takes.bounded`, `Takes.commaList`, `Begins.step`,
`Begins.takes`.
-/
import RowQuery.Proofs.Token.Piece
import RowQuery.Statement.Parser

namespace RowQuery.Reader

open List Token

variable {α β : Type}

/-- The kind of the next of some tokens. -/
def nextKind (tokens : List Token) : TokenKind := (Reading.current ⟨tokens, []⟩).kind

/-- From tokens that are the given pieces, before one that may follow, a reader takes a thing. -/
def Takes (m : Reader α) (a : α) (ps : List Piece) (follow : TokenKind → Prop) : Prop :=
  ∀ (tokens after : List Token) (ds : List Diagnostic), tokens.map piece = ps →
    follow (nextKind after) → m ⟨tokens ++ after, ds⟩ = (a, ⟨after, ds⟩)

/-- A kind that may be next where some pieces are to be read: the first one's, if there is one. -/
def Next : List Piece → (TokenKind → Prop) → TokenKind → Prop
  | [], follow, k => follow k
  | p :: _, _, k => k = p.1

theorem next_of_map {tokens after : List Token} {ps : List Piece} {follow : TokenKind → Prop}
    (hps : tokens.map piece = ps) (hfollow : follow (nextKind after)) :
    Next ps follow (nextKind (tokens ++ after)) := by
  subst hps
  cases tokens with
  | nil => exact hfollow
  | cons t rest => rfl

namespace Takes

variable {m : Reader α} {a : α} {b : β} {p : Piece} {ps q : List Piece} {k : α → Reader β}
  {F G : TokenKind → Prop}

theorem pure : Takes (pure a : Reader α) a [] F := by
  intro tokens after ds hps _
  rw [map_eq_nil_iff.1 hps]
  rfl

theorem mono (h : Takes m a ps F) (hFG : ∀ κ, G κ → F κ) : Takes m a ps G :=
  fun tokens after ds hps hfollow => h tokens after ds hps (hFG _ hfollow)

/-- One reader after another, before which may be what the other one starts with. -/
theorem bind (h : Takes m a ps F) (hk : Takes (k a) b q G) (hnext : ∀ κ, Next q G κ → F κ) :
    Takes (m >>= k) b (ps ++ q) G := by
  intro tokens after ds hps hfollow
  obtain ⟨front, back, rfl, hfront, hback⟩ := map_eq_append_iff.1 hps
  have hm := h front (back ++ after) ds hfront (hnext _ (next_of_map hback hfollow))
  have hrun : (m >>= k) ⟨front ++ back ++ after, ds⟩ =
      k (m ⟨front ++ back ++ after, ds⟩).1 (m ⟨front ++ back ++ after, ds⟩).2 := rfl
  rw [hrun, append_assoc, hm]
  exact hk back after ds hback hfollow

/-! ### Looking at a token -/

theorem kind {k : TokenKind → Reader β} (hk : ∀ κ, Next q G κ → Takes (k κ) b q (fun κ' => G κ')) :
    Takes (Reader.kind >>= k) b q G :=
  fun tokens after ds hps hfollow => hk _ (next_of_map hps hfollow) tokens after ds hps hfollow

theorem current {k : Token → Reader β}
    (hk : ∀ position, Takes (k ⟨p.1, p.2, position⟩) b (p :: q) G) :
    Takes (Reader.current >>= k) b (p :: q) G := by
  intro tokens after ds hps hfollow
  cases tokens with
  | nil => exact nomatch hps
  | cons t rest =>
    have ht : t = ⟨p.1, p.2, t.position⟩ := by
      rw [← (cons.inj hps).1]
      rfl
    have htake := hk t.position (t :: rest) after ds hps hfollow
    rw [← ht] at htake
    exact htake

theorem sees {κ : TokenKind} {k : Bool → Reader β} (hk : Takes (k true) b q G)
    (hnext : ∀ κ', Next q G κ' → κ' = κ) : Takes (Reader.sees κ >>= k) b q G := by
  intro tokens after ds hps hfollow
  have hsees : (nextKind (tokens ++ after) == κ) = true :=
    beq_iff_eq.2 (hnext _ (next_of_map hps hfollow))
  show k (nextKind (tokens ++ after) == κ) _ = _
  rw [hsees]
  exact hk tokens after ds hps hfollow

theorem sees_not {κ : TokenKind} {k : Bool → Reader β} (hk : Takes (k false) b q G)
    (hnext : ∀ κ', Next q G κ' → κ' ≠ κ) : Takes (Reader.sees κ >>= k) b q G := by
  intro tokens after ds hps hfollow
  have hsees : (nextKind (tokens ++ after) == κ) = false :=
    beq_eq_false_iff_ne.2 (hnext _ (next_of_map hps hfollow))
  show k (nextKind (tokens ++ after) == κ) _ = _
  rw [hsees]
  exact hk tokens after ds hps hfollow

/-! ### Taking a token -/

theorem advance {k : Token → Reader β} (hk : ∀ t, t.piece = p → Takes (k t) b q G) :
    Takes (Reader.advance >>= k) b (p :: q) G := by
  intro tokens after ds hps hfollow
  cases tokens with
  | nil => exact nomatch hps
  | cons t rest =>
    obtain ⟨hp, hqs⟩ := cons.inj hps
    exact hk t hp rest after ds hqs hfollow

theorem eat {κ : TokenKind} {k : Bool → Reader β} (hk : Takes (k true) b q G) (hp : p.1 = κ) :
    Takes (Reader.eat κ >>= k) b (p :: q) G := by
  intro tokens after ds hps hfollow
  cases tokens with
  | nil => exact nomatch hps
  | cons t rest =>
    obtain ⟨htp, hqs⟩ := cons.inj hps
    have hkind : t.kind = κ := by rw [← hp, ← htp]; rfl
    have heat : Reader.eat κ ⟨t :: rest ++ after, ds⟩ = (true, ⟨rest ++ after, ds⟩) :=
      if_pos (beq_iff_eq.2 hkind)
    show k (Reader.eat κ ⟨t :: rest ++ after, ds⟩).1 (Reader.eat κ ⟨t :: rest ++ after, ds⟩).2 = _
    rw [heat]
    exact hk rest after ds hqs hfollow

theorem eat_not {κ : TokenKind} {k : Bool → Reader β} (hk : Takes (k false) b q G)
    (hnext : ∀ κ', Next q G κ' → κ' ≠ κ) : Takes (Reader.eat κ >>= k) b q G := by
  intro tokens after ds hps hfollow
  have hne : nextKind (tokens ++ after) ≠ κ := hnext _ (next_of_map hps hfollow)
  have heat : Reader.eat κ ⟨tokens ++ after, ds⟩ = (false, ⟨tokens ++ after, ds⟩) :=
    if_neg fun h => hne (beq_iff_eq.1 h)
  show k (Reader.eat κ ⟨tokens ++ after, ds⟩).1 (Reader.eat κ ⟨tokens ++ after, ds⟩).2 = _
  rw [heat]
  exact hk tokens after ds hps hfollow

theorem expect {κ : TokenKind} {what : Expectation} {k : Bool → Reader β}
    (hk : Takes (k true) b q G) (hp : p.1 = κ) :
    Takes (Reader.expect κ what >>= k) b (p :: q) G := by
  unfold Reader.expect
  rw [bind_assoc]
  exact eat hk hp

/-! ### Repeated readers -/

/-- A reader of which only the result is used. -/
theorem last {g : α → β} (h : Takes m a ps F) : Takes (m >>= fun x => Pure.pure (g x)) (g a) ps F := by
  intro tokens after ds hps hfollow
  have hm := h tokens after ds hps hfollow
  show (g (m ⟨tokens ++ after, ds⟩).1, (m ⟨tokens ++ after, ds⟩).2) = _
  rw [hm]

/-- A bound that the pieces do not exceed is enough. -/
theorem bounded {m : Nat → Reader α} (h : ∀ n, ps.length ≤ n → Takes (m n) a ps F) :
    Takes (Reader.bounded m) a ps F := by
  intro tokens after ds hps hfollow
  have hlength : ps.length ≤ (tokens ++ after).length := by
    rw [← hps, length_map, length_append]
    omega
  exact h _ hlength tokens after ds hps hfollow

variable {item : Reader α} {f : α → List Piece}

/-- After items there is a comma, or what may follow them all. -/
theorem next_commas (hcomma : F .comma) {as : List α} {κ : TokenKind}
    (h : Next (as.flatMap fun a => comma :: f a) (fun κ => F κ ∧ κ ≠ .comma) κ) : F κ := by
  cases as with
  | nil => exact h.1
  | cons a rest =>
    have hκ : κ = .comma := h
    exact hκ ▸ hcomma

theorem commaRest (hcomma : F .comma) : ∀ (as : List α) (n : Nat),
    (as.flatMap fun a => comma :: f a).length ≤ n → (∀ a ∈ as, Takes item a (f a) F) →
    Takes (Reader.commaRest item n) as (as.flatMap fun a => comma :: f a)
      (fun κ => F κ ∧ κ ≠ .comma)
  | [], 0, _, _ => pure
  | [], n + 1, _, _ => eat_not pure fun κ h => h.2
  | a :: as, 0, hn, _ => absurd hn (by simp)
  | a :: as, n + 1, hn, h => by
    obtain ⟨ha, has⟩ := forall_mem_cons.1 h
    have hlength : (as.flatMap fun a => comma :: f a).length ≤ n := by
      rw [flatMap_cons, length_append, length_cons] at hn
      omega
    have hrest := (commaRest hcomma as n hlength has).last (g := (a :: ·))
    exact eat (ha.bind hrest fun κ hκ => next_commas hcomma hκ) rfl

/-- Items with commas between them. -/
theorem commaList (hcomma : F .comma) {as : List α} (h : ∀ b ∈ a :: as, Takes item b (f b) F) :
    Takes (Reader.commaList item) (a :: as) (f a ++ as.flatMap fun a => comma :: f a)
      (fun κ => F κ ∧ κ ≠ .comma) := by
  obtain ⟨ha, has⟩ := forall_mem_cons.1 h
  have hrest := (bounded fun n hn => commaRest hcomma as n hn has).last (g := (a :: ·))
  exact ha.bind hrest fun κ hκ => next_commas hcomma hκ

end Takes

/-! ### Operands with operators between them -/

open Grammar in
/-- An operand, or several with operators between them, are read and further ones may follow. -/
def Begins (operator? : TokenKind → Option BinaryOp) (operand : Reader Expr) (e : Expr)
    (ps : List Piece) (follow : TokenKind → Prop) : Prop :=
  ∀ (tokens after : List Token) (ds : List Diagnostic), tokens.map piece = ps →
    follow (nextKind after) → ∃ n, after.length ≤ n ∧
      leftAssociative operator? operand ⟨tokens ++ after, ds⟩ =
        chain operator? operand n e ⟨after, ds⟩

namespace Begins

variable {operator? : TokenKind → Option BinaryOp} {operand : Reader Expr} {e left right : Expr}
  {op : BinaryOp} {p : Piece} {ps q : List Piece} {F G : TokenKind → Prop}

theorem kind_bind (k : TokenKind → Reader α) (s : Reading) :
    (Reader.kind >>= k) s = k s.current.kind s := rfl

/-- One operand. -/
theorem of_takes (h : Takes operand e ps F) : Begins operator? operand e ps F := by
  intro tokens after ds hps hfollow
  have hoperand := h tokens after ds hps hfollow
  refine ⟨after.length, le_rfl, ?_⟩
  show Grammar.chain operator? operand (operand ⟨tokens ++ after, ds⟩).2.rest.length
    (operand ⟨tokens ++ after, ds⟩).1 (operand ⟨tokens ++ after, ds⟩).2 = _
  rw [hoperand]

/-- One more operand, after an operator. -/
theorem step (h : Begins operator? operand left ps F) (hop : operator? p.1 = some op)
    (hp : F p.1) (hright : Takes operand right q G) :
    Begins operator? operand (.binary left op right) (ps ++ p :: q) G := by
  intro tokens after ds hps hfollow
  obtain ⟨front, back, rfl, hfront, hback⟩ := map_eq_append_iff.1 hps
  cases back with
  | nil => exact nomatch hback
  | cons t back =>
    obtain ⟨htp, hqs⟩ := cons.inj hback
    have hkind : t.kind = p.1 := congrArg Prod.fst htp
    have hnext : F (nextKind (t :: (back ++ after))) := by
      rw [← hkind] at hp
      exact hp
    obtain ⟨n, hn, hrun⟩ := h front (t :: (back ++ after)) ds hfront hnext
    have hoperand := hright back after ds hqs hfollow
    cases n with
    | zero => exact absurd hn (by simp)
    | succ n =>
      refine ⟨n, ?_, ?_⟩
      · rw [length_cons, length_append] at hn
        omega
      · have hsome : operator? (Reading.current ⟨t :: (back ++ after), ds⟩).kind = some op := by
          rw [← hop, ← hkind]
          rfl
        rw [append_assoc, cons_append, hrun, Grammar.chain, kind_bind, hsome]
        show Grammar.chain operator? operand n (.binary left op (operand ⟨back ++ after, ds⟩).1)
          (operand ⟨back ++ after, ds⟩).2 = _
        rw [hoperand]

/-- No more operands. -/
theorem takes (h : Begins operator? operand e ps F) :
    Takes (Grammar.leftAssociative operator? operand) e ps
      (fun κ => F κ ∧ operator? κ = none) := by
  intro tokens after ds hps hfollow
  obtain ⟨n, -, hrun⟩ := h tokens after ds hps hfollow.1
  rw [hrun]
  cases n with
  | zero => rfl
  | succ n =>
    have hnone : operator? (Reading.current ⟨after, ds⟩).kind = none := hfollow.2
    rw [Grammar.chain, kind_bind, hnone]
    rfl

end Begins

end RowQuery.Reader
