/-
# Readers account for tokens

A reader takes tokens from the front of a reading and may note something.
Whatever it does, it takes no token twice, and notes are never withdrawn. If it
notes nothing it *accounts* for what it took: before it and after it something
is known about the next token and about the tokens listed so far, as before and
after a command of a program.

Once something is noted nothing more is claimed, so that what a reader drops
need not be accounted for, if it says so.

Key definitions: `Reader.Assertion`, `Reader.Accounts`, `Reader.Listed`,
`Reader.Lists`.
Key theorems: `Accounts.bind`, `Accounts.ite`, `Accounts.reporting`,
`Accounts.skipping`, `Accounts.taking`, `Accounts.eating`,
`Accounts.expecting`, `Lists.commaList`.
-/
import RowQuery.Proofs.Statement.Marks
import RowQuery.Proofs.Token.Numeral

namespace RowQuery.Reader

open List

variable {α β : Type}

/-- What is known between two readers: of the next token, and of the tokens listed so far. -/
abbrev Assertion := Token → List Token → Prop

/-- A token that is neither the end of a text nor a stray one. -/
def Regular (t : Token) : Prop := t.kind ≠ .illegal ∧ t.kind ≠ .endOfInput

/-- A kind of regular tokens that are not listed. -/
def Silent (κ : TokenKind) : Prop := κ ≠ .illegal ∧ κ ≠ .endOfInput ∧ κ.isListed = false

instance (κ : TokenKind) : Decidable (Silent κ) := inferInstanceAs (Decidable (_ ∧ _))

/-- What holds before a reader leads to what holds after it, unless it notes something. -/
def Accounts (P : Assertion) (m : Reader α) (Q : α → Assertion) : Prop :=
  ∀ s : Reading, (∀ t ∈ s.rest, t.Numeric) → ∃ taken notes,
    s.rest = taken ++ (m s).2.rest ∧ (m s).2.diagnostics = s.diagnostics ++ notes ∧
      (notes = [] → ∀ before, P s.current before → (∀ t ∈ taken, Regular t) ∧
        Q (m s).1 (m s).2.current (before ++ Token.listed taken))

/-- The tokens listed so far are spelled by some marks. -/
def Listed (ms : List Mark) : Assertion := fun _ ts => Spelled ms ts

/-- A reader takes tokens that are spelled by the marks of what it makes of them. -/
def Lists (f : α → List Mark) (m : Reader α) : Prop :=
  ∀ ms, Accounts (Listed ms) m fun a => Listed (ms ++ f a)

/-- A token was taken before which something was known, and the mark that it has is still open. -/
def Took (P : Assertion) (ms : List Mark) (a : Token) : Assertion := fun _ ts =>
  (∃ ts', P a ts') ∧ a.Numeric ∧ ∀ m : Mark, m.IsOf a → Spelled (ms ++ [m]) ts

/-- Nothing is the case. -/
def Never : Assertion := fun _ _ => False

namespace Accounts

variable {P P' : Assertion} {Q Q' : α → Assertion} {R : β → Assertion} {m n : Reader α}
  {k : α → Reader β} {a : α} {ms : List Mark} {κ : TokenKind}

theorem pure (h : ∀ t ts, P t ts → Q a t ts) : Accounts P (pure a) Q := by
  intro s _
  refine ⟨[], [], rfl, (append_nil _).symm, fun _ before hP => ⟨forall_mem_nil _, ?_⟩⟩
  rw [show Token.listed [] = [] from rfl, append_nil]
  exact h _ _ hP

/-- What was listed are the marks of the result. -/
theorem done {f : α → List Mark} (h : ms = f a) :
    Accounts (Listed ms) (Pure.pure a) fun a => Listed (f a) :=
  pure fun _ _ hP => h ▸ hP

theorem mono (h : Accounts P m Q) (hP : ∀ t ts, P' t ts → P t ts)
    (hQ : ∀ a t ts, Q a t ts → Q' a t ts) : Accounts P' m Q' := by
  intro s hs
  obtain ⟨taken, notes, hrest, hnotes, hquiet⟩ := h s hs
  refine ⟨taken, notes, hrest, hnotes, fun hempty before hbefore => ?_⟩
  obtain ⟨hregular, hafter⟩ := hquiet hempty before (hP _ _ hbefore)
  exact ⟨hregular, hQ _ _ _ hafter⟩

theorem before (h : Accounts P m Q) (hP : ∀ t ts, P' t ts → P t ts) : Accounts P' m Q :=
  h.mono hP fun _ _ _ hQ => hQ

/-- Nothing needs to be known after notes. -/
theorem never (h : Accounts P m Q) : Accounts Never m Q' := by
  intro s hs
  obtain ⟨taken, notes, hrest, hnotes, -⟩ := h s hs
  exact ⟨taken, notes, hrest, hnotes, fun _ _ hnever => hnever.elim⟩

theorem bind (hm : Accounts P m Q) (hk : ∀ a, Accounts (Q a) (k a) R) :
    Accounts P (m >>= k) R := by
  intro s hs
  obtain ⟨taken, notes, hrest, hnotes, hquiet⟩ := hm s hs
  have hs' : ∀ t ∈ (m s).2.rest, t.Numeric := fun t ht =>
    hs t (hrest ▸ mem_append_right _ ht)
  obtain ⟨taken', notes', hrest', hnotes', hquiet'⟩ := hk (m s).1 (m s).2 hs'
  refine ⟨taken ++ taken', notes ++ notes', ?_, ?_, fun hempty before hP => ?_⟩
  · show s.rest = _ ++ (k (m s).1 (m s).2).2.rest
    rw [append_assoc, ← hrest', ← hrest]
  · show (k (m s).1 (m s).2).2.diagnostics = _
    rw [hnotes', hnotes, append_assoc]
  · obtain ⟨hfirst, hsecond⟩ := append_eq_nil_iff.1 hempty
    obtain ⟨hregular, hQ⟩ := hquiet hfirst before hP
    obtain ⟨hregular', hR⟩ := hquiet' hsecond _ hQ
    refine ⟨forall_mem_append.2 ⟨hregular, hregular'⟩, ?_⟩
    rw [Token.listed, filter_append, ← append_assoc]
    exact hR

theorem ite {c : Prop} [Decidable c] (hm : c → Accounts P m Q) (hn : ¬c → Accounts P n Q) :
    Accounts P (if c then m else n) Q := by
  by_cases hc : c
  · rw [if_pos hc]
    exact hm hc
  · rw [if_neg hc]
    exact hn hc

theorem bounded {m : Nat → Reader α} (hm : ∀ n, Accounts P (m n) Q) :
    Accounts P (Reader.bounded m) Q :=
  fun s hs => hm s.rest.length s hs

/-! ### Looking at a token -/

/-- A reader that only looks. -/
theorem look {f : Reading → α} :
    Accounts P (fun s => (f s, s) : Reader α)
      (fun a t ts => P t ts ∧ ∃ s : Reading, s.current = t ∧ f s = a) := by
  intro s _
  refine ⟨[], [], rfl, (append_nil _).symm, fun _ before hP => ⟨forall_mem_nil _, ?_⟩⟩
  rw [show Token.listed [] = [] from rfl, append_nil]
  exact ⟨hP, s, rfl, rfl⟩

theorem current : Accounts P Reader.current (fun a t ts => P t ts ∧ t = a) := by
  refine look.mono (fun _ _ h => h) fun a t ts h => ?_
  obtain ⟨hP, s, rfl, rfl⟩ := h
  exact ⟨hP, rfl⟩

theorem kind : Accounts P Reader.kind (fun κ t ts => P t ts ∧ t.kind = κ) := by
  refine look.mono (fun _ _ h => h) fun a t ts h => ?_
  obtain ⟨hP, s, rfl, rfl⟩ := h
  exact ⟨hP, rfl⟩

theorem secondKind : Accounts P Reader.secondKind (fun _ => P) :=
  look.mono (fun _ _ h => h) fun _ _ _ h => h.1

theorem sees (κ : TokenKind) :
    Accounts P (Reader.sees κ) (fun b t ts => P t ts ∧ (b = true → t.kind = κ)) := by
  refine look.mono (fun _ _ h => h) fun a t ts h => ?_
  obtain ⟨hP, s, rfl, rfl⟩ := h
  exact ⟨hP, fun hb => eq_of_beq hb⟩

/-- What is read whatever the next token is. -/
theorem seeing {k : Bool → Reader β} (κ : TokenKind) (hk : ∀ b, Accounts P (k b) R) :
    Accounts P (Reader.sees κ >>= k) R :=
  (sees κ).bind fun b => (hk b).before fun _ _ h => h.1

/-! ### Noting something -/

/-- After a note anything may be claimed. -/
theorem reportAt (cause : Cause) (position : Nat) : Accounts P (Reader.reportAt cause position)
    (fun _ => Never) :=
  fun _ _ => ⟨[], [⟨cause, position⟩], rfl, rfl, nofun⟩

theorem report (cause : Cause) : Accounts P (Reader.report cause) (fun _ => Never) :=
  fun s hs => reportAt cause s.current.position s hs

theorem reportExpected (what : Expectation) :
    Accounts P (Reader.reportExpected what) (fun _ => Never) :=
  fun s hs => report (.expected what s.current) s hs

/-- What is read after a note may be anything. -/
theorem reporting {k : Unit → Reader β} (cause : Cause) (hk : Accounts P' (k ()) R) :
    Accounts P (Reader.report cause >>= k) R :=
  (report cause).bind fun _ => hk.never

theorem missing {k : Unit → Reader β} (what : Expectation) (hk : Accounts P' (k ()) R) :
    Accounts P (Reader.reportExpected what >>= k) R :=
  (reportExpected what).bind fun _ => hk.never

/-! ### Taking a token -/

/-- The next token is taken, if it is not the end of input. -/
theorem advance {Q : Token → Assertion} (h : ∀ t ts, P t ts → Regular t ∧
    (t.Numeric → ∀ u, Q t u (ts ++ Token.listed [t]))) : Accounts P Reader.advance Q := by
  intro s hs
  obtain ⟨rest, diagnostics⟩ := s
  cases rest with
  | nil =>
    refine ⟨[], [], rfl, (append_nil _).symm, fun _ before hP => ?_⟩
    exact absurd rfl (h _ _ hP).1.2
  | cons t rest =>
    refine ⟨[t], [], rfl, (append_nil _).symm, fun _ before hP => ?_⟩
    obtain ⟨hregular, hQ⟩ := h _ _ hP
    exact ⟨forall_mem_singleton.2 hregular, hQ (hs t mem_cons_self) _⟩

theorem listed_silent {t : Token} (h : Silent t.kind) : Token.listed [t] = [] := by
  rw [Token.listed, filter_cons, h.2.2]
  rfl

/-- What is read after a token that is not listed. -/
theorem skipping {k : Token → Reader β} (ms : List Mark)
    (h : ∀ t ts, P t ts → Silent t.kind ∧ Spelled ms ts)
    (hk : ∀ a, Accounts (Listed ms) (k a) R) : Accounts P (Reader.advance >>= k) R := by
  have hskip : Accounts P Reader.advance fun _ => Listed ms := by
    refine advance fun t ts hP => ?_
    obtain ⟨hsilent, hspelled⟩ := h t ts hP
    refine ⟨⟨hsilent.1, hsilent.2.1⟩, fun _ _ => ?_⟩
    rw [listed_silent hsilent, append_nil]
    exact hspelled
  exact hskip.bind hk

/-- What is read after a token that is dropped, as was noted. -/
theorem dropping {k : Token → Reader β} (hk : ∀ a, Accounts Never (k a) R) :
    Accounts Never (Reader.advance >>= k) R := by
  have hdrop : Accounts Never Reader.advance fun _ => Never := advance fun _ _ hnever => hnever.elim
  exact hdrop.bind hk

theorem regular_of_isListed {t : Token} (h : t.kind.isListed = true) : Regular t := by
  constructor
  · intro hkind
    rw [hkind] at h
    exact absurd h (by decide)
  · intro hkind
    rw [hkind] at h
    exact absurd h (by decide)

/-- What is read after a token that is listed and waits for its mark. -/
theorem taking {k : Token → Reader β} (ms : List Mark)
    (h : ∀ t ts, P t ts → t.kind.isListed = true ∧ Spelled ms ts)
    (hk : ∀ a, Accounts (Took P ms a) (k a) R) : Accounts P (Reader.advance >>= k) R := by
  have htake : Accounts P Reader.advance (Took P ms) := by
    refine advance fun t ts hP => ?_
    obtain ⟨hlisted, hspelled⟩ := h t ts hP
    refine ⟨regular_of_isListed hlisted, fun hnumeric _ => ⟨⟨ts, hP⟩, hnumeric, fun m hm => ?_⟩⟩
    rw [Token.listed, filter_cons, hlisted]
    exact hspelled.append (.one hm)
  exact htake.bind hk

/-- A token is taken if it is of a kind. -/
theorem eat {Q : Bool → Assertion}
    (htrue : ∀ t ts, P t ts → t.kind = κ → Regular t ∧ ∀ u, Q true u (ts ++ Token.listed [t]))
    (hfalse : ∀ t ts, P t ts → Q false t ts) : Accounts P (Reader.eat κ) Q := by
  intro s hs
  by_cases hkind : (s.current.kind == κ) = true
  · have heat : Reader.eat κ s = (true, { s with rest := s.rest.tail }) := if_pos hkind
    rw [heat]
    have htake : Accounts (fun t ts => P t ts ∧ t.kind = κ) Reader.advance (fun _ => Q true) :=
      advance fun t ts hP => ⟨(htrue t ts hP.1 hP.2).1, fun _ => (htrue t ts hP.1 hP.2).2⟩
    obtain ⟨taken, notes, hrest, hnotes, hquiet⟩ := htake s hs
    exact ⟨taken, notes, hrest, hnotes, fun hempty before hP =>
      hquiet hempty before ⟨hP, eq_of_beq hkind⟩⟩
  · have heat : Reader.eat κ s = (false, s) := if_neg hkind
    rw [heat]
    refine ⟨[], [], rfl, (append_nil _).symm, fun _ before hP => ⟨forall_mem_nil _, ?_⟩⟩
    rw [show Token.listed [] = [] from rfl, append_nil]
    exact hfalse _ _ hP

/-- A token that is not listed is taken, if it is there. -/
theorem eat_silent (hκ : Silent κ) : Accounts (Listed ms) (Reader.eat κ) fun _ => Listed ms := by
  refine eat (fun t ts hP hkind => ?_) fun _ _ hP => hP
  subst hkind
  refine ⟨⟨hκ.1, hκ.2.1⟩, fun _ => ?_⟩
  rw [listed_silent hκ, append_nil]
  exact hP

theorem expect {Q : Bool → Assertion} {what : Expectation}
    (h : ∀ t ts, P t ts → t.kind = κ → Regular t ∧ ∀ u, Q true u (ts ++ Token.listed [t])) :
    Accounts P (Reader.expect κ what) Q := by
  have heat : Accounts P (Reader.eat κ) fun b t ts => b = true ∧ Q true t ts ∨ b = false ∧ P t ts :=
    eat (fun t ts hP hkind => ⟨(h t ts hP hkind).1, fun u => .inl ⟨rfl, (h t ts hP hkind).2 u⟩⟩)
      fun _ _ hP => .inr ⟨rfl, hP⟩
  refine heat.bind fun b => ite (fun hb => pure fun t ts hP => ?_) fun _ => ?_
  · rcases hP with ⟨-, hQ⟩ | ⟨hfalse, -⟩
    · exact hQ
    · exact absurd (hfalse.symm.trans hb) (by decide)
  · exact (reportExpected what).bind fun _ => pure fun _ _ hnever => hnever.elim

/-- A token with a mark for its kind is there, or it is noted that it is not. -/
theorem expect_listed {m : Mark} (ms : List Mark) (what : Expectation) (hκ : κ.isListed = true)
    (hm : ∀ t : Token, t.kind = κ → m.IsOf t) :
    Accounts (Listed ms) (Reader.expect κ what) fun _ => Listed (ms ++ [m]) := by
  refine expect fun t ts hP hkind => ?_
  have hlisted : t.kind.isListed = true := hkind ▸ hκ
  refine ⟨regular_of_isListed hlisted, fun _ => ?_⟩
  rw [Token.listed, filter_cons, hlisted]
  exact hP.append (.one (hm t hkind))

/-- A token that is not listed is there, or it is noted that it is not. -/
theorem expect_silent (hκ : Silent κ) (what : Expectation) :
    Accounts (Listed ms) (Reader.expect κ what) fun b t ts => b = true ∧ Listed ms t ts := by
  refine expect fun t ts hP hkind => ?_
  subst hkind
  refine ⟨⟨hκ.1, hκ.2.1⟩, fun _ => ⟨rfl, ?_⟩⟩
  rw [listed_silent hκ, append_nil]
  exact hP

/-- What is read after a token that is not listed. -/
theorem expecting {k : Bool → Reader β} (hκ : Silent κ) (what : Expectation)
    (hk : ∀ b, Accounts (Listed ms) (k b) R) : Accounts (Listed ms) (Reader.expect κ what >>= k) R :=
  (expect_silent hκ what).bind fun b => (hk b).before fun _ _ h => h.2

theorem eating {k : Bool → Reader β} (hκ : Silent κ) (hk : ∀ b, Accounts (Listed ms) (k b) R) :
    Accounts (Listed ms) (Reader.eat κ >>= k) R :=
  (eat_silent hκ).bind hk

/-! ### Repeated readers -/

theorem skipAll (hκ : Silent κ) : ∀ n, Accounts (Listed ms) (Reader.skipAll κ n) fun _ => Listed ms
  | 0 => pure fun _ _ h => h
  | n + 1 => eating hκ fun _ => ite (fun _ => skipAll hκ n) fun _ => pure fun _ _ h => h

end Accounts

variable {f : α → List Mark} {item : Reader α}

theorem Lists.congr {f' : α → List Mark} (h : Lists f item) (hf : ∀ a, f a = f' a) :
    Lists f' item :=
  fun ms => (h ms).mono (fun _ _ hP => hP) fun a _ _ hQ => hf a ▸ hQ

theorem Lists.commaRest (h : Lists f item) : ∀ n, Lists (·.flatMap f) (Reader.commaRest item n)
  | 0, _ => .done (by simp)
  | n + 1, ms => by
    refine Accounts.eating (by decide) fun _ => .ite (fun _ => ?_) fun _ => .done (by simp)
    exact (h ms).bind fun a => (commaRest h n _).bind fun rest => .done (by simp)

/-- Items with commas between them are listed one after the other. -/
theorem Lists.commaList (h : Lists f item) : Lists (·.flatMap f) (Reader.commaList item) := by
  intro ms
  exact (h ms).bind fun a => (Accounts.bounded fun n => commaRest h n _).bind fun rest =>
    .done (by simp)

end RowQuery.Reader
