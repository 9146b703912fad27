/-
# What readers make

A reader *makes* things of a kind from good tokens if what it takes from a
reading of good tokens is of this kind, and what it leaves are good tokens
still. A reader made of readers makes what its parts make, in turn.

Key definition: `Reader.Makes`.
Key theorems: `Makes.bind`, `Makes.ite`, `Makes.commaList`.
-/
import RowQuery.Statement.Parser

namespace RowQuery.Reader

variable {α β : Type} {good : Token → Prop}

/-- From good tokens a reader takes something of a kind, and leaves good tokens. -/
def Makes (good : Token → Prop) (kind : α → Prop) (m : Reader α) : Prop :=
  ∀ s : Reading, (∀ t ∈ s.rest, good t) → kind (m.run s).1 ∧ ∀ t ∈ (m.run s).2.rest, good t

/-- Anything at all. -/
abbrev Any : α → Prop := fun _ => True

namespace Makes

variable {P : α → Prop} {Q : β → Prop} {m : Reader α} {k : α → Reader β}

theorem pure {a : α} (h : P a) : Makes good P (pure a) := fun _ hs => ⟨h, hs⟩

theorem bind (hm : Makes good P m) (hk : ∀ a, P a → Makes good Q (k a)) :
    Makes good Q (m >>= k) := by
  intro s hs
  obtain ⟨ha, hrest⟩ := hm s hs
  exact hk _ ha _ hrest

/-- A reader whose result is not looked at. -/
theorem skip (hm : Makes good P m) (hk : ∀ a, Makes good Q (k a)) : Makes good Q (m >>= k) :=
  hm.bind fun a _ => hk a

theorem ite {c : Prop} [Decidable c] {m n : Reader α} (hm : Makes good P m) (hn : Makes good P n) :
    Makes good P (if c then m else n) := by
  split
  · exact hm
  · exact hn

/-! ### Readers of one token -/

theorem of_tail {s s' : Reading} (h : s'.rest = s.rest ∨ s'.rest = s.rest.tail)
    (hs : ∀ t ∈ s.rest, good t) : ∀ t ∈ s'.rest, good t := by
  intro t ht
  rcases h with h | h
  · exact hs t (h ▸ ht)
  · exact hs t (List.mem_of_mem_tail (h ▸ ht))

/-- The end of input is good, besides the tokens that are to be read. -/
theorem current (hend : good ⟨.endOfInput, "", 0⟩) : Makes good good current := by
  intro s hs
  refine ⟨?_, hs⟩
  show good (s.rest.headD _)
  cases hrest : s.rest with
  | nil => exact hend
  | cons t rest => exact hs t (hrest ▸ List.mem_cons_self)

theorem kind : Makes good Any Reader.kind := fun _ hs => ⟨trivial, hs⟩

theorem secondKind : Makes good Any Reader.secondKind := fun _ hs => ⟨trivial, hs⟩

theorem sees (k : TokenKind) : Makes good Any (Reader.sees k) := fun _ hs => ⟨trivial, hs⟩

theorem advance : Makes good Any Reader.advance := fun _ hs => ⟨trivial, of_tail (.inr rfl) hs⟩

theorem eat (k : TokenKind) : Makes good Any (Reader.eat k) := by
  intro s hs
  refine ⟨trivial, of_tail ?_ hs⟩
  have heat : (Reader.eat k).run s =
      if s.current.kind == k then (true, { s with rest := s.rest.tail }) else (false, s) := rfl
  rw [heat]
  split
  · exact .inr rfl
  · exact .inl rfl

theorem reportAt (cause : Cause) (position : Nat) : Makes good Any (Reader.reportAt cause position) :=
  fun _ hs => ⟨trivial, hs⟩

theorem report (cause : Cause) : Makes good Any (Reader.report cause) := fun _ hs => ⟨trivial, hs⟩

theorem reportExpected (what : Expectation) : Makes good Any (Reader.reportExpected what) :=
  fun _ hs => ⟨trivial, hs⟩

theorem expect (k : TokenKind) (what : Expectation) : Makes good Any (Reader.expect k what) :=
  (eat k).skip fun _ => ite (pure trivial) ((reportExpected what).skip fun _ => pure trivial)

/-! ### Repeated readers -/

theorem bounded {m : Nat → Reader α} (hm : ∀ n, Makes good P (m n)) : Makes good P (Reader.bounded m) :=
  fun s hs => hm s.rest.length s hs

theorem commaRest (hm : Makes good P m) : ∀ n, Makes good (∀ a ∈ ·, P a) (Reader.commaRest m n)
  | 0 => pure (List.forall_mem_nil _)
  | n + 1 => (eat .comma).skip fun _ => ite
      (hm.bind fun _ ha => (commaRest hm n).bind fun _ hrest =>
        pure (List.forall_mem_cons.2 ⟨ha, hrest⟩))
      (pure (List.forall_mem_nil _))

/-- A list of what its items are. -/
theorem commaList (hm : Makes good P m) : Makes good (∀ a ∈ ·, P a) (Reader.commaList m) :=
  hm.bind fun _ ha => (bounded (commaRest hm)).bind fun _ hrest =>
    pure (List.forall_mem_cons.2 ⟨ha, hrest⟩)

theorem skipAll (k : TokenKind) : ∀ n, Makes good Any (Reader.skipAll k n)
  | 0 => pure trivial
  | n + 1 => (eat k).skip fun _ => ite (skipAll k n) (pure trivial)

end Makes

end RowQuery.Reader
