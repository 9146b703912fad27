/-
# How readers advance

A reading stands *within* a text if what is left are the last ones of its
tokens, the end of input among them, and what was noted stands in order, before
all that is left. Readers keep to the text: they leave no more than they found,
and they never take the end of input.

Two readers *step* alike from where only so many tokens are left if they do the
same there and keep to the text. With a rule for each way to put readers
together, this tells at once that readers advance and that what they call after
a token need not be known where no more tokens are left.

A reader with a bound *repeats* itself if, each time around, it stops or takes
a token and goes on with the bound less one. As it takes tokens it does not
reach its bound, if this is not below their number.

Key definitions: `Reading.Within`, `Reader.Steps`, `Reader.Repeats`.
Key theorems: `Steps.bind`, `Steps.advance`, `Steps.eat`, `Repeats.of_turns`.
-/
import RowQuery.Proofs.Token.Position
import RowQuery.Statement.Reading

namespace RowQuery

open List

variable {tokens : List Token}

/-! ### Readings of a text -/

/-- The last ones of the tokens are left, and all positions are in order. -/
structure Reading.Within (tokens : List Token) (s : Reading) : Prop where
  suffix : s.rest <:+ tokens
  ends : Token.Ends s.rest
  ordered : (s.diagnostics.map (·.position) ++ s.rest.map (·.position)).Pairwise (· ≤ ·)

namespace Reading.Within

variable {s : Reading}

theorem rest_eq (h : s.Within tokens) : s.rest = s.current :: s.rest.tail := by
  obtain ⟨rest, diagnostics⟩ := s
  cases rest with
  | nil => exact absurd rfl h.ends.ne_nil
  | cons t rest => rfl

theorem length_tail (h : s.Within tokens) : s.rest.tail.length + 1 = s.rest.length :=
  (congrArg List.length h.rest_eq).symm

/-- A token that is not the end of input may be taken, and a cause noted at its position. -/
theorem take (h : s.Within tokens) (ht : s.current.kind ≠ .endOfInput) :
    Within tokens { s with rest := s.rest.tail } where
  suffix := (tail_suffix s.rest).trans h.suffix
  ends := by
    have hends := h.ends
    rw [h.rest_eq] at hends
    exact hends.tail ht
  ordered := by
    refine h.ordered.sublist (Sublist.append_left ?_ _)
    exact (tail_sublist s.rest).map _

/-- A cause is noted between what was noted before and what is left. -/
theorem note (h : s.Within tokens) (cause : Cause) {position : Nat}
    (hafter : ∀ d ∈ s.diagnostics, d.position ≤ position)
    (hbefore : ∀ t ∈ s.rest, position ≤ t.position) :
    Within tokens { s with diagnostics := s.diagnostics ++ [⟨cause, position⟩] } where
  suffix := h.suffix
  ends := h.ends
  ordered := by
    obtain ⟨hdiagnostics, hrest, hbetween⟩ := pairwise_append.1 h.ordered
    rw [map_append, append_assoc]
    refine pairwise_append.2 ⟨hdiagnostics, pairwise_cons.2 ⟨?_, hrest⟩, ?_⟩
    · exact forall_mem_map.2 hbefore
    · refine fun p hp q hq => ?_
      rcases mem_cons.1 hq with rfl | hq
      · obtain ⟨d, hd, rfl⟩ := mem_map.1 hp
        exact hafter d hd
      · exact hbetween p hp q hq

/-- What was noted stands before the next token. -/
theorem position_le_current (h : s.Within tokens) :
    ∀ d ∈ s.diagnostics, d.position ≤ s.current.position := by
  intro d hd
  have hbetween := (pairwise_append.1 h.ordered).2.2
  refine hbetween _ (mem_map_of_mem hd) _ (mem_map_of_mem ?_)
  rw [h.rest_eq]
  exact mem_cons_self

/-- The next token stands before all that are left. -/
theorem current_le_position (h : s.Within tokens) :
    ∀ t ∈ s.rest, s.current.position ≤ t.position := by
  have hrest := (pairwise_append.1 h.ordered).2.1
  rw [h.rest_eq, map_cons] at hrest
  rw [h.rest_eq]
  refine forall_mem_cons.2 ⟨Nat.le_refl _, fun t ht => ?_⟩
  exact (pairwise_cons.1 hrest).1 _ (mem_map_of_mem ht)

end Reading.Within

namespace Reader

variable {α β σ : Type}

/-! ### Steps -/

/-- From where at most `n` tokens are left and the next one is as given, two readers do the same and
keep to the text. If they are `taking`, they take a token unless it is the end of input.

Two readers are compared because what is nested in a reader is known up to a depth only: it may be
anything where more tokens are needed to get there than are left. -/
def Steps (tokens : List Token) (n : Nat) (taking : Bool) (P : Token → Prop) (m m' : Reader α) :
    Prop :=
  ∀ s : Reading, s.Within tokens → s.rest.length ≤ n → P s.current →
    m s = m' s ∧ (m s).2.Within tokens ∧ (m s).2.rest.length ≤ s.rest.length ∧
      (taking = true → s.current.kind ≠ .endOfInput → (m s).2.rest.length < s.rest.length)

/-- Two readers do the same and keep to the text, whatever the next token is. -/
abbrev Goes (tokens : List Token) (n : Nat) (m m' : Reader α) : Prop :=
  Steps tokens n false (fun _ => True) m m'

/-- Two readers do the same, keep to the text and take a token unless it is the end of input. -/
abbrev Advances (tokens : List Token) (n : Nat) (m m' : Reader α) : Prop :=
  Steps tokens n true (fun _ => True) m m'

/-- Before any token but the end of input a reader takes one at least. -/
def Consumes (tokens : List Token) (m : Reader α) : Prop :=
  ∀ s : Reading, s.Within tokens → s.current.kind ≠ .endOfInput →
    (m s).2.rest.length < s.rest.length

namespace Steps

variable {n : Nat} {taking : Bool} {P Q : Token → Prop} {m m' : Reader α} {k k' : α → Reader β}

theorem mono {n' : Nat} (h : Steps tokens n taking P m m') (hn : n' ≤ n) :
    Steps tokens n' taking P m m' :=
  fun s hs hlength hP => h s hs (Nat.le_trans hlength hn) hP

theorem before (h : Steps tokens n taking P m m') (hP : ∀ t, Q t → P t) :
    Steps tokens n taking Q m m' :=
  fun s hs hlength hQ => h s hs hlength (hP _ hQ)

theorem goes (h : Steps tokens n taking P m m') : Steps tokens n false P m m' := by
  intro s hs hlength hP
  obtain ⟨heq, hwithin, hle, -⟩ := h s hs hlength hP
  exact ⟨heq, hwithin, hle, fun hf => Bool.noConfusion hf⟩

/-- At the end of input there is nothing to take. -/
theorem atEnd (hend : ∀ t, P t → t.kind = .endOfInput) (h : Steps tokens n false P m m') :
    Steps tokens n taking P m m' := by
  intro s hs hlength hP
  obtain ⟨heq, hwithin, hle, -⟩ := h s hs hlength hP
  exact ⟨heq, hwithin, hle, fun _ hne => absurd (hend _ hP) hne⟩

theorem pure {a : α} : Steps tokens n false P (pure a) (pure a) :=
  fun _ hs _ _ => ⟨rfl, hs, Nat.le_refl _, fun hf => Bool.noConfusion hf⟩

/-- One reader after another takes a token if the first one does. -/
theorem bind (hm : Steps tokens n taking P m m') (hk : ∀ a, Goes tokens n (k a) (k' a)) :
    Steps tokens n taking P (m >>= k) (m' >>= k') := by
  intro s hs hlength hP
  obtain ⟨heq, hwithin, hle, hlt⟩ := hm s hs hlength hP
  obtain ⟨heq', hwithin', hle', -⟩ := hk (m s).1 _ hwithin (Nat.le_trans hle hlength) trivial
  refine ⟨?_, hwithin', Nat.le_trans hle' hle, fun ht hne => ?_⟩
  · show k (m s).1 (m s).2 = k' (m' s).1 (m' s).2
    rw [← heq, heq']
  · exact Nat.lt_of_le_of_lt hle' (hlt ht hne)

/-- Nothing is read for what is given. -/
theorem given {a : α} (hk : Steps tokens n taking P (k a) (k' a)) :
    Steps tokens n taking P (Pure.pure a >>= k) (Pure.pure a >>= k') :=
  hk

theorem ite {c : Prop} [Decidable c] {r r' : Reader α} (hm : c → Steps tokens n taking P m m')
    (hr : ¬c → Steps tokens n taking P r r') :
    Steps tokens n taking P (if c then m else r) (if c then m' else r') := by
  by_cases hc : c
  · rw [if_pos hc, if_pos hc]
    exact hm hc
  · rw [if_neg hc, if_neg hc]
    exact hr hc

theorem bounded {m m' : Nat → Reader α} (h : ∀ b, Steps tokens n taking P (m b) (m' b)) :
    Steps tokens n taking P (Reader.bounded m) (Reader.bounded m') :=
  fun s hs hlength hP => h s.rest.length s hs hlength hP

/-! ### Looking -/

theorem look {γ : Type} (f : Token → γ) {k k' : γ → Reader β}
    (hk : ∀ a, Steps tokens n taking (fun t => P t ∧ f t = a) (k a) (k' a)) :
    Steps tokens n taking P ((fun s => (f s.current, s) : Reader γ) >>= k)
      ((fun s => (f s.current, s) : Reader γ) >>= k') :=
  fun s hs hlength hP => hk (f s.current) s hs hlength ⟨hP, rfl⟩

theorem current {k k' : Token → Reader β}
    (hk : ∀ a, Steps tokens n taking (fun t => P t ∧ t = a) (k a) (k' a)) :
    Steps tokens n taking P (Reader.current >>= k) (Reader.current >>= k') :=
  look id hk

theorem kind {k k' : TokenKind → Reader β}
    (hk : ∀ κ, Steps tokens n taking (fun t => P t ∧ t.kind = κ) (k κ) (k' κ)) :
    Steps tokens n taking P (Reader.kind >>= k) (Reader.kind >>= k') :=
  look (·.kind) hk

theorem sees {k k' : Bool → Reader β} (κ : TokenKind)
    (hk : ∀ b, Steps tokens n taking (fun t => P t ∧ (b = true → t.kind = κ)) (k b) (k' b)) :
    Steps tokens n taking P (Reader.sees κ >>= k) (Reader.sees κ >>= k') :=
  look (·.kind == κ) fun b => (hk b).before fun _ ht =>
    ⟨ht.1, fun hb => eq_of_beq (ht.2.trans hb)⟩

/-- It does not matter what is seen. -/
theorem seeing {k k' : Bool → Reader β} (κ : TokenKind)
    (hk : ∀ b, Steps tokens n taking P (k b) (k' b)) :
    Steps tokens n taking P (Reader.sees κ >>= k) (Reader.sees κ >>= k') :=
  sees κ fun b => (hk b).before fun _ h => h.1

theorem secondKind {k k' : TokenKind → Reader β}
    (hk : ∀ κ, Steps tokens n taking P (k κ) (k' κ)) :
    Steps tokens n taking P (Reader.secondKind >>= k) (Reader.secondKind >>= k') :=
  fun s hs hlength hP => hk _ s hs hlength hP

/-! ### Taking -/

/-- After a token, what follows steps from where one less is left. -/
theorem after {s : Reading} {m m' : Reader β} (hs : s.Within tokens) (hlength : s.rest.length ≤ n)
    (ht : s.current.kind ≠ .endOfInput) (hm : Goes tokens (n - 1) m m') :
    m ⟨s.rest.tail, s.diagnostics⟩ = m' ⟨s.rest.tail, s.diagnostics⟩ ∧
      (m ⟨s.rest.tail, s.diagnostics⟩).2.Within tokens ∧
      (m ⟨s.rest.tail, s.diagnostics⟩).2.rest.length < s.rest.length := by
  have htail := hs.length_tail
  obtain ⟨heq, hwithin, hle, -⟩ := hm _ (hs.take ht) (by dsimp only; omega) trivial
  dsimp only at hle
  exact ⟨heq, hwithin, by omega⟩

/-- A token is taken that is known not to be the end of input. -/
theorem advance {k k' : Token → Reader β} (hP : ∀ t, P t → t.kind ≠ .endOfInput)
    (hk : ∀ a, Goes tokens (n - 1) (k a) (k' a)) :
    Steps tokens n taking P (Reader.advance >>= k) (Reader.advance >>= k') := by
  intro s hs hlength hcurrent
  obtain ⟨heq, hwithin, hlt⟩ := after hs hlength (hP _ hcurrent) (hk s.current)
  exact ⟨heq, hwithin, Nat.le_of_lt hlt, fun _ _ => hlt⟩

/-- A token is taken before a reader for which it is enough to step where it stands. -/
theorem advancing {k k' : Token → Reader β} (hP : ∀ t, P t → t.kind ≠ .endOfInput)
    (hk : ∀ a, Goes tokens n (k a) (k' a)) :
    Steps tokens n taking P (Reader.advance >>= k) (Reader.advance >>= k') :=
  advance hP fun a => (hk a).mono (Nat.sub_le n 1)

theorem eat {k k' : Bool → Reader β} {κ : TokenKind} (hκ : κ ≠ .endOfInput)
    (htaken : Goes tokens (n - 1) (k true) (k' true))
    (hleft : Steps tokens n taking P (k false) (k' false)) :
    Steps tokens n taking P (Reader.eat κ >>= k) (Reader.eat κ >>= k') := by
  intro s hs hlength hP
  have hrun : ∀ k : Bool → Reader β, (Reader.eat κ >>= k) s =
      if s.current.kind == κ then k true ⟨s.rest.tail, s.diagnostics⟩ else k false s := by
    intro k
    show k (Reader.eat κ s).1 (Reader.eat κ s).2 = _
    unfold Reader.eat
    split
    · rfl
    · rfl
  rw [hrun k, hrun k']
  split
  · rename_i hkind
    obtain ⟨heq, hwithin, hlt⟩ := after hs hlength (eq_of_beq hkind ▸ hκ) htaken
    exact ⟨heq, hwithin, Nat.le_of_lt hlt, fun _ _ => hlt⟩
  · exact hleft s hs hlength hP

/-- A token may be taken or not. -/
theorem eating {k k' : Bool → Reader β} {κ : TokenKind} (hκ : κ ≠ .endOfInput)
    (hk : ∀ b, Steps tokens n taking (fun _ => True) (k b) (k' b)) :
    Steps tokens n taking (fun _ => True) (Reader.eat κ >>= k) (Reader.eat κ >>= k') :=
  eat hκ ((hk true).goes.mono (Nat.sub_le n 1)) (hk false)

/-! ### Noting -/

theorem report {k k' : Unit → Reader β} (cause : Cause)
    (hk : Steps tokens n taking P (k ()) (k' ())) :
    Steps tokens n taking P (Reader.report cause >>= k) (Reader.report cause >>= k') := by
  intro s hs hlength hP
  have hnoted := hs.note cause hs.position_le_current hs.current_le_position
  exact hk _ hnoted hlength hP

theorem reportExpected {k k' : Unit → Reader β} (what : Expectation)
    (hk : Steps tokens n taking P (k ()) (k' ())) :
    Steps tokens n taking P (Reader.reportExpected what >>= k)
      (Reader.reportExpected what >>= k') :=
  fun s hs hlength hP => report (.expected what s.current) hk s hs hlength hP

/-- A token may be taken, or noted to be missing. -/
theorem expect {k k' : Bool → Reader β} {κ : TokenKind} (hκ : κ ≠ .endOfInput) (what : Expectation)
    (hk : ∀ b, Steps tokens n taking (fun _ => True) (k b) (k' b)) :
    Steps tokens n taking (fun _ => True) (Reader.expect κ what >>= k)
      (Reader.expect κ what >>= k') := by
  have hrun : ∀ k : Bool → Reader β, Reader.expect κ what >>= k = Reader.eat κ >>= fun b =>
      (if b = true then Pure.pure true
        else do Reader.reportExpected what; Pure.pure false) >>= k := fun _ => rfl
  rw [hrun k, hrun k']
  refine eat hκ ?_ ?_
  · exact (hk true).goes.mono (Nat.sub_le n 1)
  · show Steps tokens n taking _ (Reader.reportExpected what >>= fun _ => k false)
      (Reader.reportExpected what >>= fun _ => k' false)
    exact reportExpected what (hk false)

/-! ### Lists -/

variable {item item' : Reader α}

theorem commaRest (h : Goes tokens n item item') :
    ∀ b, Goes tokens n (Reader.commaRest item b) (Reader.commaRest item' b)
  | 0 => pure
  | b + 1 => eating (fun h => TokenKind.noConfusion h) fun _ =>
      ite (fun _ => bind h fun _ => bind (commaRest h b) fun _ => pure) fun _ => pure

theorem commaList (h : Steps tokens n taking (fun _ => True) item item') :
    Steps tokens n taking (fun _ => True) (Reader.commaList item) (Reader.commaList item') :=
  bind h fun _ => bind (bounded (commaRest h.goes)) fun _ => pure

theorem skipAll {κ : TokenKind} (hκ : κ ≠ .endOfInput) :
    ∀ b, Goes tokens n (Reader.skipAll κ b) (Reader.skipAll κ b)
  | 0 => pure
  | b + 1 => eating hκ fun _ => ite (fun _ => skipAll hκ b) fun _ => pure

/-! ### What is left -/

/-- What a reader leaves of a text is within the text. -/
theorem moves (h : Goes tokens tokens.length m m) {s : Reading} (hs : s.Within tokens) :
    (m s).2.Within tokens ∧ (m s).2.rest.length ≤ s.rest.length :=
  have hstep := h s hs hs.suffix.length_le trivial
  ⟨hstep.2.1, hstep.2.2.1⟩

/-- After a token, what a reader leaves of a text is within the text, and less. -/
theorem moves_after (h : Goes tokens tokens.length m m) {s : Reading} (hs : s.Within tokens)
    (ht : s.current.kind ≠ .endOfInput) :
    (m ⟨s.rest.tail, s.diagnostics⟩).2.Within tokens ∧
      (m ⟨s.rest.tail, s.diagnostics⟩).2.rest.length < s.rest.length :=
  (after hs hs.suffix.length_le ht (h.mono (Nat.sub_le _ 1))).2

/-- A taking reader takes a token where one is left. -/
theorem consumes (h : Advances tokens tokens.length m m) : Consumes tokens m :=
  fun s hs hne => (h s hs hs.suffix.length_le trivial).2.2.2 rfl hne

end Steps

/-! ### Repeating -/

/-- Each time around, a reader with a bound stops, as it does at the bound zero, or takes a token and
goes on with the bound less one. A bound that is not below the number of tokens is not reached. -/
structure Repeats (tokens : List Token) (loop : σ → Nat → Reader α) : Prop where
  turn : ∀ (x : σ) (s : Reading), s.Within tokens →
    (∀ n, loop x n s = loop x 0 s) ∨
      ∃ (x' : σ) (s' : Reading) (f : α → α), s'.Within tokens ∧
        s'.rest.length < s.rest.length ∧
        ∀ n, loop x (n + 1) s = (f (loop x' n s').1, (loop x' n s').2)
  bound : ∀ (x : σ) (s : Reading) (n : Nat), s.Within tokens → s.rest.length ≤ n →
    loop x n s = loop x s.rest.length s

namespace Repeats

/-- **A reader that takes a token each time around does not reach its bound.** -/
theorem of_turns {loop : σ → Nat → Reader α}
    (turn : ∀ (x : σ) (s : Reading), s.Within tokens →
      (∀ n, loop x n s = loop x 0 s) ∨
        ∃ (x' : σ) (s' : Reading) (f : α → α), s'.Within tokens ∧
          s'.rest.length < s.rest.length ∧
          ∀ n, loop x (n + 1) s = (f (loop x' n s').1, (loop x' n s').2)) :
    Repeats tokens loop := by
  -- The induction is on a bound of the tokens left; both bounds of the loop go down with it.
  have hany : ∀ (l : Nat) (x : σ) (s : Reading) (n n' : Nat), s.Within tokens →
      s.rest.length ≤ l → s.rest.length ≤ n → s.rest.length ≤ n' → loop x n s = loop x n' s := by
    intro l
    induction l with
    | zero =>
      intro x s n n' hs hl
      have := hs.length_tail
      omega
    | succ l ih =>
      intro x s n n' hs hl hn hn'
      rcases turn x s hs with hstop | ⟨x', s', f, hs', hlt, hgo⟩
      · rw [hstop n, hstop n']
      · obtain ⟨b, rfl⟩ : ∃ b, n = b + 1 := ⟨n - 1, by omega⟩
        obtain ⟨b', rfl⟩ : ∃ b', n' = b' + 1 := ⟨n' - 1, by omega⟩
        rw [hgo b, hgo b', ih x' s' b b' hs' (by omega) (by omega) (by omega)]
  exact ⟨turn, fun x s n hs hn => hany s.rest.length x s n _ hs (Nat.le_refl _) hn (Nat.le_refl _)⟩

/-- A reader repeats itself if it takes a token of a kind, reads something and starts over. -/
theorem of_eat {κ : TokenKind} (hκ : κ ≠ .endOfInput) {body : Reader β}
    (hbody : Goes tokens tokens.length body body) {loop : Nat → Reader α} (f : β → α → α)
    (hloop : ∀ n, loop (n + 1) = do
      if ← eat κ then
        let b ← body
        let a ← loop n
        pure (f b a)
      else loop 0) : Repeats tokens fun _ : Unit => loop := by
  refine of_turns fun _ s hs => ?_
  by_cases hkind : (s.current.kind == κ) = true
  · have hne : s.current.kind ≠ .endOfInput := eq_of_beq hkind ▸ hκ
    obtain ⟨hwithin, hlt⟩ := hbody.moves_after hs hne
    refine .inr ⟨(), _, f (body ⟨s.rest.tail, s.diagnostics⟩).1, hwithin, hlt, fun n => ?_⟩
    have heat : eat κ s = (true, ⟨s.rest.tail, s.diagnostics⟩) := if_pos hkind
    rw [hloop n]
    show (if (eat κ s).1 = true then _ else loop 0) (eat κ s).2 = _
    rw [heat]
    rfl
  · have heat : eat κ s = (false, s) := if_neg hkind
    refine .inl fun n => ?_
    cases n with
    | zero => rfl
    | succ n =>
      rw [hloop n]
      show (if (eat κ s).1 = true then _ else loop 0) (eat κ s).2 = _
      rw [heat]
      rfl

theorem commaRest {item : Reader α} (h : Goes tokens tokens.length item item) :
    Repeats tokens fun _ : Unit => Reader.commaRest item :=
  of_eat (fun h => TokenKind.noConfusion h) h List.cons fun _ => rfl

theorem skipAll {κ : TokenKind} (hκ : κ ≠ .endOfInput) :
    Repeats tokens fun _ : Unit => Reader.skipAll κ :=
  of_eat hκ (Steps.pure (a := ())) (fun _ _ => ()) fun _ => rfl

end Repeats

end Reader

end RowQuery
