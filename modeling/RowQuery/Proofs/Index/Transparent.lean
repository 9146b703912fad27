/-
# The index cannot be seen in a result

A query that is a condition on one column has its rows found through an index,
if one is wanted. Its result is the same without: on cells that hold no
not-a-number the index finds what a scan finds, and expressions make no
not-a-number of such cells. This holds wherever the condition stands: in a
subquery, where a column may be one of a row around, as in a table expression,
a join or a set operation.

Not-a-number is equal to everything and has a key of its own, so a cell that
holds it is found by a scan only.

Key definitions: `Record.HoldsNoNaN`, `Source.HoldsNoNaN`, `Coupling.numbers`.
Key theorems: `run_index_transparent`, `query_index_transparent`.
-/
import RowQuery.Proofs.Coupling.Engine
import RowQuery.Proofs.Index.Key
import RowQuery.Proofs.Statement.Literal
import RowQuery.Proofs.Tables

namespace RowQuery

open List

/-- A record without a cell that holds not-a-number. -/
def Record.HoldsNoNaN (r : Record) : Prop := ∀ p ∈ r.fields, p.2.isNaN = false

/-- A source of tables without such cells. -/
def Source.HoldsNoNaN (source : Source) : Prop :=
  ∀ kind name rows, source.load kind name = .ok rows → ∀ r ∈ rows, r.HoldsNoNaN

theorem Source.memory_holdsNoNaN {tables : List (String × List Record)}
    (h : ∀ t ∈ tables, ∀ r ∈ t.2, r.HoldsNoNaN) : (Source.memory tables).HoldsNoNaN :=
  Source.memory_loadsOnly h {} []

namespace Coupling

/-- The coupling of executions on the same values, not-a-number not among them. -/
abbrev numbers : Coupling := .ofSources (fun a b => a = b ∧ a.isNaN = false) True

theorem numbers_lawful : numbers.Lawful :=
  lawful_of_eq (fun _ _ h => h.1) (fun _ h => ⟨rfl, h⟩) rfl

theorem numbers_keysAgree : numbers.KeysAgree :=
  fun _ _ _ _ ha hc h => Value.key_eq_of_same ha.2 hc.2 h

theorem numbers_rows {rows : List Record} (h : ∀ r ∈ rows, r.HoldsNoNaN) : numbers.Rows rows rows :=
  forall₂_same.2 fun r hr => forall₂_same.2 fun p hp => ⟨rfl, rfl, h r hr p hp⟩

theorem numbers_source {source : Source} (h : source.HoldsNoNaN) :
    SourceLike numbers.value source source := by
  intro kind name
  have hrows := h kind name
  generalize source.load kind name = result at hrows ⊢
  cases result with
  | error e => exact .error rfl
  | ok rows => exact .ok (numbers_rows (hrows rows rfl))

theorem numbers_admits {s : Statement} (hs : s.Plain) : numbers.AdmitsAll (s.features true) := by
  intro x hx
  refine admits_of_unrestricted (fun _ => trivial) trivial trivial (fun _ => trivial)
    fun v hv => ⟨rfl, ?_⟩
  exact hs true (.literal v) (hv ▸ hx)

end Coupling

/-- A statement whose literals are numbers has the same result, and asks for the same tables, with
an index and without. -/
theorem run_index_transparent {source : Source} (hsource : source.HoldsNoNaN) (options : Options)
    {s : Statement} (hs : s.Plain) :
    Engine.run ⟨source, { options with indexEqualities := true }⟩ s =
      Engine.run ⟨source, { options with indexEqualities := false }⟩ s := by
  obtain ⟨hresult, hloads⟩ := run_of_sourceLike { options with indexEqualities := true }
    { options with indexEqualities := false } Coupling.numbers_lawful
    (Coupling.numbers_source hsource) rfl rfl rfl (.inr Coupling.numbers_keysAgree)
    (Coupling.numbers_admits hs)
  refine Prod.ext ?_ hloads
  generalize (Engine.run _ s).1 = x at hresult ⊢
  generalize (Engine.run _ s).1 = y at hresult ⊢
  cases hresult with
  | ok hrows => exact congrArg Except.ok (Coupling.Rows.eq (R := .numbers) (fun _ _ h => h.1) hrows)
  | error h => exact congrArg Except.error (h.eq fun _ _ h => h.1)

/-- The rows that an index finds are those whose value compares equal to the literal, in order. -/
theorem filterIndexed_eq_filter (run : Runner) {column : String} {literal : Value}
    {rows : List Record} {session : Session} (hrows : ∀ r ∈ rows, r.HoldsNoNaN)
    (houter : ∀ r ∈ session.outer, r.HoldsNoNaN) (hliteral : literal.isNaN = false) :
    (Query.filterIndexed run column literal rows).run.run session =
      (.ok (rows.filter fun r => (session.resolve r column).compare literal == .eq), session) := by
  refine Query.filterIndexed_run run fun r hr hsame => Value.key_eq_of_same ?_ hliteral hsame
  have hrow : Coupling.numbers.Row r r := forall₂_same.2 fun p hp => ⟨rfl, rfl, hrows r hr p hp⟩
  exact (Coupling.resolve Coupling.numbers_lawful (Coupling.numbers_rows houter) hrow column).2

/-- **The index cannot be seen in a result.** Where the tables hold no not-a-number, every text has
the same result, and asks for the same tables, with an index and without. And what an index finds
among rows without not-a-number are those whose value compares equal to the literal, in order. -/
theorem query_index_transparent {source : Source} (hsource : source.HoldsNoNaN) (options : Options)
    (text : String) :
    Engine.query ⟨source, { options with indexEqualities := true }⟩ text =
        Engine.query ⟨source, { options with indexEqualities := false }⟩ text ∧
      ∀ (run : Runner) (column : String) (literal : Value) (rows : List Record) (session : Session),
        (∀ r ∈ rows, r.HoldsNoNaN) → (∀ r ∈ session.outer, r.HoldsNoNaN) →
        literal.isNaN = false →
        (Query.filterIndexed run column literal rows).run.run session =
          (.ok (rows.filter fun r => (session.resolve r column).compare literal == .eq), session) := by
  refine ⟨?_, fun run _ _ _ _ hrows houter hliteral =>
    filterIndexed_eq_filter run hrows houter hliteral⟩
  unfold Engine.query
  cases htext : Statement.ofText text with
  | error diagnostics => rfl
  | ok s =>
    dsimp only
    rw [run_index_transparent hsource options (Statement.plain_ofText htext)]

/-- A column of an integer, a string that writes the same number, and values without a number. -/
theorem query_index_transparent_mixed :
    let source : Source := .memory [("t",
      [⟨[("a", .integer 1)]⟩, ⟨[("a", .string " 1.0 ")]⟩, ⟨[("a", .null)]⟩, ⟨[("a", .boolean true)]⟩])]
    source.HoldsNoNaN ∧
      Engine.query ⟨source, { indexEqualities := true }⟩ "SELECT * FROM t WHERE a = 1" =
        Engine.query ⟨source, { indexEqualities := false }⟩ "SELECT * FROM t WHERE a = 1" := by
  intro source
  have hsource : source.HoldsNoNaN :=
    Source.memory_holdsNoNaN (by simp [Record.HoldsNoNaN, Value.isNaN, Number.isNaN])
  exact ⟨hsource, (query_index_transparent hsource {} _).1⟩

end RowQuery
