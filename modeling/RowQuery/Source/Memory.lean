/-
# Tables in memory

Tables that are at hand under a name, whatever the kind of source that is asked.

Key definitions: `Source.memory`.
-/
import RowQuery.Source

namespace RowQuery

/-- The tables given; of several with one name the last. -/
def Source.memory (tables : List (String × List Record)) : Source :=
  .described fun kind name =>
    match tables.reverse.lookup name with
    | some rows => .ok rows
    | none => .error (.notFound kind name)

theorem Source.memory_load (tables : List (String × List Record)) (kind : SourceKind) (name : String) :
    (Source.memory tables).load kind name =
      (tables.reverse.lookup name).elim (.error (.notFound kind name)) .ok := by
  unfold Source.memory Source.described
  dsimp only
  cases tables.reverse.lookup name with
  | none => rfl
  | some rows => rfl

end RowQuery
