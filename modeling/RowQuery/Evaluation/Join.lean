/-
# Joins

A join makes rows of pairs of rows, one from each side. Which pairs match is
found out first, one after the other; the rest is about lists. Two rows match
only if the condition is exactly true, so a number does not match. A row that
matches none is kept, where the kind of join says so, with null in the columns
of the other side.

Key definitions: `matchTable`, `joinRows`, `nullRow`.
-/
import RowQuery.Evaluation.Expr

namespace RowQuery

/-- Null in every column of some rows, in order of first appearance. -/
def nullRow (rows : List Record) : Record :=
  .ofFields ((rows.flatMap Record.columns).map fun name => (name, .null))

/-- For each outer row, whether it matches each inner row. -/
abbrev MatchTable := List (List Bool)

namespace MatchTable

/-- The inner rows that an outer row matches. -/
def matched (flags : List Bool) (inner : List Record) : List Record :=
  ((inner.zip flags).filter (·.2)).map (·.1)

/-- The inner rows that no outer row matches. -/
def unmatched (table : MatchTable) (inner : List Record) : List Record :=
  let isFree (i : Nat) : Bool := table.all fun flags => !flags.getD i false
  (inner.zipIdx.filter fun p => isFree p.2).map (·.1)

/-- The rows of all matching pairs, one outer row after the other. -/
def pairs (pair : Record → Record → Record) (table : MatchTable) (outer inner : List Record) :
    List Record :=
  (outer.zip table).flatMap fun (o, flags) => (matched flags inner).map (pair o)

/-- The rows of all matching pairs, with one row for each outer row that matches none. -/
def outerPairs (pair : Record → Record → Record) (missing : Record) (table : MatchTable)
    (outer inner : List Record) : List Record :=
  (outer.zip table).flatMap fun (o, flags) =>
    match matched flags inner with
    | [] => [pair o missing]
    | found => found.map (pair o)

end MatchTable

variable (run : Runner)

/-- Whether a row made of a pair satisfies the condition; all do if there is none. -/
def matchesOn (condition : Option Expr) (row : Record) : Exec Bool :=
  match condition with
  | none => pure true
  | some e => do
    match ← e.evaluate run row with
    | .boolean true => return true
    | _ => return false

/-- Which pairs match, the inner rows being gone through for each outer row. -/
def matchTable (condition : Option Expr) (pair : Record → Record → Record)
    (outer inner : List Record) : Exec MatchTable :=
  outer.mapM fun o => inner.mapM fun i => matchesOn run condition (pair o i)

/-- The rows of a join. A right join goes through the rows of the right side, all others through
those of the left side. -/
def joinRows (kind : JoinKind) (condition : Option Expr) (left right : List Record) :
    Exec (List Record) :=
  let flipped (r l : Record) : Record := l.merge r
  match kind with
  | .cross => return left.flatMap fun l => right.map l.merge
  | .inner => do
    let table ← matchTable run condition Record.merge left right
    return table.pairs Record.merge left right
  | .left => do
    let table ← matchTable run condition Record.merge left right
    return table.outerPairs Record.merge (nullRow right) left right
  | .full => do
    let table ← matchTable run condition Record.merge left right
    return table.outerPairs Record.merge (nullRow right) left right ++
      (table.unmatched right).map (nullRow left).merge
  | .right => do
    let table ← matchTable run condition flipped right left
    return table.outerPairs flipped (nullRow left) right left

end RowQuery
