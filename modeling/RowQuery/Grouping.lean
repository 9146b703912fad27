/-
# Groups

Items with equal keys form a group. Groups are in order of the first item of
each, and the items of a group keep their order.

Key definitions: `Groups`, `Groups.ofList`, `Groups.find`, `distinctBy`.
-/

namespace RowQuery

/-- Groups of items by their keys; no two groups of one key. -/
abbrev Groups (α : Type) := List (String × List α)

namespace Groups

variable {α : Type}

/-- The groups with one more item, at the end of its group. -/
def add (key : String) (item : α) : Groups α → Groups α
  | [] => [(key, [item])]
  | (k, items) :: rest =>
    if k = key then (k, items ++ [item]) :: rest else (k, items) :: add key item rest

/-- The groups of a list of items, each with its key. -/
def ofList (items : List (String × α)) : Groups α :=
  items.foldl (fun groups (key, item) => add key item groups) []

/-- The items of a key. -/
def find (key : String) (groups : Groups α) : List α := (groups.lookup key).getD []

end Groups

/-- The items whose key is not among those seen and not that of an item before. -/
def distinctFrom {α : Type} (key : α → String) (seen : List String) : List α → List α
  | [] => []
  | a :: rest =>
    let k := key a
    if seen.contains k then distinctFrom key seen rest
    else a :: distinctFrom key (k :: seen) rest

/-- The first item of each key. -/
def distinctBy {α : Type} (key : α → String) (items : List α) : List α := distinctFrom key [] items

end RowQuery
