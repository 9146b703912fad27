/-
# Records

A record is a row of data: named columns in order, no two of one name. A new
value for a column that is there takes its place; a new column goes to the end.

A column may be looked up by a name that is not quite its own: a qualified name
`t.c` also finds the column `c`, and a plain name `c` also finds a column `t.c`
if there is only one such.

Key definitions: `Record`, `Record.get?`, `Record.insert`, `Record.merge`,
`Record.qualified`, `Record.lookup?`.
-/
import RowQuery.Value

namespace RowQuery

/-- Columns with their values, in order. -/
structure Record where
  fields : List (String × Value)
  deriving Inhabited

namespace Record

def empty : Record := ⟨[]⟩

def isEmpty (r : Record) : Bool := r.fields.isEmpty

def size (r : Record) : Nat := r.fields.length

/-- The names of the columns, in order. -/
def columns (r : Record) : List String := r.fields.map Prod.fst

/-- The value of a column. -/
def get? (r : Record) (name : String) : Option Value := r.fields.lookup name

def contains (r : Record) (name : String) : Bool := (r.get? name).isSome

/-- The value of the first column. -/
def first? (r : Record) : Option Value := r.fields.head?.map Prod.snd

/-! ### Building -/

/-- Columns with one more; a column of the same name keeps its place and takes the new value. -/
def insertField (name : String) (value : Value) : List (String × Value) → List (String × Value)
  | [] => [(name, value)]
  | (n, v) :: rest =>
    if n = name then (n, value) :: rest else (n, v) :: insertField name value rest

/-- The record with a column set. -/
def insert (r : Record) (name : String) (value : Value) : Record :=
  ⟨insertField name value r.fields⟩

/-- The record with all columns of another set. -/
def merge (r other : Record) : Record :=
  other.fields.foldl (fun acc (name, value) => acc.insert name value) r

/-- The record of some columns; of several with one name the first place and the last value. -/
def ofFields (fields : List (String × Value)) : Record := empty.merge ⟨fields⟩

/-- A column's name with a qualifier in front. -/
def qualifiedName (qualifier name : String) : String := qualifier ++ "." ++ name

/-- The record with all its columns qualified. -/
def qualified (r : Record) (qualifier : String) : Record :=
  ⟨r.fields.map fun (name, value) => (qualifiedName qualifier name, value)⟩

/-! ### Looking up -/

/-- What follows the last point of a name that has one. -/
def afterLastPoint? (name : String) : Option String :=
  let tail := name.toList.reverse.takeWhile (· != '.')
  if tail.length = name.toList.length then none else some (String.ofList tail.reverse)

/-- The values of the columns whose qualified name ends with a plain one. -/
def suffixed (r : Record) (name : String) : List Value :=
  (r.fields.filter fun (n, _) => ('.' :: name.toList).isSuffixOf n.toList).map Prod.snd

/-- The value of the column that a name means: the one of that name; else, for a qualified name,
the one of the plain name; else the only one that the plain name is the end of. -/
def lookup? (r : Record) (name : String) : Option Value :=
  match r.get? name with
  | some value => some value
  | none =>
    match afterLastPoint? name with
    | some plain => r.get? plain
    | none =>
      match r.suffixed name with
      | [value] => some value
      | _ => none

end Record

end RowQuery
