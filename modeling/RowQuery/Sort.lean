/-
# Sorting

How items are put into order by comparing two of them at a time. Short lists are
sorted by insertion. Longer ones are cut into runs: stretches that go up or down
as they are, and loose ones, which are partitioned by pivots. Runs are merged in
the order of a balanced tree.

Where the comparison orders the items, the result is in this order and items
that compare equal stay as they were. Any comparison may be given, though, and
then the result depends on which items are compared. A merge that goes on from
both ends finds out if the ends do not meet, and there is no result then.

Key definitions: `insertAll`, `mergeEnds`, `sortShort`, `quicksort`, `cut`,
`mergeRuns`, `driftsort`, `sort`.
-/

namespace RowQuery.Sort

variable {α : Type} (less : α → α → Bool)

/-! ### Insertion -/

/-- An item put to its place among items in order, of which the last comes first. -/
def insertBack (x : α) : List α → List α
  | [] => [x]
  | y :: rest => if less x y then y :: insertBack x rest else x :: y :: rest

/-- Items inserted one after the other, each from the back, into items in order. -/
def insertAll (ordered items : List α) : List α :=
  (items.foldl (fun reversed x => insertBack less x reversed) ordered.reverse).reverse

/-- Two items, the lesser one first. -/
def two (x y : α) : α × α := if less y x then (y, x) else (x, y)

/-- Two items in order, between two others. -/
def between (first x y last : α) : List α :=
  let (x, y) := two less x y
  [first, x, y, last]

/-- Two pairs in order put in order together: the least and the greatest item are known after two
comparisons. -/
def twoPairs (a b c d : α) : List α :=
  match less c a, less d b with
  | false, false => between less a b c d
  | false, true => between less a c d b
  | true, false => between less c a b d
  | true, true => between less c a d b

/-- Four items in order. -/
def four (p q r s : α) : List α :=
  let (a, b) := two less p q
  let (c, d) := two less r s
  twoPairs less a b c d

/-! ### Merging -/

/-- Two lists in order merged from the front, or from the back if the first is the longer one. -/
def merge (left right : List α) : List α :=
  if left.length ≤ right.length then left.merge right fun x y => !less y x
  else (right.reverse.merge left.reverse fun y x => !less y x).reverse

/-- So many items taken from the fronts of two lists, of two that compare equal that of the first
list; and what is left of the lists. -/
def takeFronts (less : α → α → Bool) : Nat → List α → List α → List α × List α × List α
  | n + 1, x :: left, y :: right =>
    if less y x then
      let (taken, rest) := takeFronts less n (x :: left) right
      (y :: taken, rest)
    else
      let (taken, rest) := takeFronts less n left (y :: right)
      (x :: taken, rest)
  | _, left, right => ([], left, right)

/-- Two lists in order, the second as long as the first or longer by one item, merged from both
ends at once. Each end takes as many items as the first list has; if there is one more, it stands
between them. There is no result unless every item is taken once. -/
def mergeEnds (left right : List α) : Option (List α) :=
  let n := left.length
  let (front, fromLeft, fromRight) := takeFronts less n left right
  let (back, toRight, toLeft) := takeFronts (fun x y => less y x) n right.reverse left.reverse
  let more := right.length - n
  let k := if n < fromLeft.length + toLeft.length then more else 0
  let middle := fromLeft.take k ++ fromRight.take (more - k)
  if (fromLeft.drop k).length + toLeft.length = n ∧
      (fromRight.drop (more - k)).length + toRight.length = right.length then
    some (front ++ middle ++ back.reverse)
  else none

/-! ### Lists of at most 32 items -/

/-- Half of a short list in order. Where fours are wanted, the first four items are put in order at
once. -/
def sortHalf (fours : Bool) : List α → List α
  | p :: q :: r :: s :: rest =>
    if fours then insertAll less (four less p q r s) rest
    else insertAll less [] (p :: q :: r :: s :: rest)
  | items => insertAll less [] items

/-- The most items that are sorted without pivots. -/
def shortLength : Nat := 32

/-- A short list: its halves are sorted and merged. -/
def sortShort (items : List α) : Option (List α) :=
  if items.length < 2 then some items
  else
    let n := items.length / 2
    let fours := decide (8 ≤ items.length)
    mergeEnds less (sortHalf less fours (items.take n)) (sortHalf less fours (items.drop n))

/-! ### Runs -/

/-- How the items of a run lie. -/
inductive Lie where
  | up
  | down
  | loose
  deriving DecidableEq, Repr

/-- How many items go on, one after the other, as those before them. -/
def goingOn (goesOn : α → α → Bool) : α → List α → Nat
  | _, [] => 0
  | x, y :: rest => if goesOn x y then goingOn goesOn y rest + 1 else 0

/-- The number of items at the front that all go down, or that go up. -/
def stretch : List α → Nat × Lie
  | [] => (0, .up)
  | x :: rest =>
    let falling := goingOn (fun x y => less y x) x rest
    if falling = 0 then (goingOn (fun x y => !less y x) x rest + 1, .up) else (falling + 1, .down)

/-- The length of the first run, and how its items lie. A stretch counts if it has a least length;
else so many items are taken as loose. -/
def firstRun (least loose : Nat) (items : List α) : Nat × Lie :=
  let (n, lie) := stretch less items
  if least ≤ n then (n, lie) else (loose, .loose)

/-- The runs of a list. -/
def cut (least loose : Nat) : List α → List (List α × Lie)
  | [] => []
  | x :: rest =>
    let (n, lie) := firstRun less least loose (x :: rest)
    (x :: rest.take (n - 1), lie) :: cut least loose (rest.drop (n - 1))
termination_by items => items.length

/-- Items of a run, which may not be in order yet. -/
structure Run (α : Type) where
  items : List α
  ordered : Bool

/-- A run that was cut, with its items in order, or else loose ones if they may stay so. -/
def Run.ofCut (eager : Bool) : List α × Lie → Option (Run α)
  | (items, .up) => some ⟨items, true⟩
  | (items, .down) => some ⟨items.reverse, true⟩
  | (items, .loose) =>
    if eager then (sortShort less items).map fun items => ⟨items, true⟩ else some ⟨items, false⟩

section Merging

variable (settle : List α → Option (List α)) (space : Nat)

/-- The items of a run in order, given how loose ones are sorted. -/
def Run.settled (run : Run α) : Option (List α) :=
  if run.ordered then some run.items else settle run.items

/-- Two runs as one: merged, or left loose if both are and there is space to sort them together. -/
def Run.join (left right : Run α) : Option (Run α) :=
  if !left.ordered && !right.ordered && decide (left.items.length + right.items.length ≤ space) then
    some ⟨left.items ++ right.items, false⟩
  else do
    let front ← left.settled settle
    let back ← right.settled settle
    return ⟨merge less front back, true⟩

/-- The depth in the balanced tree over `n` items at which what is between two places is merged with
what is between the second of them and a third one. -/
def mergeDepth (n start middle stop : Nat) : Nat :=
  let factor := (2 ^ 62 + n - 1) / n
  let differs := (factor * (start + middle)) ^^^ (factor * (middle + stop))
  if differs = 0 then 64 else 63 - differs.log2

/-- The last run joined with those before it that are to be merged at a depth or deeper. -/
def joinDeeper (depth : Nat) : List (Run α × Nat) → Run α → Option (List (Run α × Nat) × Run α)
  | (before, d) :: waiting, run =>
    if depth ≤ d then do joinDeeper depth waiting (← Run.join less settle space before run)
    else some ((before, d) :: waiting, run)
  | [], run => some ([], run)

/-- The runs of `n` items as one: those that wait for what follows them, the last one that was read,
which ends at a place, and those to come. -/
def mergeRuns (n : Nat) : List (Run α × Nat) → Run α → Nat → List (Run α) → Option (Run α)
  | waiting, run, _, [] => (joinDeeper less settle space 0 waiting run).map Prod.snd
  | waiting, run, place, next :: rest => do
    let stop := place + next.items.length
    let depth := mergeDepth n (place - run.items.length) place stop
    let (waiting, run) ← joinDeeper less settle space depth waiting run
    mergeRuns n ((run, depth) :: waiting) next stop rest

/-- The items of runs in order. -/
def mergeAll (n : Nat) : List (Run α) → Option (List α)
  | [] => some []
  | run :: rest => do
    (← mergeRuns less settle space n [] run run.items.length rest).settled settle

/-- About the square root of a number. -/
def sqrtAbout (n : Nat) : Nat :=
  let shift := (1 + n.log2) / 2
  (2 ^ shift + n / 2 ^ shift) / 2

/-- The least length of a stretch that counts. -/
def leastLength (n : Nat) : Nat := if n ≤ 4096 then min (n - n / 2) 64 else sqrtAbout n

/-- The items cut into runs, and these merged. Eagerly, loose items are sorted as they are cut. -/
def driftsort (eager : Bool) (items : List α) : Option (List α) := do
  let least := leastLength items.length
  let loose := if eager then shortLength else least
  let runs ← (cut less least loose items).mapM (Run.ofCut less eager)
  mergeAll less settle space items.length runs

end Merging

/-! ### Pivots -/

/-- The one of three items that lies between the others. -/
def median (x y z : α) : α :=
  if less x y = less x z then if less y z = less x y then y else z else x

/-- An item from the middle of `n` places: the median of three, each of which is one of many. -/
def middle (item : Nat → α) (start n : Nat) : α :=
  let step := n / 8
  if 64 ≤ n then
    median less (middle item start step) (middle item (start + 4 * step) step)
      (middle item (start + 7 * step) step)
  else median less (item start) (item (start + 4 * step)) (item (start + 7 * step))
termination_by n

/-- The item by which a list is partitioned. -/
def pivot? : List α → Option α
  | [] => none
  | x :: rest =>
    let array := (x :: rest).toArray
    some (middle less (array.getD · x) 0 array.size)

/-- A list partitioned by pivots, so many times at most and then sorted otherwise. No item is less
than the bound; if none is less than the pivot either, those that equal it are in order. -/
def quicksort (otherwise : List α → Option (List α)) :
    Nat → Option α → List α → Option (List α)
  | limit, bound, items =>
    if items.length ≤ shortLength then sortShort less items
    else
      match limit, pivot? less items with
      | limit + 1, some pivot =>
        let lesser := items.filter (less · pivot)
        if bound.any (fun b => !less b pivot) || lesser.isEmpty then do
          return items.filter (!less pivot ·) ++
            (← quicksort otherwise limit none (items.filter (less pivot ·)))
        else do
          let right ← quicksort otherwise limit (some pivot) (items.filter (!less · pivot))
          return (← quicksort otherwise limit bound lesser) ++ right
      | _, _ => otherwise items

/-! ### Any lists -/

/-- How many of `n` items, of so many bytes each, there is space for besides the list. -/
def space (size n : Nat) : Nat := max (n - n / 2) (min n (8000000 / size))

/-- The items of a list in order. -/
def sort (size : Nat) (items : List α) : Option (List α) :=
  let space := space size items.length
  if items.length ≤ 20 then some (insertAll less [] items)
  else if items.length ≤ 2 * shortLength then driftsort less some space true items
  else
    let eagerly := driftsort less some space true
    let settle (items : List α) := quicksort less eagerly (2 * items.length.log2) none items
    driftsort less settle space false items

end RowQuery.Sort
