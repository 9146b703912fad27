/-
# The index picks what a scan picks

A group of a list is the filter of the list by the group's key, in order. So the
rows that an index finds are those whose value equals the literal, provided that
equal values have equal keys; and a scan by the condition finds these always.
Neither does anything to the session.

Which equal values share a key is for `Proofs.Index.Key` to say.

Key theorems: `Groups.find_ofList`, `filterIndexed_run`, `filterScanned_run`,
`filter_run_of_equality`.
-/
import RowQuery.Evaluation.Select
import RowQuery.Proofs.Coupling.Basic
import RowQuery.Proofs.Value.Order

namespace RowQuery

/-! ### Groups as filters -/

namespace Groups

variable {α : Type}

theorem find_nil (key : String) : find key ([] : Groups α) = [] := rfl

theorem find_cons (key k : String) (items : List α) (rest : Groups α) :
    find key ((k, items) :: rest) = if k = key then items else find key rest := by
  unfold find
  by_cases h : k = key
  · rw [if_pos h, h, List.lookup_cons_self]
    rfl
  · rw [if_neg h, List.lookup_cons, beq_false_of_ne (Ne.symm h)]

theorem find_add (key k : String) (item : α) : ∀ groups : Groups α,
    (add k item groups).find key = groups.find key ++ if k = key then [item] else []
  | [] => by rw [add, find_cons, find_nil, List.nil_append]
  | (l, items) :: rest => by
    unfold add
    by_cases hl : l = k
    · subst hl
      rw [if_pos rfl, find_cons, find_cons]
      split
      · rfl
      · rw [List.append_nil]
    · rw [if_neg hl, find_cons, find_cons, find_add key k item rest]
      by_cases h : l = key
      · rw [if_pos h, if_pos h, if_neg fun hk => hl (h.trans hk.symm), List.append_nil]
      · rw [if_neg h, if_neg h]

theorem find_foldl_add (key : String) : ∀ (items : List (String × α)) (groups : Groups α),
    (items.foldl (fun groups (k, item) => add k item groups) groups).find key =
      groups.find key ++ (items.filter fun p => p.1 == key).map Prod.snd
  | [], groups => (List.append_nil _).symm
  | (k, item) :: rest, groups => by
    rw [List.foldl_cons, find_foldl_add key rest, find_add, List.filter_cons, List.append_assoc]
    by_cases h : k = key
    · simp [h]
    · simp [h]

/-- A group is the filter of the items by its key. -/
theorem find_ofList (key : String) (items : List (String × α)) :
    (ofList items).find key = (items.filter fun p => p.1 == key).map Prod.snd :=
  find_foldl_add key items []

end Groups

/-! ### Actions that only read -/

/-- Actions that have a result and leave the session as it is, on every item of a list. -/
theorem Exec.run_mapM_of_ok {α β : Type} {k : α → Exec β} {h : α → β} {s : Session} :
    ∀ {xs : List α}, (∀ a ∈ xs, (k a).run.run s = (.ok (h a), s)) →
      (xs.mapM k).run.run s = (.ok (xs.map h), s)
  | [], _ => by rw [List.mapM_nil]; rfl
  | a :: rest, hk => by
    rw [List.mapM_cons, Exec.run_bind, hk a List.mem_cons_self]
    simp only [Exec.run_bind]
    rw [run_mapM_of_ok fun b hb => hk b (List.mem_cons_of_mem a hb)]
    rfl

theorem Expr.run_identifier (run : Runner) (column : String) (row : Record) (s : Session) :
    ((Expr.identifier column).evaluate run row).run.run s = (.ok (s.resolve row column), s) := by
  simp only [Expr.evaluate]
  rfl

namespace Query

variable (run : Runner) {column : String} {literal : Value}

/-- **The index picks the rows whose value equals the literal**, in order, if among the values of
the column those that equal the literal share its key. -/
theorem filterIndexed_run {rows : List Record} {s : Session}
    (hkey : ∀ r ∈ rows, (s.resolve r column).same literal = true →
      (s.resolve r column).key = literal.key) :
    (filterIndexed run column literal rows).run.run s =
      (.ok (rows.filter fun r => (s.resolve r column).same literal), s) := by
  unfold filterIndexed
  rw [Exec.run_bind, Exec.run_mapM_of_ok fun r _ => Expr.run_identifier run column r s]
  show (Except.ok _, s) = _
  congr 2
  rw [Groups.find_ofList]
  induction rows with
  | nil => rfl
  | cons r rest ih =>
    have ih := ih fun q hq => hkey q (List.mem_cons_of_mem r hq)
    simp only [List.map_cons, List.zip_cons_cons, List.filter_cons, beq_iff_eq]
    by_cases hsame : (s.resolve r column).same literal = true
    · rw [if_pos (hkey r List.mem_cons_self hsame), if_pos hsame]
      rw [List.map_cons, List.filter_cons, if_pos hsame, List.map_cons, ih]
    · rw [if_neg hsame, ← ih]
      split
      · rw [List.map_cons, List.filter_cons, if_neg hsame]
      · rfl

theorem run_equality {condition : Expr} (h : condition.equality? = some (column, literal))
    (row : Record) (s : Session) :
    (condition.evaluate run row).run.run s =
      (.ok (.boolean ((s.resolve row column).same literal)), s) := by
  unfold Expr.equality? at h
  split at h
  · obtain ⟨rfl, rfl⟩ := Prod.mk.injEq .. ▸ Option.some.inj h
    rw [Expr.evaluate, Exec.run_bind, Expr.run_identifier]
    · simp only [Expr.evaluate]; rfl
    · simp
  · obtain ⟨rfl, rfl⟩ := Prod.mk.injEq .. ▸ Option.some.inj h
    rw [Expr.evaluate, Value.same_comm]
    · simp only [Expr.evaluate]; rfl
    · simp
  · cases h

/-- A scan by an equality picks the rows whose value equals the literal. -/
theorem filterScanned_run {condition : Expr} (h : condition.equality? = some (column, literal))
    (rows : List Record) (s : Session) :
    (filterScanned run condition rows).run.run s =
      (.ok (rows.filter fun r => (s.resolve r column).same literal), s) := by
  unfold filterScanned Exec.filter
  rw [Exec.run_bind, Exec.run_mapM_of_ok (h := fun r => (s.resolve r column).same literal)]
  · show (Except.ok _, s) = _
    congr 2
    induction rows with
    | nil => rfl
    | cons r rest ih =>
      simp only [List.map_cons, List.zip_cons_cons, List.filter_cons]
      split
      · rw [List.map_cons, ih]
      · exact ih
  · intro r _
    rw [Exec.run_bind, run_equality run h]
    rfl

/-- **A condition that is an equality picks the same rows with an index and without one.** -/
theorem filter_run_of_equality {q : Query} {condition : Expr} (hq : q.condition = some condition)
    (h : condition.equality? = some (column, literal)) {rows : List Record} {s : Session}
    (hkey : ∀ r ∈ rows, (s.resolve r column).same literal = true →
      (s.resolve r column).key = literal.key) (indexed : Bool) :
    (q.filter run indexed rows).run.run s =
      (.ok (rows.filter fun r => (s.resolve r column).same literal), s) := by
  unfold filter
  rw [hq]
  dsimp only
  cases indexed with
  | false => exact filterScanned_run run h rows s
  | true =>
    rw [if_pos rfl, h]
    exact filterIndexed_run run hkey

end Query

end RowQuery
