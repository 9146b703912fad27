/-
# The statements within a statement

A statement has others directly within it: the bodies of its table expressions
and the subqueries in the expressions of its queries. Those are all that its
execution asks for, so two ways to execute statements that agree on them cannot
be told apart.

Aggregates are put in place by running; what comes out has no statements in it
but those that went in.

Key definitions: `Expr.statements`, `Query.statements`, `Statement.within`,
`AgreeOn`, `Exec.Gives`.
Key theorems: `evaluate_agrees`, `select_agrees`, `executeWith_agrees`.
-/
import RowQuery.Evaluation.Statement
import RowQuery.Proofs.Coupling.Basic

namespace RowQuery

open List

mutual

/-- The statements directly within an expression. -/
def Expr.statements : Expr → List Statement
  | .identifier _ => []
  | .literal _ => []
  | .binary left _ right => left.statements ++ right.statements
  | .isNull operand _ => operand.statements
  | .inList left candidates _ => left.statements ++ exprsStatements candidates
  | .like left pattern _ => left.statements ++ pattern.statements
  | .call _ args => exprsStatements args
  | .window _ args partitionBy orderBy =>
    exprsStatements args ++ (exprsStatements partitionBy ++ keysStatements orderBy)
  | .case branches otherwise => branchesStatements branches ++ optionStatements otherwise
  | .star => []
  | .subquery s => [s]

def exprsStatements : List Expr → List Statement
  | [] => []
  | e :: rest => e.statements ++ exprsStatements rest

def keysStatements : List SortKey → List Statement
  | [] => []
  | ⟨e, _⟩ :: rest => e.statements ++ keysStatements rest

def branchesStatements : List Branch → List Statement
  | [] => []
  | ⟨condition, result⟩ :: rest =>
    condition.statements ++ (result.statements ++ branchesStatements rest)

def optionStatements : Option Expr → List Statement
  | none => []
  | some e => e.statements

end

def itemsStatements (items : List SelectItem) : List Statement := items.flatMap (·.expr.statements)

def joinsStatements (joins : List Join) : List Statement :=
  joins.flatMap (optionStatements ·.condition)

/-- The statements directly within a query. -/
def Query.statements (q : Query) : List Statement :=
  itemsStatements q.items ++ (joinsStatements q.joins ++ (optionStatements q.condition ++
    (exprsStatements q.groupBy ++ (optionStatements q.having ++ keysStatements q.orderBy))))

def compoundStatements : Option Compound → List Statement
  | none => []
  | some c => c.right.statements

/-- The statements directly within a statement. -/
def Statement.within (s : Statement) : List Statement :=
  s.tables.map TableExpr.body ++ (s.primary.statements ++ compoundStatements s.compound)

attribute [simp] Expr.statements exprsStatements keysStatements branchesStatements optionStatements

theorem statements_subset_of_key {key : SortKey} : ∀ {keys : List SortKey}, key ∈ keys →
    key.expr.statements ⊆ keysStatements keys
  | ⟨e, direction⟩ :: rest, hmem => by
    rw [keysStatements]
    rcases mem_cons.1 hmem with rfl | hmem
    · exact subset_append_left _ _
    · exact List.Subset.trans (statements_subset_of_key hmem) (subset_append_right _ _)

/-- Two ways to execute statements agree on some of them. -/
def AgreeOn (ss : List Statement) (run run' : Runner) : Prop := ∀ s ∈ ss, run s = run' s

namespace AgreeOn

variable {ss ts : List Statement} {run run' : Runner}

theorem mono (h : AgreeOn ss run run') (hts : ts ⊆ ss) : AgreeOn ts run run' :=
  fun s hs => h s (hts hs)

theorem append : AgreeOn (ss ++ ts) run run' ↔ AgreeOn ss run run' ∧ AgreeOn ts run run' :=
  forall_mem_append

end AgreeOn

/-! ### What actions give -/

/-- An action has no results but those with a property. -/
def Exec.Gives {α : Type} (p : α → Prop) (m : Exec α) : Prop :=
  ∀ s a s', m.run.run s = (.ok a, s') → p a

namespace Exec.Gives

variable {α β : Type} {p : α → Prop} {q : β → Prop} {m : Exec α} {k k' : α → Exec β}

theorem pure {a : α} (h : p a) : Gives p (pure a) := by
  rintro s _ _ ⟨⟩
  exact h

theorem bind (hm : Gives p m) (hk : ∀ a, p a → Gives q (k a)) : Gives q (m >>= k) := by
  intro s b s' hrun
  obtain ⟨a, s₁, hresult, hrun⟩ := Exec.run_bind_ok hrun
  exact hk a (hm s a s₁ hresult) s₁ b s' hrun

theorem any : Gives (fun _ => True) m := fun _ _ _ _ => trivial

theorem mono {p' : α → Prop} (hm : Gives p m) (h : ∀ a, p a → p' a) : Gives p' m :=
  fun s a s' hrun => h a (hm s a s' hrun)

/-- An action for each item of a list gives a list of the same length. -/
theorem mapM : ∀ {xs : List α}, (∀ x ∈ xs, Gives q (k x)) →
    Gives (fun ys => ys.length = xs.length ∧ ∀ y ∈ ys, q y) (xs.mapM k)
  | [], _ => .pure ⟨rfl, forall_mem_nil q⟩
  | x :: xs, h => by
    obtain ⟨hx, hxs⟩ := forall_mem_cons.1 h
    rw [mapM_cons]
    refine .bind hx fun y hy => .bind (mapM hxs) fun ys hys => .pure ⟨?_, ?_⟩
    · rw [length_cons, length_cons, hys.1]
    · exact forall_mem_cons.2 ⟨hy, hys.2⟩

/-- An action for each item of a list gives what belongs to the items, one after the other. -/
theorem mapM_forall₂ {A : α → β → Prop} : ∀ {xs : List α}, (∀ x ∈ xs, Gives (A x) (k x)) →
    Gives (fun ys => Forall₂ A xs ys) (xs.mapM k)
  | [], _ => .pure .nil
  | x :: xs, h => by
    obtain ⟨hx, hxs⟩ := forall_mem_cons.1 h
    rw [mapM_cons]
    exact .bind hx fun y hy => .bind (mapM_forall₂ hxs) fun ys hys => .pure (.cons hy hys)

theorem withPopulation {rows : List Record} (hm : Gives p m) :
    Gives p (Exec.withPopulation rows m) := by
  intro s a s' hrun
  let enter : Session := { s with population := some rows }
  have hresult : (m.run.run enter).1 = .ok a := congrArg Prod.fst hrun
  exact hm enter a _ (Prod.ext hresult rfl)

/-- What follows an action matters only on its results. -/
theorem congr (hm : Gives p m) (hk : ∀ a, p a → k a = k' a) : m >>= k = m >>= k' := by
  refine ExceptT.ext (funext fun s => ?_)
  have h : (m >>= k).run.run s = (m >>= k').run.run s := by
    rw [Exec.run_bind, Exec.run_bind]
    generalize hresult : m.run.run s = result
    obtain ⟨a | a, s₁⟩ := result
    · rfl
    · dsimp only
      rw [hk a (hm s a s₁ hresult)]
  exact h

end Exec.Gives

theorem mapM_congr {α β : Type} {k k' : α → Exec β} : ∀ {xs : List α}, (∀ x ∈ xs, k x = k' x) →
    xs.mapM k = xs.mapM k'
  | [], _ => rfl
  | x :: xs, h => by
    rw [mapM_cons, mapM_cons, h x mem_cons_self, mapM_congr fun y hy => h y (mem_cons_of_mem x hy)]

/-! ### Expressions -/

section Expressions

variable {run run' : Runner}

theorem subqueryRows_agrees {s : Statement} (h : run s = run' s) :
    Expr.subqueryRows run s = Expr.subqueryRows run' s := by
  funext row
  unfold Expr.subqueryRows
  rw [h]

mutual

/-- **Expressions have the same values** with runners that agree on the statements within. -/
theorem evaluate_agrees : ∀ e : Expr, AgreeOn e.statements run run' →
    e.evaluate run = e.evaluate run'
  | .identifier _, _ => by
    funext row
    simp only [Expr.evaluate]
  | .literal _, _ => by
    funext row
    simp only [Expr.evaluate]
  | .binary left op right, h => by
    rw [Expr.statements, AgreeOn.append] at h
    have hleft := evaluate_agrees left h.1
    have hright := evaluate_agrees right h.2
    funext row
    by_cases hop : op = .and
    · subst hop
      simp only [Expr.evaluate, hleft, hright]
    · rw [Expr.evaluate, Expr.evaluate, hleft, hright]
      · exact hop
      · exact hop
  | .isNull operand _, h => by
    rw [Expr.statements] at h
    funext row
    simp only [Expr.evaluate, evaluate_agrees operand h]
  | .inList left candidates _, h => by
    rw [Expr.statements, AgreeOn.append] at h
    funext row
    simp only [Expr.evaluate, evaluate_agrees left h.1, isAmong_agrees candidates h.2]
  | .like left pattern _, h => by
    rw [Expr.statements, AgreeOn.append] at h
    funext row
    simp only [Expr.evaluate, evaluate_agrees left h.1, evaluate_agrees pattern h.2]
  | .call _ args, h => by
    rw [Expr.statements] at h
    funext row
    simp only [Expr.evaluate, evaluateAll_agrees args h]
  | .window name args partitionBy orderBy, h => by
    rw [Expr.statements, AgreeOn.append, AgreeOn.append] at h
    funext row
    simp only [Expr.evaluate, evaluateAll_agrees partitionBy h.2.1,
      evaluateKeys_agrees orderBy h.2.2, aggregate_agrees args h.1]
  | .case branches otherwise, h => by
    rw [Expr.statements, AgreeOn.append] at h
    funext row
    simp only [Expr.evaluate, firstResult_agrees branches h.1, evaluateOption_agrees otherwise h.2]
  | .star, _ => by
    funext row
    simp only [Expr.evaluate]
  | .subquery s, h => by
    rw [Expr.statements] at h
    funext row
    simp only [Expr.evaluate, subqueryRows_agrees (h s (mem_singleton_self s))]

theorem isAmong_agrees : ∀ candidates : List Expr, AgreeOn (exprsStatements candidates) run run' →
    ∀ value, Expr.isAmong run value candidates = Expr.isAmong run' value candidates
  | [], _, _ => by
    funext row
    simp only [Expr.isAmong]
  | e :: rest, h, value => by
    rw [exprsStatements, AgreeOn.append] at h
    have hrest := isAmong_agrees rest h.2 value
    funext row
    by_cases he : ∃ s, e = .subquery s
    · obtain ⟨s, rfl⟩ := he
      rw [Expr.statements] at h
      simp only [Expr.isAmong, subqueryRows_agrees (h.1 s (mem_singleton_self s)), hrest]
    · have he : ∀ s, e = .subquery s → False := fun s h => he ⟨s, h⟩
      rw [Expr.isAmong, Expr.isAmong, evaluate_agrees e h.1, hrest]
      · exact he
      · exact he

theorem evaluateAll_agrees : ∀ es : List Expr, AgreeOn (exprsStatements es) run run' →
    Expr.evaluateAll run es = Expr.evaluateAll run' es
  | [], _ => by
    funext row
    simp only [Expr.evaluateAll]
  | e :: rest, h => by
    rw [exprsStatements, AgreeOn.append] at h
    funext row
    simp only [Expr.evaluateAll, evaluate_agrees e h.1, evaluateAll_agrees rest h.2]

theorem evaluateKeys_agrees : ∀ keys : List SortKey, AgreeOn (keysStatements keys) run run' →
    Expr.evaluateKeys run keys = Expr.evaluateKeys run' keys
  | [], _ => by
    funext row
    simp only [Expr.evaluateKeys]
  | ⟨e, _⟩ :: rest, h => by
    rw [keysStatements, AgreeOn.append] at h
    funext row
    simp only [Expr.evaluateKeys, evaluate_agrees e h.1, evaluateKeys_agrees rest h.2]

theorem firstResult_agrees : ∀ branches : List Branch,
    AgreeOn (branchesStatements branches) run run' →
    Expr.firstResult run branches = Expr.firstResult run' branches
  | [], _ => by
    funext row
    simp only [Expr.firstResult]
  | ⟨condition, result⟩ :: rest, h => by
    rw [branchesStatements, AgreeOn.append, AgreeOn.append] at h
    funext row
    simp only [Expr.firstResult, evaluate_agrees condition h.1, evaluate_agrees result h.2.1,
      firstResult_agrees rest h.2.2]

theorem evaluateOption_agrees : ∀ o : Option Expr, AgreeOn (optionStatements o) run run' →
    Expr.evaluateOption run o = Expr.evaluateOption run' o
  | none, _ => by
    funext row
    simp only [Expr.evaluateOption]
  | some e, h => by
    rw [optionStatements] at h
    funext row
    simp only [Expr.evaluateOption, evaluate_agrees e h]

theorem aggregate_agrees : ∀ args : List Expr, AgreeOn (exprsStatements args) run run' →
    Expr.aggregate run args = Expr.aggregate run' args
  | args, h => by
    funext a rows
    by_cases hcount : a = .count
    · subst hcount
      rw [Expr.aggregate, Expr.aggregate]
    · cases args with
      | nil =>
        rw [Expr.aggregate, Expr.aggregate]
        · exact hcount
        · exact hcount
      | cons e rest =>
        rw [exprsStatements, AgreeOn.append] at h
        rw [Expr.aggregate, Expr.aggregate, evaluate_agrees e h.1]
        · exact hcount
        · exact hcount

end

/-! ### Aggregates put in place -/

variable (group : List Record)

mutual

theorem reduce_agrees : ∀ e : Expr, AgreeOn e.statements run run' →
    e.reduce run group = e.reduce run' group
  | .call name args, h => by
    rw [Expr.statements] at h
    simp only [Expr.reduce, aggregate_agrees args h, reduceAll_agrees args h]
  | .binary left op right, h => by
    rw [Expr.statements, AgreeOn.append] at h
    simp only [Expr.reduce, reduce_agrees left h.1, reduce_agrees right h.2]
  | .isNull operand _, h => by
    rw [Expr.statements] at h
    simp only [Expr.reduce, reduce_agrees operand h]
  | .inList left candidates _, h => by
    rw [Expr.statements, AgreeOn.append] at h
    simp only [Expr.reduce, reduce_agrees left h.1, reduceAll_agrees candidates h.2]
  | .like left pattern _, h => by
    rw [Expr.statements, AgreeOn.append] at h
    simp only [Expr.reduce, reduce_agrees left h.1, reduce_agrees pattern h.2]
  | .case branches otherwise, h => by
    rw [Expr.statements, AgreeOn.append] at h
    simp only [Expr.reduce, reduceBranches_agrees branches h.1, reduceOption_agrees otherwise h.2]
  | .identifier _, _ => by simp only [Expr.reduce]
  | .literal _, _ => by simp only [Expr.reduce]
  | .window .., _ => by simp only [Expr.reduce]
  | .star, _ => by simp only [Expr.reduce]
  | .subquery _, _ => by simp only [Expr.reduce]

theorem reduceAll_agrees : ∀ es : List Expr, AgreeOn (exprsStatements es) run run' →
    Expr.reduceAll run group es = Expr.reduceAll run' group es
  | [], _ => by simp only [Expr.reduceAll]
  | e :: rest, h => by
    rw [exprsStatements, AgreeOn.append] at h
    simp only [Expr.reduceAll, reduce_agrees e h.1, reduceAll_agrees rest h.2]

theorem reduceBranches_agrees : ∀ branches : List Branch,
    AgreeOn (branchesStatements branches) run run' →
    Expr.reduceBranches run group branches = Expr.reduceBranches run' group branches
  | [], _ => by simp only [Expr.reduceBranches]
  | ⟨condition, result⟩ :: rest, h => by
    rw [branchesStatements, AgreeOn.append, AgreeOn.append] at h
    simp only [Expr.reduceBranches, reduce_agrees condition h.1, reduce_agrees result h.2.1,
      reduceBranches_agrees rest h.2.2]

theorem reduceOption_agrees : ∀ o : Option Expr, AgreeOn (optionStatements o) run run' →
    Expr.reduceOption run group o = Expr.reduceOption run' group o
  | none, _ => by simp only [Expr.reduceOption]
  | some e, h => by
    rw [optionStatements] at h
    simp only [Expr.reduceOption, reduce_agrees e h]

end

open Exec (Gives)

theorem append_subset_append {α : Type} {as as' bs bs' : List α} (ha : as' ⊆ as) (hb : bs' ⊆ bs) :
    as' ++ bs' ⊆ as ++ bs :=
  append_subset.2 ⟨List.Subset.trans ha (subset_append_left _ _),
    List.Subset.trans hb (subset_append_right _ _)⟩

mutual

/-- An expression with aggregates put in place has no statements in it but those from before. -/
theorem reduce_statements : ∀ e : Expr, Gives (·.statements ⊆ e.statements) (e.reduce run group)
  | .call name args => by
    simp only [Expr.reduce]
    split
    · exact Gives.any.bind fun _ _ => .pure (by simp)
    · refine (reduceAll_statements args).bind fun args' hargs => .pure ?_
      simpa only [Expr.statements] using hargs
  | .binary left op right => by
    simp only [Expr.reduce, Expr.statements]
    refine (reduce_statements left).bind fun left' hleft => ?_
    refine (reduce_statements right).bind fun right' hright => .pure ?_
    simpa only [Expr.statements] using append_subset_append hleft hright
  | .isNull operand _ => by
    simp only [Expr.reduce]
    refine (reduce_statements operand).bind fun operand' hoperand => .pure ?_
    simpa only [Expr.statements] using hoperand
  | .inList left candidates _ => by
    simp only [Expr.reduce, Expr.statements]
    refine (reduce_statements left).bind fun left' hleft => ?_
    refine (reduceAll_statements candidates).bind fun candidates' hcandidates => .pure ?_
    simpa only [Expr.statements] using append_subset_append hleft hcandidates
  | .like left pattern _ => by
    simp only [Expr.reduce, Expr.statements]
    refine (reduce_statements left).bind fun left' hleft => ?_
    refine (reduce_statements pattern).bind fun pattern' hpattern => .pure ?_
    simpa only [Expr.statements] using append_subset_append hleft hpattern
  | .case branches otherwise => by
    simp only [Expr.reduce, Expr.statements]
    refine (reduceBranches_statements branches).bind fun branches' hbranches => ?_
    refine (reduceOption_statements otherwise).bind fun otherwise' hotherwise => .pure ?_
    simpa only [Expr.statements] using append_subset_append hbranches hotherwise
  | .identifier _ => by
    simp only [Expr.reduce]
    exact .pure (List.Subset.refl _)
  | .literal _ => by
    simp only [Expr.reduce]
    exact .pure (List.Subset.refl _)
  | .window .. => by
    simp only [Expr.reduce]
    exact .pure (List.Subset.refl _)
  | .star => by
    simp only [Expr.reduce]
    exact .pure (List.Subset.refl _)
  | .subquery _ => by
    simp only [Expr.reduce]
    exact .pure (List.Subset.refl _)

theorem reduceAll_statements : ∀ es : List Expr,
    Gives (exprsStatements · ⊆ exprsStatements es) (Expr.reduceAll run group es)
  | [] => by
    simp only [Expr.reduceAll]
    exact .pure (List.Subset.refl _)
  | e :: rest => by
    simp only [Expr.reduceAll, exprsStatements]
    refine (reduce_statements e).bind fun e' he => ?_
    refine (reduceAll_statements rest).bind fun rest' hrest => .pure ?_
    simpa only [exprsStatements] using append_subset_append he hrest

theorem reduceBranches_statements : ∀ branches : List Branch,
    Gives (branchesStatements · ⊆ branchesStatements branches)
      (Expr.reduceBranches run group branches)
  | [] => by
    simp only [Expr.reduceBranches]
    exact .pure (List.Subset.refl _)
  | ⟨condition, result⟩ :: rest => by
    simp only [Expr.reduceBranches, branchesStatements]
    refine (reduce_statements condition).bind fun condition' hcondition => ?_
    refine (reduce_statements result).bind fun result' hresult => ?_
    refine (reduceBranches_statements rest).bind fun rest' hrest => .pure ?_
    simpa only [branchesStatements] using
      append_subset_append hcondition (append_subset_append hresult hrest)

theorem reduceOption_statements : ∀ o : Option Expr,
    Gives (optionStatements · ⊆ optionStatements o) (Expr.reduceOption run group o)
  | none => by
    simp only [Expr.reduceOption]
    exact .pure (List.Subset.refl _)
  | some e => by
    simp only [Expr.reduceOption]
    refine (reduce_statements e).bind fun e' he => .pure ?_
    simpa only [optionStatements] using he

end

theorem evaluateGrouped_agrees {e : Expr} (h : AgreeOn e.statements run run') :
    e.evaluateGrouped run group = e.evaluateGrouped run' group := by
  funext row
  unfold Expr.evaluateGrouped
  rw [← reduce_agrees group e h]
  refine (reduce_statements group e).congr fun e' he => ?_
  rw [evaluate_agrees e' (h.mono he)]

end Expressions

/-! ### Queries -/

section Queries

variable {run run' : Runner} {q : Query}

theorem projection_congr {value value' : Expr → Exec Value}
    (hvalue : ∀ item ∈ q.items, value item.expr = value' item.expr) :
    q.projection value = q.projection value' := by
  funext source
  unfold Query.projection
  rw [mapM_congr fun item hitem => ?_]
  unfold Query.itemFields
  rw [hvalue item hitem]

theorem filter_agrees (h : AgreeOn (optionStatements q.condition) run run') (indexed : Bool) :
    q.filter run indexed = q.filter run' indexed := by
  funext rows
  unfold Query.filter
  cases hcondition : q.condition with
  | none => rfl
  | some condition =>
    rw [hcondition, optionStatements] at h
    dsimp only
    split
    · rename_i column _ _
      have hcolumn : AgreeOn (Expr.identifier column).statements run run' := by
        rw [Expr.statements]
        exact fun _ hs => absurd hs not_mem_nil
      unfold Query.filterIndexed
      rw [evaluate_agrees _ hcolumn]
    · unfold Query.filterScanned
      rw [evaluate_agrees condition h]

theorem sortKeys_agrees {value value' : Expr → Record → Exec Value}
    (hvalue : ∀ key ∈ q.orderBy, value key.expr = value' key.expr)
    (h : AgreeOn (keysStatements q.orderBy) run run') :
    q.sortKeys run value = q.sortKeys run' value' := by
  funext source projected
  unfold Query.sortKeys
  refine mapM_congr fun key hkey => ?_
  have hkeyValue := hvalue key hkey
  have hplain := evaluate_agrees key.expr (h.mono (statements_subset_of_key hkey))
  unfold Query.sortKey
  generalize key.expr = e at hkeyValue hplain ⊢
  split
  · rw [hplain]
  · rw [hkeyValue]

/-- Select items have the same values, in whichever way their expressions are evaluated. -/
theorem items_agree {α : Type} {value value' : Expr → α}
    (hvalue : ∀ e : Expr, AgreeOn e.statements run run' → value e = value' e)
    (h : AgreeOn (itemsStatements q.items) run run') :
    ∀ item ∈ q.items, value item.expr = value' item.expr :=
  fun item hitem => hvalue item.expr (h.mono fun _ hs => mem_flatMap.2 ⟨item, hitem, hs⟩)

theorem projectRow_agrees (hitems : AgreeOn (itemsStatements q.items) run run')
    (hkeys : AgreeOn (keysStatements q.orderBy) run run') :
    q.projectRow run = q.projectRow run' := by
  funext row
  have hprojection : q.projection (fun e => e.evaluate run row) =
      q.projection (fun e => e.evaluate run' row) :=
    projection_congr (items_agree (fun e he => congrFun (evaluate_agrees e he) row) hitems)
  have hsort : q.sortKeys run (fun e r => e.evaluate run r) =
      q.sortKeys run' (fun e r => e.evaluate run' r) := by
    refine sortKeys_agrees (fun key hkey => ?_) hkeys
    exact evaluate_agrees _ (hkeys.mono (statements_subset_of_key hkey))
  unfold Query.projectRow
  rw [hprojection, hsort]

theorem isWanted_agrees (h : AgreeOn (optionStatements q.having) run run') (group : List Record) :
    q.isWanted run group = q.isWanted run' group := by
  funext source projected
  unfold Query.isWanted
  cases hhaving : q.having with
  | none => rfl
  | some condition =>
    rw [hhaving, optionStatements] at h
    dsimp only
    rw [evaluateGrouped_agrees group h]

theorem projectGroup_agrees (hitems : AgreeOn (itemsStatements q.items) run run')
    (hhaving : AgreeOn (optionStatements q.having) run run')
    (hkeys : AgreeOn (keysStatements q.orderBy) run run') :
    q.projectGroup run = q.projectGroup run' := by
  funext group
  have hprojection : ∀ source : Record, q.projection (fun e => e.evaluateGrouped run group source) =
      q.projection (fun e => e.evaluateGrouped run' group source) := fun source =>
    projection_congr
      (items_agree (fun e he => congrFun (evaluateGrouped_agrees group he) source) hitems)
  have hsort : q.sortKeys run (fun e r => e.evaluateGrouped run group r) =
      q.sortKeys run' (fun e r => e.evaluateGrouped run' group r) := by
    refine sortKeys_agrees (fun key hkey => ?_) hkeys
    exact evaluateGrouped_agrees group (hkeys.mono (statements_subset_of_key hkey))
  unfold Query.projectGroup
  simp only [hprojection, hsort, isWanted_agrees hhaving group]

/-- What runners that agree on the statements within a query agree on, clause by clause. -/
theorem agreeOn_query : AgreeOn q.statements run run' ↔ AgreeOn (itemsStatements q.items) run run' ∧
    AgreeOn (joinsStatements q.joins) run run' ∧ AgreeOn (optionStatements q.condition) run run' ∧
    AgreeOn (exprsStatements q.groupBy) run run' ∧ AgreeOn (optionStatements q.having) run run' ∧
    AgreeOn (keysStatements q.orderBy) run run' := by
  simp only [Query.statements, AgreeOn.append]

theorem project_agrees (h : AgreeOn q.statements run run') : q.project run = q.project run' := by
  obtain ⟨hitems, -, -, hgroupBy, hhaving, hkeys⟩ := agreeOn_query.1 h
  have hrow := projectRow_agrees hitems hkeys
  have hgroup := projectGroup_agrees hitems hhaving hkeys
  funext rows
  unfold Query.project
  cases hq : q.groupBy with
  | nil => rw [hrow, hgroup]
  | cons e rest =>
    rw [hq, exprsStatements, AgreeOn.append] at hgroupBy
    unfold Query.groups
    dsimp only
    rw [evaluate_agrees e hgroupBy.1, hgroup]

/-- **Queries have the same results** with runners that agree on the statements within. -/
theorem select_agrees (h : AgreeOn q.statements run run') (indexed : Bool) :
    q.select run indexed = q.select run' indexed := by
  obtain ⟨-, -, hcondition, -⟩ := agreeOn_query.1 h
  funext rows
  unfold Query.select
  rw [filter_agrees hcondition indexed, project_agrees h]

theorem joinRows_agrees {condition : Option Expr}
    (h : AgreeOn (optionStatements condition) run run') (kind : JoinKind) :
    joinRows run kind condition = joinRows run' kind condition := by
  have hmatches : matchesOn run condition = matchesOn run' condition := by
    funext row
    unfold matchesOn
    cases condition with
    | none => rfl
    | some e =>
      rw [optionStatements] at h
      dsimp only
      rw [evaluate_agrees e h]
  have htable : matchTable run condition = matchTable run' condition := by
    funext pair outer inner
    unfold matchTable
    rw [hmatches]
  funext left right
  unfold joinRows
  rw [htable]

/-! ### Statements -/

variable (executor : Executor)

theorem joinAll_agrees : ∀ joins : List Join, AgreeOn (joinsStatements joins) run run' →
    executor.joinAll run joins = executor.joinAll run' joins
  | [], _ => rfl
  | ⟨kind, table, condition⟩ :: rest, h => by
    rw [joinsStatements, flatMap_cons, AgreeOn.append] at h
    funext rows
    unfold Executor.joinAll
    rw [joinRows_agrees h.1 kind, joinAll_agrees rest h.2]

theorem selectFrom_agrees (h : AgreeOn q.statements run run') :
    executor.selectFrom run q = executor.selectFrom run' q := by
  obtain ⟨-, hjoins, -⟩ := agreeOn_query.1 h
  funext base
  unfold Executor.selectFrom Executor.prepare
  rw [select_agrees h, joinAll_agrees executor q.joins hjoins]

theorem executor_select_agrees (h : AgreeOn q.statements run run') :
    executor.select run q = executor.select run' q := by
  unfold Executor.select
  rw [selectFrom_agrees executor h]

theorem selectBoth_agrees (h : AgreeOn q.statements run run') {right : Query}
    (hright : AgreeOn right.statements run run') :
    executor.selectBoth run q right = executor.selectBoth run' q right := by
  unfold Executor.selectBoth
  rw [selectFrom_agrees executor h, selectFrom_agrees executor hright,
    executor_select_agrees executor h, executor_select_agrees executor hright]

theorem defineTables_agrees : ∀ tables : List TableExpr,
    AgreeOn (tables.map TableExpr.body) run run' →
    Executor.defineTables run tables = Executor.defineTables run' tables
  | [], _ => rfl
  | ⟨name, body⟩ :: rest, h => by
    unfold Executor.defineTables
    rw [h body mem_cons_self, defineTables_agrees rest (h.mono (subset_cons_self _ _))]

/-- **A statement is executed alike** with runners that agree on the statements within. -/
theorem executeWith_agrees {s : Statement} (h : AgreeOn s.within run run') :
    executor.executeWith run s = executor.executeWith run' s := by
  obtain ⟨tables, primary, compound⟩ := s
  rw [Statement.within, AgreeOn.append, AgreeOn.append] at h
  obtain ⟨htables, hprimary, hcompound⟩ := h
  unfold Executor.executeWith
  rw [defineTables_agrees tables htables, executor_select_agrees executor hprimary]
  cases compound with
  | none => rfl
  | some c =>
    obtain ⟨op, right⟩ := c
    rw [compoundStatements] at hcompound
    dsimp only
    rw [selectBoth_agrees executor hprimary hcompound]

end Queries

end RowQuery
