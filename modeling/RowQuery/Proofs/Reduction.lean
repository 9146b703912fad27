/-
# Aggregates in place

A row that stands for a group has values in which aggregates are called: each call outside
of windows and subqueries means the value of the aggregate over the group, and all else
means what it always does. They are found in two steps, first the values of all calls, then
the value of the expression that has them as literals. The first step evaluates calls that
the second may not come to, so it may fail where nothing is asked for that is not there; if
it does not, the second step ends as if each call were evaluated when it is come to.

Key definitions: `Expr.evaluateOver`, `Exec.Alike`.
Key theorems: `Expr.reduce_containsAggregate`, `Expr.reduce_of_not_containsAggregate`,
`Expr.reduce_reduces`, `aggregates_in_place`.
-/
import RowQuery.Proofs.Coupling.Again
import RowQuery.Proofs.Within

namespace RowQuery

open List

/-! ### What aggregates mean -/

namespace Expr

section Meaning

variable (run : Runner) (group : List Record)

mutual

/-- The value of an expression on a row that stands for a group: a call of an aggregate has the
value over the group, everything else what it is made of. -/
def evaluateOver : Expr → Record → Exec Value
  | .call name args, row =>
    match Aggregate.ofName? name with
    | some f => aggregate run args f group
    | none => do return Function.call name (← evaluateAllOver args row)
  | .binary left .and right, row => do
    if (← left.evaluateOver row).isTrue then return .boolean (← right.evaluateOver row).isTrue
    else return .boolean false
  | .binary left op right, row => do
    return op.apply (← left.evaluateOver row) (← right.evaluateOver row)
  | .isNull operand negated, row => do
    return .boolean ((← operand.evaluateOver row).isNull != negated)
  | .inList left candidates negated, row => do
    let value ← left.evaluateOver row
    return .boolean ((← isAmongOver value candidates row) != negated)
  | .like left pattern negated, row => do
    let value ← left.evaluateOver row
    return .boolean (value.like (← pattern.evaluateOver row) != negated)
  | .case branches otherwise, row => do
    match ← firstResultOver branches row with
    | some value => return value
    | none => evaluateOptionOver otherwise row
  | .identifier name, row => (Expr.identifier name).evaluate run row
  | .literal value, _ => pure value
  | .window name args partitionBy orderBy, row =>
    (Expr.window name args partitionBy orderBy).evaluate run row
  | .star, _ => pure .null
  | .subquery s, row => (Expr.subquery s).evaluate run row

def isAmongOver (value : Value) : List Expr → Record → Exec Bool
  | [], _ => pure false
  | .subquery s :: rest, row => do
    if (← subqueryRows run s row).any fun r => value.same (firstValue r) then return true
    else isAmongOver value rest row
  | e :: rest, row => do
    if value.same (← e.evaluateOver row) then return true else isAmongOver value rest row

def evaluateAllOver : List Expr → Record → Exec (List Value)
  | [], _ => pure []
  | e :: rest, row => do return (← e.evaluateOver row) :: (← evaluateAllOver rest row)

def firstResultOver : List Branch → Record → Exec (Option Value)
  | [], _ => pure none
  | ⟨condition, result⟩ :: rest, row => do
    if (← condition.evaluateOver row).isTrue then return some (← result.evaluateOver row)
    else firstResultOver rest row

def evaluateOptionOver : Option Expr → Record → Exec Value
  | none, _ => pure .null
  | some e, row => e.evaluateOver row

end

end Meaning

/-! ### What is left of aggregates -/

section Calls

open Exec (Gives)

variable (run : Runner) (group : List Record)

mutual

/-- **An expression has no call of an aggregate left** once their values are in place. -/
theorem reduce_containsAggregate : ∀ e : Expr,
    Gives (·.containsAggregate = false) (e.reduce run group)
  | .call name args => by
    simp only [reduce]
    split
    · exact Gives.any.bind fun _ _ => .pure rfl
    · rename_i hname
      refine (reduceAll_anyContains args).bind fun args' hargs => .pure ?_
      simp only [containsAggregate, hname, hargs, Option.isSome_none, Bool.or_self]
  | .binary left op right => by
    simp only [reduce]
    refine (reduce_containsAggregate left).bind fun left' hleft => ?_
    refine (reduce_containsAggregate right).bind fun right' hright => .pure ?_
    simp only [containsAggregate, hleft, hright, Bool.or_self]
  | .isNull operand negated => by
    simp only [reduce]
    exact (reduce_containsAggregate operand).bind fun operand' hoperand => .pure hoperand
  | .inList left candidates negated => by
    simp only [reduce]
    refine (reduce_containsAggregate left).bind fun left' hleft => ?_
    refine (reduceAll_anyContains candidates).bind fun candidates' hcandidates => .pure ?_
    simp only [containsAggregate, hleft, hcandidates, Bool.or_self]
  | .like left pattern negated => by
    simp only [reduce]
    refine (reduce_containsAggregate left).bind fun left' hleft => ?_
    refine (reduce_containsAggregate pattern).bind fun pattern' hpattern => .pure ?_
    simp only [containsAggregate, hleft, hpattern, Bool.or_self]
  | .case branches otherwise => by
    simp only [reduce]
    refine (reduceBranches_branchesContain branches).bind fun branches' hbranches => ?_
    refine (reduceOption_optionContains otherwise).bind fun otherwise' hotherwise => .pure ?_
    simp only [containsAggregate, hbranches, hotherwise, Bool.or_self]
  | .identifier _ => by simp only [reduce]; exact .pure rfl
  | .literal _ => by simp only [reduce]; exact .pure rfl
  | .window .. => by simp only [reduce]; exact .pure rfl
  | .star => by simp only [reduce]; exact .pure rfl
  | .subquery _ => by simp only [reduce]; exact .pure rfl

theorem reduceAll_anyContains : ∀ es : List Expr,
    Gives (anyContains · = false) (reduceAll run group es)
  | [] => by simp only [reduceAll]; exact .pure rfl
  | e :: rest => by
    simp only [reduceAll]
    refine (reduce_containsAggregate e).bind fun e' he => ?_
    refine (reduceAll_anyContains rest).bind fun rest' hrest => .pure ?_
    simp only [anyContains, he, hrest, Bool.or_self]

theorem reduceBranches_branchesContain : ∀ branches : List Branch,
    Gives (branchesContain · = false) (reduceBranches run group branches)
  | [] => by simp only [reduceBranches]; exact .pure rfl
  | ⟨condition, result⟩ :: rest => by
    simp only [reduceBranches]
    refine (reduce_containsAggregate condition).bind fun condition' hcondition => ?_
    refine (reduce_containsAggregate result).bind fun result' hresult => ?_
    refine (reduceBranches_branchesContain rest).bind fun rest' hrest => .pure ?_
    simp only [branchesContain, hcondition, hresult, hrest, Bool.or_self]

theorem reduceOption_optionContains : ∀ o : Option Expr,
    Gives (optionContains · = false) (reduceOption run group o)
  | none => by simp only [reduceOption]; exact .pure rfl
  | some e => by
    simp only [reduceOption]
    exact (reduce_containsAggregate e).bind fun e' he => .pure he

end

mutual

/-- **An expression without calls of aggregates is left as it is**, and nothing is evaluated. -/
theorem reduce_of_not_containsAggregate : ∀ e : Expr, e.containsAggregate = false →
    e.reduce run group = pure e
  | .call name args, h => by
    simp only [containsAggregate, Bool.or_eq_false_iff, Option.isSome_eq_false_iff,
      Option.isNone_iff_eq_none] at h
    simp only [reduce, h.1, reduceAll_of_not_anyContains args h.2, pure_bind]
  | .binary left op right, h => by
    simp only [containsAggregate, Bool.or_eq_false_iff] at h
    simp only [reduce, reduce_of_not_containsAggregate left h.1,
      reduce_of_not_containsAggregate right h.2, pure_bind]
  | .isNull operand negated, h => by
    simp only [containsAggregate] at h
    simp only [reduce, reduce_of_not_containsAggregate operand h, pure_bind]
  | .inList left candidates negated, h => by
    simp only [containsAggregate, Bool.or_eq_false_iff] at h
    simp only [reduce, reduce_of_not_containsAggregate left h.1,
      reduceAll_of_not_anyContains candidates h.2, pure_bind]
  | .like left pattern negated, h => by
    simp only [containsAggregate, Bool.or_eq_false_iff] at h
    simp only [reduce, reduce_of_not_containsAggregate left h.1,
      reduce_of_not_containsAggregate pattern h.2, pure_bind]
  | .case branches otherwise, h => by
    simp only [containsAggregate, Bool.or_eq_false_iff] at h
    simp only [reduce, reduceBranches_of_not_branchesContain branches h.1,
      reduceOption_of_not_optionContains otherwise h.2, pure_bind]
  | .identifier _, _ => by simp only [reduce]
  | .literal _, _ => by simp only [reduce]
  | .window .., _ => by simp only [reduce]
  | .star, _ => by simp only [reduce]
  | .subquery _, _ => by simp only [reduce]

theorem reduceAll_of_not_anyContains : ∀ es : List Expr, anyContains es = false →
    reduceAll run group es = pure es
  | [], _ => by simp only [reduceAll]
  | e :: rest, h => by
    simp only [anyContains, Bool.or_eq_false_iff] at h
    simp only [reduceAll, reduce_of_not_containsAggregate e h.1,
      reduceAll_of_not_anyContains rest h.2, pure_bind]

theorem reduceBranches_of_not_branchesContain : ∀ branches : List Branch,
    branchesContain branches = false → reduceBranches run group branches = pure branches
  | [], _ => by simp only [reduceBranches]
  | ⟨condition, result⟩ :: rest, h => by
    simp only [branchesContain, Bool.or_eq_false_iff] at h
    simp only [reduceBranches, reduce_of_not_containsAggregate condition h.1.1,
      reduce_of_not_containsAggregate result h.1.2,
      reduceBranches_of_not_branchesContain rest h.2, pure_bind]

theorem reduceOption_of_not_optionContains : ∀ o : Option Expr, optionContains o = false →
    reduceOption run group o = pure o
  | none, _ => by simp only [reduceOption]
  | some e, h => by
    simp only [optionContains] at h
    simp only [reduceOption, reduce_of_not_containsAggregate e h, pure_bind]

end

end Calls

end Expr

/-! ### Actions that end alike -/

/-- Two actions that end alike from a frame, whatever was loaded before: with one result, or with
one failure. -/
def Exec.Alike {α : Type} (source : Source) (f : Frame) (m m' : Exec α) : Prop :=
  (Coupling.again source).Coupled f f (· = ·) m m'

namespace Exec

variable {α β : Type} {source : Source} {f : Frame} {m m' : Exec α} {a : α}

theorem Steady.alike (h : Steady source f m) : Alike source f m m := h

theorem Alike.bind {k k' : α → Exec β} (h : Alike source f m m')
    (hk : ∀ a, Alike source f (k a) (k' a)) : Alike source f (m >>= k) (m' >>= k') :=
  Coupling.Coupled.bind h fun a _ hab => hab ▸ hk a

theorem Alike.symm (h : Alike source f m m') : Alike source f m' m := by
  intro s t hs ht hl
  have hends := h t s ht hs hl.symm
  generalize m.run.run t = x at hends ⊢
  generalize m'.run.run s = y at hends ⊢
  cases hends with
  | ok hab hf hl => exact .ok hab.symm hf.symm hl.symm
  | error hf he => exact .error hf.symm he.again_symm

/-- A sequence ends as another with the same first part, if it does after every result that this
part has. -/
theorem Steady.bind_alike {k k' : α → Exec β} (hm : Steady source f m)
    (hk : ∀ a, Yields source f m a → Alike source f (k a) (k' a)) :
    Alike source f (m >>= k) (m >>= k') := by
  have hyields :
      (Coupling.again source).Coupled f f (fun a b => a = b ∧ Yields source f m a) m m := by
    intro s t hs ht hl
    have hends := hm s t hs ht hl
    have hok : ∀ a, (m.run.run s).1 = .ok a → Yields source f m a := fun _ => hm.yields hs hl.1
    generalize m.run.run s = x at hends hok ⊢
    generalize m.run.run t = y at hends ⊢
    cases hends with
    | ok hab hf hl => exact .ok ⟨hab, hok _ rfl⟩ hf hl
    | error hf he => exact .error hf he
  refine Coupling.Coupled.bind hyields fun a b h => ?_
  obtain ⟨rfl, ha⟩ := h
  exact hk a ha

theorem Alike.mapM {k k' : α → Exec β} {xs : List α}
    (hk : ∀ x ∈ xs, Alike source f (k x) (k' x)) : Alike source f (xs.mapM k) (xs.mapM k') :=
  (Coupling.Coupled.mapM_same hk).mono fun _ _ h => forall₂_eq h

/-- An action that has a result ends as one that gives this result right away. -/
theorem Alike.of_yields (h : Yields source f m a) : Alike source f (pure a) m := by
  intro s t hs ht hl
  obtain ⟨t', hrun, hframe, hledger⟩ := h t ht hl.2
  rw [hrun]
  exact .ok rfl ⟨hs, hframe⟩ ⟨hl.1, hledger⟩

/-- A sequence ends as what comes after its first part, given the result of that part. -/
theorem Alike.of_yields_bind {k : α → Exec β} {m' : Exec β} (hm : Yields source f m a)
    (hk : Alike source f (k a) m') : Alike source f (m >>= k) m' := by
  intro s t hs ht hl
  obtain ⟨s', hrun, hframe, hledger⟩ := hm s hs hl.1
  rw [run_bind, hrun]
  exact hk s' t hframe ht ⟨hledger, hl.2⟩

/-- An action that looks at the session ends as it does for what the frame tells of it. -/
theorem Alike.of_get {k : Session → Exec α}
    (h : ∀ s : Session, s.frame = f → Alike source f (k s) m') :
    Alike source f (get >>= k) m' := by
  intro s t hs ht hl
  rw [run_get_bind]
  exact h s hs s t hs ht hl

theorem Alike.yields (h : Alike source f m m') (hm : Yields source f m a) :
    Yields source f m' a := by
  intro s hs hl
  obtain ⟨s', hrun, -⟩ := hm s hs hl
  have hends := h s s hs hs ⟨hl, hl⟩
  rw [hrun] at hends
  generalize m'.run.run s = y at hends
  cases hends with
  | ok hvalue hframes hledgers => exact ⟨_, by rw [hvalue], hframes.2, hledgers.2⟩

theorem Alike.yields_iff (h : Alike source f m m') :
    Yields source f m a ↔ Yields source f m' a :=
  ⟨h.yields, h.symm.yields⟩

/-- What is made of the result of an action is made of what that action yields. -/
theorem Steady.of_bind_pure {g : α → β} {b : β} (hm : Steady source f m)
    (h : Yields source f (m >>= fun a => pure (g a)) b) :
    ∃ a, Yields source f m a ∧ b = g a := by
  obtain ⟨a, ha, hb⟩ := Yields.of_bind hm (fun _ => .pure rfl) h
  exact ⟨a, ha, hb.unique (.pure _)⟩

end Exec

/-! ### Values in place mean the same -/

namespace Expr

section Source

open Exec (Alike Steady Yields)

variable {source : Source} {run : Runner} {f : Frame} {group : List Record}

/-- An expression that has the values of aggregates over a group in place means on every row what
the expression means that they were put into. -/
structure Reduces (source : Source) (run : Runner) (f : Frame) (group : List Record)
    (e e' : Expr) : Prop where
  alike : ∀ row, Alike source f (e'.evaluate run row) (e.evaluateOver run group row)
  subquery : ∀ s, e' = .subquery s ↔ e = .subquery s

variable (hrun : (Coupling.again source).Runs run run)

include hrun

theorem subqueryRows_steady (s : Statement) (row : Record) :
    Steady source f (subqueryRows run s row) :=
  (Coupling.subqueryRows_coupled hrun s (Coupling.again_frames f true) (Coupling.again_admits _)
    (Coupling.again_row row)).mono fun _ _ h => Coupling.Rows.eq (fun _ _ h => h) h

theorem reduce_steady (e : Expr) : Steady source f (e.reduce run group) :=
  (Coupling.reduce_coupled Coupling.again_lawful hrun (Coupling.again_rows group) e
    (Coupling.again_frames f true) (Coupling.again_admits _)).mono fun _ _ h => h.1

theorem reduceAll_steady (es : List Expr) : Steady source f (reduceAll run group es) :=
  (Coupling.reduceAll_coupled Coupling.again_lawful hrun (Coupling.again_rows group) es
    (Coupling.again_frames f true) (Coupling.again_admits _)).mono fun _ _ h => h.1

theorem reduceBranches_steady (branches : List Branch) :
    Steady source f (reduceBranches run group branches) :=
  (Coupling.reduceBranches_coupled Coupling.again_lawful hrun (Coupling.again_rows group) branches
    (Coupling.again_frames f true) (Coupling.again_admits _)).mono fun _ _ h => h.1

theorem reduceOption_steady (o : Option Expr) : Steady source f (reduceOption run group o) :=
  (Coupling.reduceOption_coupled Coupling.again_lawful hrun (Coupling.again_rows group) o
    (Coupling.again_frames f true) (Coupling.again_admits _)).mono fun _ _ h => h.1

theorem aggregate_steady (args : List Expr) (a : Aggregate) (rows : List Record) :
    Steady source f (aggregate run args a rows) :=
  (Coupling.aggregate_coupled Coupling.again_lawful hrun args a (Coupling.again_frames f true)
    (Coupling.again_admits _) (Coupling.again_rows rows)).mono fun _ _ h => h.1

/-! #### Lists of expressions -/

omit hrun in
theorem evaluateAll_alike {es es' : List Expr} (h : Forall₂ (Reduces source run f group) es es')
    (row : Record) :
    Alike source f (evaluateAll run es' row) (evaluateAllOver run group es row) := by
  induction h with
  | nil =>
    simp only [evaluateAll, evaluateAllOver]
    exact .pure rfl
  | cons h _ ih =>
    simp only [evaluateAll, evaluateAllOver]
    exact (h.alike row).bind fun _ => ih.bind fun _ => .pure rfl

/-- A candidate is a subquery before its aggregates are in place just if it is one afterwards. -/
theorem isAmong_alike {es es' : List Expr} (h : Forall₂ (Reduces source run f group) es es')
    (value : Value) (row : Record) :
    Alike source f (isAmong run value es' row) (isAmongOver run group value es row) := by
  induction h with
  | nil =>
    simp only [isAmong, isAmongOver]
    exact .pure rfl
  | @cons e e' es es' h _ ih =>
    by_cases hs : ∃ s, e = .subquery s
    · obtain ⟨s, rfl⟩ := hs
      obtain rfl := (h.subquery s).2 rfl
      simp only [isAmong, isAmongOver]
      refine (subqueryRows_steady hrun s row).alike.bind fun rows => ?_
      exact Coupling.Coupled.ite rfl (.pure rfl) ih
    · have hs : ∀ s, e = .subquery s → False := fun s h => hs ⟨s, h⟩
      have hs' : ∀ s, e' = .subquery s → False := fun s he => hs s ((h.subquery s).1 he)
      rw [isAmong, isAmongOver]
      · exact (h.alike row).bind fun v => Coupling.Coupled.ite rfl (.pure rfl) ih
      · exact hs
      · exact hs'

omit hrun in
theorem firstResult_alike {branches branches' : List Branch}
    (h : Forall₂ (fun b b' => Reduces source run f group b.condition b'.condition ∧
      Reduces source run f group b.result b'.result) branches branches') (row : Record) :
    Alike source f (firstResult run branches' row)
      (firstResultOver run group branches row) := by
  induction h with
  | nil =>
    simp only [firstResult, firstResultOver]
    exact .pure rfl
  | @cons b b' _ _ h _ ih =>
    obtain ⟨condition, result⟩ := b
    obtain ⟨condition', result'⟩ := b'
    obtain ⟨hcondition, hresult⟩ := h
    simp only [firstResult, firstResultOver]
    refine (hcondition.alike row).bind fun v => ?_
    exact Coupling.Coupled.ite rfl ((hresult.alike row).bind fun _ => .pure rfl) ih

omit hrun in
theorem evaluateOption_alike {o o' : Option Expr}
    (h : Option.Rel (Reduces source run f group) o o') (row : Record) :
    Alike source f (evaluateOption run o' row) (evaluateOptionOver run group o row) := by
  cases h with
  | none =>
    simp only [evaluateOption, evaluateOptionOver]
    exact .pure rfl
  | some h =>
    simp only [evaluateOption, evaluateOptionOver]
    exact h.alike row

/-! #### Expressions -/

mutual

/-- **Values in place of aggregates mean what the aggregates mean.** -/
theorem reduce_reduces : ∀ (e : Expr) {e' : Expr}, Yields source f (e.reduce run group) e' →
    Reduces source run f group e e'
  | .call name args, e', h => by
    simp only [reduce] at h
    split at h
    · rename_i a hname
      obtain ⟨v, hv, rfl⟩ := (aggregate_steady hrun args a group).of_bind_pure h
      refine ⟨fun row => ?_, fun s => by simp⟩
      simp only [evaluate, evaluateOver, hname]
      exact .of_yields hv
    · rename_i hname
      obtain ⟨args', hargs, rfl⟩ := (reduceAll_steady hrun args).of_bind_pure h
      have ih := reduceAll_reduces args hargs
      refine ⟨fun row => ?_, fun s => by simp⟩
      simp only [evaluate, evaluateOver, hname]
      exact (evaluateAll_alike ih row).bind fun _ => .pure rfl
  | .binary left op right, e', h => by
    simp only [reduce] at h
    obtain ⟨left', hleft, h⟩ := Yields.of_bind (reduce_steady hrun left)
      (fun _ => (reduce_steady hrun right).bind fun _ => .pure rfl) h
    obtain ⟨right', hright, rfl⟩ := (reduce_steady hrun right).of_bind_pure h
    have hl := reduce_reduces left hleft
    have hr := reduce_reduces right hright
    refine ⟨fun row => ?_, fun s => by simp⟩
    by_cases hop : op = .and
    · subst hop
      simp only [evaluate, evaluateOver]
      refine (hl.alike row).bind fun v => Coupling.Coupled.ite rfl ?_ (.pure rfl)
      exact (hr.alike row).bind fun _ => .pure rfl
    · rw [evaluate, evaluateOver]
      · exact (hl.alike row).bind fun _ => (hr.alike row).bind fun _ => .pure rfl
      · exact hop
      · exact hop
  | .isNull operand negated, e', h => by
    simp only [reduce] at h
    obtain ⟨operand', hoperand, rfl⟩ := (reduce_steady hrun operand).of_bind_pure h
    have ih := reduce_reduces operand hoperand
    refine ⟨fun row => ?_, fun s => by simp⟩
    simp only [evaluate, evaluateOver]
    exact (ih.alike row).bind fun _ => .pure rfl
  | .inList left candidates negated, e', h => by
    simp only [reduce] at h
    obtain ⟨left', hleft, h⟩ := Yields.of_bind (reduce_steady hrun left)
      (fun _ => (reduceAll_steady hrun candidates).bind fun _ => .pure rfl) h
    obtain ⟨candidates', hcandidates, rfl⟩ :=
      (reduceAll_steady hrun candidates).of_bind_pure h
    have hl := reduce_reduces left hleft
    have hc := reduceAll_reduces candidates hcandidates
    refine ⟨fun row => ?_, fun s => by simp⟩
    simp only [evaluate, evaluateOver]
    refine (hl.alike row).bind fun v => ?_
    exact (isAmong_alike hrun hc v row).bind fun _ => .pure rfl
  | .like left pattern negated, e', h => by
    simp only [reduce] at h
    obtain ⟨left', hleft, h⟩ := Yields.of_bind (reduce_steady hrun left)
      (fun _ => (reduce_steady hrun pattern).bind fun _ => .pure rfl) h
    obtain ⟨pattern', hpattern, rfl⟩ := (reduce_steady hrun pattern).of_bind_pure h
    have hl := reduce_reduces left hleft
    have hp := reduce_reduces pattern hpattern
    refine ⟨fun row => ?_, fun s => by simp⟩
    simp only [evaluate, evaluateOver]
    exact (hl.alike row).bind fun _ => (hp.alike row).bind fun _ => .pure rfl
  | .case branches otherwise, e', h => by
    simp only [reduce] at h
    obtain ⟨branches', hbranches, h⟩ := Yields.of_bind (reduceBranches_steady hrun branches)
      (fun _ => (reduceOption_steady hrun otherwise).bind fun _ => .pure rfl) h
    obtain ⟨otherwise', hotherwise, rfl⟩ :=
      (reduceOption_steady hrun otherwise).of_bind_pure h
    have hb := reduceBranches_reduces branches hbranches
    have ho := reduceOption_reduces otherwise hotherwise
    refine ⟨fun row => ?_, fun s => by simp⟩
    simp only [evaluate, evaluateOver]
    refine (firstResult_alike hb row).bind fun o => ?_
    cases o with
    | none => exact evaluateOption_alike ho row
    | some v => exact .pure rfl
  | .identifier name, e', h => by
    simp only [reduce] at h
    obtain rfl := h.unique (.pure _)
    refine ⟨fun row => ?_, fun s => Iff.rfl⟩
    simp only [evaluateOver]
    exact (Steady.evaluate hrun _ row).alike
  | .literal value, e', h => by
    simp only [reduce] at h
    obtain rfl := h.unique (.pure _)
    refine ⟨fun row => ?_, fun s => Iff.rfl⟩
    simp only [evaluate, evaluateOver]
    exact .pure rfl
  | .window name args partitionBy orderBy, e', h => by
    simp only [reduce] at h
    obtain rfl := h.unique (.pure _)
    refine ⟨fun row => ?_, fun s => Iff.rfl⟩
    simp only [evaluateOver]
    exact (Steady.evaluate hrun _ row).alike
  | .star, e', h => by
    simp only [reduce] at h
    obtain rfl := h.unique (.pure _)
    refine ⟨fun row => ?_, fun s => Iff.rfl⟩
    simp only [evaluate, evaluateOver]
    exact .pure rfl
  | .subquery s, e', h => by
    simp only [reduce] at h
    obtain rfl := h.unique (.pure _)
    refine ⟨fun row => ?_, fun s => Iff.rfl⟩
    simp only [evaluateOver]
    exact (Steady.evaluate hrun _ row).alike

theorem reduceAll_reduces : ∀ (es : List Expr) {es' : List Expr},
    Yields source f (reduceAll run group es) es' → Forall₂ (Reduces source run f group) es es'
  | [], es', h => by
    simp only [reduceAll] at h
    obtain rfl := h.unique (.pure _)
    exact .nil
  | e :: rest, es', h => by
    simp only [reduceAll] at h
    obtain ⟨e', he, h⟩ := Yields.of_bind (reduce_steady hrun e)
      (fun _ => (reduceAll_steady hrun rest).bind fun _ => .pure rfl) h
    obtain ⟨rest', hrest, rfl⟩ := (reduceAll_steady hrun rest).of_bind_pure h
    exact .cons (reduce_reduces e he) (reduceAll_reduces rest hrest)

theorem reduceBranches_reduces : ∀ (branches : List Branch) {branches' : List Branch},
    Yields source f (reduceBranches run group branches) branches' →
    Forall₂ (fun b b' => Reduces source run f group b.condition b'.condition ∧
      Reduces source run f group b.result b'.result) branches branches'
  | [], branches', h => by
    simp only [reduceBranches] at h
    obtain rfl := h.unique (.pure _)
    exact .nil
  | ⟨condition, result⟩ :: rest, branches', h => by
    simp only [reduceBranches] at h
    have hrest : Steady source f (reduceBranches run group rest) := reduceBranches_steady hrun rest
    obtain ⟨condition', hcondition, h⟩ := Yields.of_bind (reduce_steady hrun condition)
      (fun _ => (reduce_steady hrun result).bind fun _ => hrest.bind fun _ => .pure rfl) h
    obtain ⟨result', hresult, h⟩ := Yields.of_bind (reduce_steady hrun result)
      (fun _ => hrest.bind fun _ => .pure rfl) h
    obtain ⟨rest', hrest, rfl⟩ := hrest.of_bind_pure h
    exact .cons ⟨reduce_reduces condition hcondition, reduce_reduces result hresult⟩
      (reduceBranches_reduces rest hrest)

theorem reduceOption_reduces : ∀ (o : Option Expr) {o' : Option Expr},
    Yields source f (reduceOption run group o) o' → Option.Rel (Reduces source run f group) o o'
  | none, o', h => by
    simp only [reduceOption] at h
    obtain rfl := h.unique (.pure _)
    exact .none
  | some e, o', h => by
    simp only [reduceOption] at h
    obtain ⟨e', he, rfl⟩ := (reduce_steady hrun e).of_bind_pure h
    exact .some (reduce_reduces e he)

end

end Source

/-! ### Calls by themselves -/

section Call

variable (run : Runner) (group : List Record) {name : String} {args : List Expr} {a : Aggregate}

/-- A call of an aggregate has the value of the aggregate, on whatever row. -/
theorem evaluateGrouped_call (h : Aggregate.ofName? name = some a) (row : Record) :
    (Expr.call name args).evaluateGrouped run group row = aggregate run args a group := by
  simp only [evaluateGrouped, reduce, h, bind_assoc, pure_bind, evaluate, bind_pure]

/-- A call of an aggregate to sort by has the value of the aggregate. -/
theorem sortKey_call (h : Aggregate.ofName? name = some a) (source projected : Record)
    (direction : Direction) :
    Query.sortKey run (fun e r => e.evaluateGrouped run group r) source projected
      ⟨.call name args, direction⟩ = aggregate run args a group :=
  evaluateGrouped_call run group h _

/-- A call of an aggregate as a condition on groups is true if the aggregate is. -/
theorem isWanted_call (h : Aggregate.ofName? name = some a) {q : Query}
    (hq : q.having = some (.call name args)) (source projected : Record) :
    q.isWanted run group source projected = do
      return (← aggregate run args a group).isTrue := by
  unfold Query.isWanted
  rw [hq]
  dsimp only
  rw [evaluateGrouped_call run group h]

end Call

end Expr

/-- **Values in place of aggregates keep the meaning of an expression.** Whatever the loader answers,
an expression over a group has no call of an aggregate left once their values are in place, is left
as it is if it has none, and, if it is such a call, has the value of the aggregate, as an item that
is selected, a condition on the group and a key to sort by. On a source, if the values of all calls
are found, the expression that has them in place ends on every row as the expression does in which
each call means the value over the group. -/
theorem aggregates_in_place (executor : Executor) (depth : Nat) (e : Expr) (group : List Record) :
    let run := executor.executeTo depth
    Exec.Gives (·.containsAggregate = false) (e.reduce run group) ∧
    (e.containsAggregate = false → e.reduce run group = pure e) ∧
    (∀ name args a, e = .call name args → Aggregate.ofName? name = some a →
      (∀ row, e.evaluateOver run group row = Expr.aggregate run args a group) ∧
      (∀ row, e.evaluateGrouped run group row = Expr.aggregate run args a group) ∧
      (∀ (q : Query) (source projected : Record), q.having = some e →
        q.isWanted run group source projected = do
          return (← Expr.aggregate run args a group).isTrue) ∧
      ∀ (source projected : Record) (direction : Direction),
        Query.sortKey run (fun e r => e.evaluateGrouped run group r) source projected
          ⟨e, direction⟩ = Expr.aggregate run args a group) ∧
    ∀ (source : Source) (options : Options) (s s' : Session) (e' : Expr),
      executor = Engine.executor ⟨source, options⟩ → s.ledger.Faithful source →
      (e.reduce run group).run.run s = (.ok e', s') →
      ∀ row, Exec.Alike source s.frame (e'.evaluate run row) (e.evaluateOver run group row) := by
  intro run
  refine ⟨e.reduce_containsAggregate run group, e.reduce_of_not_containsAggregate run group, ?_, ?_⟩
  · rintro name args a rfl hname
    refine ⟨fun row => ?_, Expr.evaluateGrouped_call run group hname, fun q source projected hq => ?_,
      Expr.sortKey_call run group hname⟩
    · simp only [Expr.evaluateOver, hname]
    · exact Expr.isWanted_call run group hname hq source projected
  · rintro source options s s' e' rfl hs hreduce
    have hrun : (Coupling.again source).Runs run run := Coupling.again_runs source options depth
    have hyields : Exec.Yields source s.frame (e.reduce run group) e' :=
      (e.reduce_steady hrun).yields rfl hs (by rw [hreduce])
    exact (e.reduce_reduces hrun hyields).alike

/-- The mean of a group of two rows. -/
theorem aggregates_in_place_mean :
    let executor := Engine.executor ⟨.memory [], {}⟩
    let group : List Record := [⟨[("a", .integer 1)]⟩, ⟨[("a", .integer 3)]⟩]
    let e : Expr := .binary (.call "SUM" [.identifier "a"]) .divide (.call "COUNT" [.star])
    ∃ e', (e.reduce (executor.executeTo 0) group).run.run .start = (.ok e', .start) ∧
      e'.containsAggregate = false ∧
      ∀ row, Exec.Yields (.memory []) Session.start.frame
        (e.evaluateOver (executor.executeTo 0) group row) (.integer 2) := by
  intro executor group e
  obtain ⟨hgives, -, -, halike⟩ := aggregates_in_place executor 0 e group
  have hreduce : (e.reduce (executor.executeTo 0) group).run.run .start =
      (.ok (.binary (.literal (.integer 4)) .divide (.literal (.integer 2))), .start) := rfl
  refine ⟨_, hreduce, hgives _ _ _ hreduce, fun row => ?_⟩
  refine (halike _ _ _ _ _ rfl (Ledger.faithful_start _) hreduce row).yields_iff.1 ?_
  exact fun s hs hl => ⟨s, rfl, hs, hl⟩

end RowQuery
