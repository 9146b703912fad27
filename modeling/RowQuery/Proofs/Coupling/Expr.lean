/-
# Expressions on corresponding rows

Two evaluations of one expression, on corresponding rows in corresponding
frames, are coupled: piece by piece, as the expression is made. How a subquery
is executed is a parameter, and all that is asked of it is that statements are
executed alike.

An aggregate does more: it has *one* value on both sides, and so an expression
that aggregates are put into is one expression on both sides, with no features
but those that it had.

Key definitions: `Coupling.Runs`, `Coupling.Held`, `Coupling.Reduced`.
Key theorems: `evaluate_coupled`, `aggregate_coupled`, `reduce_coupled`,
`evaluateGrouped_coupled`.
-/
import RowQuery.Proofs.Coupling.Record

namespace RowQuery

open List

namespace Coupling

variable {R : Coupling} {f g : Frame} {sheltered : Bool}

/-- Statements are executed alike from corresponding frames. -/
def Runs (R : Coupling) (run run' : Runner) : Prop :=
  ∀ ⦃sheltered : Bool⦄ ⦃f g : Frame⦄ (s : Statement), R.Frames sheltered f g →
    R.AdmitsAll (s.features sheltered) → R.Coupled f g R.Rows (run s) (run' s)

/-- One value that may stand as a literal. -/
def Held (R : Coupling) (a b : Value) : Prop := a = b ∧ R.value a b

/-- One piece of a statement, of features that a statement may have. -/
def Reduced (R : Coupling) {α : Type} (features : α → List Feature) (a b : α) : Prop :=
  a = b ∧ R.AdmitsAll (features a)

/-! ### Frames -/

theorem Frames.withOuter (h : R.Frames sheltered f g) {r r' : Record} (hr : R.Row r r') :
    R.Frames sheltered { f with outer := r :: f.outer } { g with outer := r' :: g.outer } :=
  ⟨.cons hr h.outer, h.scopes, h.population⟩

/-- Windows are sheltered in a frame with rows of its own for them. -/
theorem Frames.withPopulation (h : R.Frames sheltered f g) {rows rows' : List Record}
    (hrows : R.Rows rows rows') (b : Bool) :
    R.Frames b { f with population := some rows } { g with population := some rows' } :=
  ⟨h.outer, h.scopes, fun _ => .some hrows⟩

theorem admitsAll_nil : R.AdmitsAll [] := forall_mem_nil _

theorem admitsAll_append {xs ys : List Feature} :
    R.AdmitsAll (xs ++ ys) ↔ R.AdmitsAll xs ∧ R.AdmitsAll ys :=
  forall_mem_append

theorem admitsAll_cons {x : Feature} {xs : List Feature} :
    R.AdmitsAll (x :: xs) ↔ R.Admits x ∧ R.AdmitsAll xs :=
  forall_mem_cons

/-- There are sort keys only if these may be. -/
theorem admits_sort {keys : List SortKey} (h : R.AdmitsAll (keysFeatures sheltered keys)) :
    keys.map SortKey.direction = [] ∨ R.sorts := by
  match keys with
  | [] => exact .inl rfl
  | ⟨_, _⟩ :: _ => exact .inr (h .sortKey mem_cons_self)

/-! ### Conditions that both sides decide alike -/

theorem Coupled.ite {α β : Type} {A : α → β → Prop} {c c' : Bool} (hc : c = c')
    {m n : Exec α} {m' n' : Exec β} (hm : R.Coupled f g A m m') (hn : R.Coupled f g A n n') :
    R.Coupled f g A (if c then m else n) (if c' then m' else n') := by
  subst hc
  split
  · exact hm
  · exact hn

/-- The items that are picked by what stands beside them. -/
theorem picked_rel {α β κ μ : Type} {A : α → β → Prop} {xs : List α} {ys : List β}
    (h : Forall₂ A xs ys) {ks : List κ} {ls : List μ} {p : κ → Bool} {q : μ → Bool}
    (hkl : Forall₂ (fun k l => p k = q l) ks ls) :
    Forall₂ A (((xs.zip ks).filter fun x => p x.2).map (·.1))
      (((ys.zip ls).filter fun y => q y.2).map (·.1)) :=
  rel_map (fun _ _ h => h.1) (filter_rel (fun _ _ h => h.2) (zip_rel h hkl))

/-! ### Expressions -/

theorem partitionKey_eq (laws : R.Lawful) {values values' : List Value}
    (h : Forall₂ R.value values values') : partitionKey values = partitionKey values' := by
  cases h with
  | nil => rfl
  | cons h hs => exact congrArg "|".intercalate (laws.texts (.cons h hs))

/-- The rows of a partition correspond, as they are picked by keys that are one on both sides. -/
theorem partition_rel (laws : R.Lawful) {rows rows' : List Record} (hrows : R.Rows rows rows')
    {key key' : List Value} (hkey : Forall₂ R.value key key') {keys keys' : List (List Value)}
    (hkeys : Forall₂ (Forall₂ R.value) keys keys') :
    R.Rows (((rows.zip keys).filter fun p => partitionKey p.2 == partitionKey key).map (·.1))
      (((rows'.zip keys').filter fun p => partitionKey p.2 == partitionKey key').map (·.1)) := by
  refine picked_rel (p := (partitionKey · == partitionKey key))
    (q := (partitionKey · == partitionKey key')) hrows (hkeys.imp fun k l hkl => ?_)
  rw [partitionKey_eq laws hkl, partitionKey_eq laws hkey]

/-- The place of a record among others is one on both sides, where records have an identity. -/
theorem rowNumber_value (laws : R.Lawful) (hid : R.identity) {r r' : Record} (hr : R.Row r r')
    {rows rows' : List Record} (hrows : R.Rows rows rows') :
    R.value (rowNumber r rows) (rowNumber r' rows') := by
  rw [rowNumber_eq laws hid hr hrows]
  refine laws.plain _ ?_
  unfold rowNumber
  split
  · rfl
  · rfl

/-- The place of a record among others that are sorted, given actions for their keys. -/
theorem rowNumber_coupled (laws : R.Lawful) (hid : R.identity) {r r' : Record} (hr : R.Row r r')
    {rows rows' : List Record} (hrows : R.Rows rows rows') {n : Nat}
    {keys keys' : Record → Exec (List Value)}
    (hkeys : ∀ r r', R.Row r r' → R.Coupled f g (R.KeysLike n) (keys r) (keys' r'))
    (size : Nat) {directions : List Direction} (hsorts : directions = [] ∨ R.sorts) :
    R.Coupled f g R.value
      (do return rowNumber r (← Exec.sorted size directions (rows.zip (← rows.mapM keys))))
      (do return rowNumber r' (← Exec.sorted size directions (rows'.zip (← rows'.mapM keys')))) := by
  refine (Coupled.mapM hrows hkeys).bind fun ks ls hkl => ?_
  refine (sorted_coupled laws size directions hsorts (zip_rel hrows hkl)).bind
    fun sorted sorted' hsorted => .pure ?_
  exact rowNumber_value laws hid hr hsorted

section Expressions

variable {run run' : Runner}

theorem subqueryRows_coupled (hrun : R.Runs run run') (s : Statement) (hf : R.Frames sheltered f g)
    (ha : R.AdmitsAll (s.features sheltered)) {r r' : Record} (hr : R.Row r r') :
    R.Coupled f g R.Rows (Expr.subqueryRows run s r) (Expr.subqueryRows run' s r') :=
  Coupled.withOuter (hrun s (hf.withOuter hr) ha)

mutual

/-- **Expressions are evaluated alike** on corresponding rows. -/
theorem evaluate_coupled (laws : R.Lawful) (hrun : R.Runs run run') :
    ∀ (e : Expr), R.Frames sheltered f g →
    R.AdmitsAll (e.features sheltered) → ∀ {r r' : Record}, R.Row r r' →
    R.Coupled f g R.value (e.evaluate run r) (e.evaluate run' r')
  | .identifier name, hf, _, r, r', hr => by
    simp only [Expr.evaluate]
    refine Coupled.reading fun s t hs ht _ => .pure ?_
    subst hs ht
    exact resolve laws hf.outer hr name
  | .literal value, _, ha, _, _, _ => by
    simp only [Expr.evaluate]
    exact .pure (ha _ (mem_singleton_self _))
  | .binary left op right, hf, ha, r, r', hr => by
    simp only [Expr.features, admitsAll_append] at ha
    have hl := evaluate_coupled laws hrun left hf ha.1 hr
    have hr := evaluate_coupled laws hrun right hf ha.2 hr
    by_cases hop : op = .and
    · subst hop
      simp only [Expr.evaluate]
      refine hl.bind fun a b hab => .ite (laws.alike hab).truth ?_ (.pure (laws.boolean rfl))
      exact hr.bind fun c d hcd => .pure (laws.boolean (laws.alike hcd).truth)
    · rw [Expr.evaluate, Expr.evaluate]
      · exact hl.bind fun a b hab => hr.bind fun c d hcd => .pure (laws.binary hab hcd op)
      · exact hop
      · exact hop
  | .isNull operand negated, hf, ha, r, r', hr => by
    simp only [Expr.evaluate]
    refine (evaluate_coupled laws hrun operand hf ha hr).bind fun a b hab => .pure (laws.boolean ?_)
    rw [(laws.alike hab).null]
  | .inList left candidates negated, hf, ha, r, r', hr => by
    simp only [Expr.features, admitsAll_append] at ha
    simp only [Expr.evaluate]
    refine (evaluate_coupled laws hrun left hf ha.1 hr).bind fun a b hab => ?_
    refine (isAmong_coupled laws hrun hab candidates hf ha.2 hr).bind fun c d hcd => ?_
    exact .pure (laws.boolean (by rw [hcd]))
  | .like left pattern negated, hf, ha, r, r', hr => by
    simp only [Expr.features, admitsAll_append] at ha
    simp only [Expr.evaluate]
    refine (evaluate_coupled laws hrun left hf ha.1 hr).bind fun a b hab => ?_
    refine (evaluate_coupled laws hrun pattern hf ha.2 hr).bind fun c d hcd =>
      .pure (laws.boolean ?_)
    rw [(laws.alike hab).like_eq (laws.alike hcd)]
  | .call name args, hf, ha, r, r', hr => by
    simp only [Expr.evaluate]
    exact (evaluateAll_coupled laws hrun args hf ha hr).bind fun as bs h => .pure (laws.call name h)
  | .window name args partitionBy orderBy, hf, ha, r, r', hr => by
    simp only [Expr.features, admitsAll_cons, admitsAll_append] at ha
    obtain ⟨⟨hplace, hid⟩, hargs, hpart, horder⟩ := ha
    simp only [Expr.evaluate]
    refine Coupled.reading fun s t hs ht _ => ?_
    have hpop : Option.Rel R.Rows s.population t.population := by
      subst hs ht
      exact hf.population hplace
    generalize s.population = o at hpop ⊢
    generalize t.population = o' at hpop ⊢
    cases hpop with
    | none => exact .pure laws.null
    | some hrows =>
      refine (evaluateAll_coupled laws hrun partitionBy hf hpart hr).bind fun key key' hkey => ?_
      refine (Coupled.mapM hrows fun _ _ h =>
        evaluateAll_coupled laws hrun partitionBy hf hpart h).bind fun keys keys' hkeys => ?_
      have hpartition := partition_rel laws hrows hkey hkeys
      split
      · rename_i hname
        exact rowNumber_coupled laws (hid hname) hr hpartition
          (fun _ _ h => evaluateKeys_coupled laws hrun orderBy hf horder h) _ (admits_sort horder)
      · split
        · exact (aggregate_coupled laws hrun args _ hf hargs hpartition).mono fun _ _ h => h.2
        · exact .pure laws.null
  | .case branches otherwise, hf, ha, r, r', hr => by
    simp only [Expr.features, admitsAll_append] at ha
    simp only [Expr.evaluate]
    refine (firstResult_coupled laws hrun branches hf ha.1 hr).bind fun o o' ho => ?_
    cases ho with
    | none => exact evaluateOption_coupled laws hrun otherwise hf ha.2 hr
    | some h => exact .pure h
  | .star, _, _, _, _, _ => by
    simp only [Expr.evaluate]
    exact .pure laws.null
  | .subquery s, hf, ha, r, r', hr => by
    simp only [Expr.evaluate]
    refine (subqueryRows_coupled hrun s hf ha hr).bind fun rows rows' hrows => ?_
    cases hrows with
    | nil => exact .pure laws.null
    | cons h _ => exact .pure (firstValue laws h)

theorem isAmong_coupled (laws : R.Lawful) (hrun : R.Runs run run') {v v' : Value}
    (hv : R.value v v') : ∀ (candidates : List Expr),
    R.Frames sheltered f g → R.AdmitsAll (exprsFeatures sheltered candidates) →
    ∀ {r r' : Record}, R.Row r r' →
    R.Coupled f g (· = ·) (Expr.isAmong run v candidates r) (Expr.isAmong run' v' candidates r')
  | [], _, _, _, _, _ => by
    simp only [Expr.isAmong]
    exact .pure rfl
  | e :: rest, hf, ha, r, r', hr => by
    simp only [exprsFeatures, admitsAll_append] at ha
    have hrest := isAmong_coupled laws hrun hv rest hf ha.2 hr
    by_cases he : ∃ s, e = .subquery s
    · obtain ⟨s, rfl⟩ := he
      simp only [Expr.isAmong]
      refine (subqueryRows_coupled hrun s hf ha.1 hr).bind fun rows rows' hrows => ?_
      refine .ite (any_rel (fun _ _ h => ?_) hrows) (.pure rfl) hrest
      exact (laws.alike hv).same_eq (laws.alike (firstValue laws h))
    · have he : ∀ s, e = .subquery s → False := fun s h => he ⟨s, h⟩
      rw [Expr.isAmong, Expr.isAmong]
      · refine (evaluate_coupled laws hrun e hf ha.1 hr).bind fun a b hab => ?_
        exact .ite ((laws.alike hv).same_eq (laws.alike hab)) (.pure rfl) hrest
      · exact he
      · exact he

theorem evaluateAll_coupled (laws : R.Lawful) (hrun : R.Runs run run') :
    ∀ (es : List Expr), R.Frames sheltered f g →
    R.AdmitsAll (exprsFeatures sheltered es) → ∀ {r r' : Record}, R.Row r r' →
    R.Coupled f g (Forall₂ R.value) (Expr.evaluateAll run es r) (Expr.evaluateAll run' es r')
  | [], _, _, _, _, _ => by
    simp only [Expr.evaluateAll]
    exact .pure .nil
  | e :: rest, hf, ha, r, r', hr => by
    simp only [exprsFeatures, admitsAll_append] at ha
    simp only [Expr.evaluateAll]
    refine (evaluate_coupled laws hrun e hf ha.1 hr).bind fun a b hab => ?_
    exact (evaluateAll_coupled laws hrun rest hf ha.2 hr).bind fun as bs h => .pure (.cons hab h)

theorem evaluateKeys_coupled (laws : R.Lawful) (hrun : R.Runs run run') :
    ∀ (keys : List SortKey), R.Frames sheltered f g →
    R.AdmitsAll (keysFeatures sheltered keys) → ∀ {r r' : Record}, R.Row r r' →
    R.Coupled f g (R.KeysLike keys.length) (Expr.evaluateKeys run keys r)
      (Expr.evaluateKeys run' keys r')
  | [], _, _, _, _, _ => by
    simp only [Expr.evaluateKeys]
    exact .pure ⟨rfl, .nil⟩
  | ⟨e, _⟩ :: rest, hf, ha, r, r', hr => by
    simp only [keysFeatures, admitsAll_cons, admitsAll_append] at ha
    simp only [Expr.evaluateKeys]
    refine (evaluate_coupled laws hrun e hf ha.2.1 hr).bind fun a b hab => ?_
    exact (evaluateKeys_coupled laws hrun rest hf ha.2.2 hr).bind fun as bs h =>
      .pure ⟨congrArg (· + 1) h.1, .cons hab h.2⟩

theorem firstResult_coupled (laws : R.Lawful) (hrun : R.Runs run run') :
    ∀ (branches : List Branch), R.Frames sheltered f g →
    R.AdmitsAll (branchesFeatures sheltered branches) → ∀ {r r' : Record}, R.Row r r' →
    R.Coupled f g (Option.Rel R.value) (Expr.firstResult run branches r)
      (Expr.firstResult run' branches r')
  | [], _, _, _, _, _ => by
    simp only [Expr.firstResult]
    exact .pure .none
  | ⟨condition, result⟩ :: rest, hf, ha, r, r', hr => by
    simp only [branchesFeatures, admitsAll_append] at ha
    simp only [Expr.firstResult]
    refine (evaluate_coupled laws hrun condition hf ha.1 hr).bind fun a b hab => ?_
    refine .ite (laws.alike hab).truth ?_ (firstResult_coupled laws hrun rest hf ha.2.2 hr)
    exact (evaluate_coupled laws hrun result hf ha.2.1 hr).bind fun c d hcd => .pure (.some hcd)

theorem evaluateOption_coupled (laws : R.Lawful) (hrun : R.Runs run run') :
    ∀ (o : Option Expr), R.Frames sheltered f g →
    R.AdmitsAll (optionFeatures sheltered o) → ∀ {r r' : Record}, R.Row r r' →
    R.Coupled f g R.value (Expr.evaluateOption run o r) (Expr.evaluateOption run' o r')
  | none, _, _, _, _, _ => by
    simp only [Expr.evaluateOption]
    exact .pure laws.null
  | some e, hf, ha, r, r', hr => by
    simp only [Expr.evaluateOption]
    exact evaluate_coupled laws hrun e hf ha hr

/-- An aggregate has one value on both sides. -/
theorem aggregate_coupled (laws : R.Lawful) (hrun : R.Runs run run') :
    ∀ (args : List Expr) (a : Aggregate), R.Frames sheltered f g →
    R.AdmitsAll (exprsFeatures sheltered args) → ∀ {rows rows' : List Record}, R.Rows rows rows' →
    R.Coupled f g R.Held (Expr.aggregate run args a rows) (Expr.aggregate run' args a rows')
  | args, a, hf, ha, rows, rows', hrows => by
    by_cases hcount : a = .count
    · subst hcount
      rw [Expr.aggregate, Expr.aggregate, hrows.length_eq]
      exact .pure ⟨rfl, laws.plain _ rfl⟩
    · cases args with
      | nil =>
        rw [Expr.aggregate, Expr.aggregate]
        · exact .pure ⟨rfl, laws.ofNumbers a (fun _ h => nomatch h)⟩
        · exact hcount
        · exact hcount
      | cons e rest =>
        simp only [exprsFeatures, admitsAll_append] at ha
        rw [Expr.aggregate, Expr.aggregate]
        · refine (Coupled.mapM hrows fun _ _ h => evaluate_coupled laws hrun e hf ha.1 h).bind
            fun values values' hvalues => .pure ?_
          rw [← laws.numbers_eq hvalues]
          exact ⟨rfl, laws.ofNumbers a fun _ => laws.number_mem hvalues⟩
        · exact hcount
        · exact hcount

end

/-! ### Aggregates put in place -/

variable {group group' : List Record}

mutual

/-- An expression over a group is reduced to one expression on both sides. -/
theorem reduce_coupled (laws : R.Lawful) (hrun : R.Runs run run')
    (hgroup : R.Rows group group') : ∀ (e : Expr), R.Frames sheltered f g →
    R.AdmitsAll (e.features sheltered) →
    R.Coupled f g (R.Reduced (Expr.features sheltered)) (e.reduce run group) (e.reduce run' group')
  | .call name args, hf, ha => by
    simp only [Expr.reduce]
    split
    · rename_i a _
      refine (aggregate_coupled laws hrun args a hf ha hgroup).bind fun v w h => .pure ?_
      obtain ⟨rfl, hv⟩ := h
      exact ⟨rfl, forall_mem_singleton.2 hv⟩
    · refine (reduceAll_coupled laws hrun hgroup args hf ha).bind fun as bs h => .pure ?_
      obtain ⟨rfl, has⟩ := h
      exact ⟨rfl, has⟩
  | .binary left op right, hf, ha => by
    simp only [Expr.features, admitsAll_append] at ha
    simp only [Expr.reduce]
    refine (reduce_coupled laws hrun hgroup left hf ha.1).bind fun l l' hl => ?_
    refine (reduce_coupled laws hrun hgroup right hf ha.2).bind fun r r' hr => .pure ?_
    obtain ⟨rfl, hl⟩ := hl
    obtain ⟨rfl, hr⟩ := hr
    exact ⟨rfl, admitsAll_append.2 ⟨hl, hr⟩⟩
  | .isNull operand negated, hf, ha => by
    simp only [Expr.reduce]
    refine (reduce_coupled laws hrun hgroup operand hf ha).bind fun a b h => .pure ?_
    obtain ⟨rfl, h⟩ := h
    exact ⟨rfl, h⟩
  | .inList left candidates negated, hf, ha => by
    simp only [Expr.features, admitsAll_append] at ha
    simp only [Expr.reduce]
    refine (reduce_coupled laws hrun hgroup left hf ha.1).bind fun l l' hl => ?_
    refine (reduceAll_coupled laws hrun hgroup candidates hf ha.2).bind fun cs cs' hcs => .pure ?_
    obtain ⟨rfl, hl⟩ := hl
    obtain ⟨rfl, hcs⟩ := hcs
    exact ⟨rfl, admitsAll_append.2 ⟨hl, hcs⟩⟩
  | .like left pattern negated, hf, ha => by
    simp only [Expr.features, admitsAll_append] at ha
    simp only [Expr.reduce]
    refine (reduce_coupled laws hrun hgroup left hf ha.1).bind fun l l' hl => ?_
    refine (reduce_coupled laws hrun hgroup pattern hf ha.2).bind fun p p' hp => .pure ?_
    obtain ⟨rfl, hl⟩ := hl
    obtain ⟨rfl, hp⟩ := hp
    exact ⟨rfl, admitsAll_append.2 ⟨hl, hp⟩⟩
  | .case branches otherwise, hf, ha => by
    simp only [Expr.features, admitsAll_append] at ha
    simp only [Expr.reduce]
    refine (reduceBranches_coupled laws hrun hgroup branches hf ha.1).bind fun bs bs' hbs => ?_
    refine (reduceOption_coupled laws hrun hgroup otherwise hf ha.2).bind fun o o' ho => .pure ?_
    obtain ⟨rfl, hbs⟩ := hbs
    obtain ⟨rfl, ho⟩ := ho
    exact ⟨rfl, admitsAll_append.2 ⟨hbs, ho⟩⟩
  | .identifier _, _, ha => by simp only [Expr.reduce]; exact .pure ⟨rfl, ha⟩
  | .literal _, _, ha => by simp only [Expr.reduce]; exact .pure ⟨rfl, ha⟩
  | .window _ _ _ _, _, ha => by simp only [Expr.reduce]; exact .pure ⟨rfl, ha⟩
  | .star, _, ha => by simp only [Expr.reduce]; exact .pure ⟨rfl, ha⟩
  | .subquery _, _, ha => by simp only [Expr.reduce]; exact .pure ⟨rfl, ha⟩

theorem reduceAll_coupled (laws : R.Lawful) (hrun : R.Runs run run')
    (hgroup : R.Rows group group') : ∀ (es : List Expr), R.Frames sheltered f g →
    R.AdmitsAll (exprsFeatures sheltered es) →
    R.Coupled f g (R.Reduced (exprsFeatures sheltered)) (Expr.reduceAll run group es)
      (Expr.reduceAll run' group' es)
  | [], _, ha => by simp only [Expr.reduceAll]; exact .pure ⟨rfl, ha⟩
  | e :: rest, hf, ha => by
    simp only [exprsFeatures, admitsAll_append] at ha
    simp only [Expr.reduceAll]
    refine (reduce_coupled laws hrun hgroup e hf ha.1).bind fun a b hab => ?_
    refine (reduceAll_coupled laws hrun hgroup rest hf ha.2).bind fun as bs h => .pure ?_
    obtain ⟨rfl, hab⟩ := hab
    obtain ⟨rfl, h⟩ := h
    exact ⟨rfl, admitsAll_append.2 ⟨hab, h⟩⟩

theorem reduceBranches_coupled (laws : R.Lawful) (hrun : R.Runs run run')
    (hgroup : R.Rows group group') : ∀ (branches : List Branch), R.Frames sheltered f g →
    R.AdmitsAll (branchesFeatures sheltered branches) →
    R.Coupled f g (R.Reduced (branchesFeatures sheltered)) (Expr.reduceBranches run group branches)
      (Expr.reduceBranches run' group' branches)
  | [], _, ha => by simp only [Expr.reduceBranches]; exact .pure ⟨rfl, ha⟩
  | ⟨condition, result⟩ :: rest, hf, ha => by
    simp only [branchesFeatures, admitsAll_append] at ha
    simp only [Expr.reduceBranches]
    refine (reduce_coupled laws hrun hgroup condition hf ha.1).bind fun c c' hc => ?_
    refine (reduce_coupled laws hrun hgroup result hf ha.2.1).bind fun r r' hr => ?_
    refine (reduceBranches_coupled laws hrun hgroup rest hf ha.2.2).bind fun bs bs' hbs => .pure ?_
    obtain ⟨rfl, hc⟩ := hc
    obtain ⟨rfl, hr⟩ := hr
    obtain ⟨rfl, hbs⟩ := hbs
    exact ⟨rfl, admitsAll_append.2 ⟨hc, admitsAll_append.2 ⟨hr, hbs⟩⟩⟩

theorem reduceOption_coupled (laws : R.Lawful) (hrun : R.Runs run run')
    (hgroup : R.Rows group group') : ∀ (o : Option Expr), R.Frames sheltered f g →
    R.AdmitsAll (optionFeatures sheltered o) →
    R.Coupled f g (R.Reduced (optionFeatures sheltered)) (Expr.reduceOption run group o)
      (Expr.reduceOption run' group' o)
  | none, _, ha => by simp only [Expr.reduceOption]; exact .pure ⟨rfl, ha⟩
  | some e, hf, ha => by
    simp only [Expr.reduceOption]
    refine (reduce_coupled laws hrun hgroup e hf ha).bind fun a b h => .pure ?_
    obtain ⟨rfl, h⟩ := h
    exact ⟨rfl, h⟩

end

/-- **Expressions over a group are evaluated alike.** -/
theorem evaluateGrouped_coupled (laws : R.Lawful) (hrun : R.Runs run run')
    (hgroup : R.Rows group group') (e : Expr) (hf : R.Frames sheltered f g)
    (ha : R.AdmitsAll (e.features sheltered)) {r r' : Record} (hr : R.Row r r') :
    R.Coupled f g R.value (e.evaluateGrouped run group r) (e.evaluateGrouped run' group' r') := by
  refine (reduce_coupled laws hrun hgroup e hf ha).bind fun a b hab => ?_
  obtain ⟨rfl, ha⟩ := hab
  exact evaluate_coupled laws hrun a hf ha hr

end Expressions

end Coupling

end RowQuery
