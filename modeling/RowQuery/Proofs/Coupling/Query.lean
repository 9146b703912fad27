/-
# Clauses on corresponding rows

Picking rows, projecting them one by one or in groups, and putting the results
in a list: two executions of one query, on corresponding rows in corresponding
frames, are coupled. The conditions run in the frame of the statement around;
all else runs where windows range over the rows that the query picked.

Whether an index is used may differ on the two sides, if equal values have
equal keys.

Key definitions: `Coupling.KeysAgree`, `Coupling.Indexes`,
`Coupling.ProjectedAlike`.
Key theorems: `filter_coupled`, `projectRow_coupled`, `projectGroup_coupled`,
`project_coupled`, `select_coupled`.
-/
import RowQuery.Proofs.Coupling.Expr
import RowQuery.Proofs.Index.Filter

namespace RowQuery

open List

namespace Coupling

variable {R : Coupling} {f g : Frame} {sheltered : Bool}

/-! ### What occurs in the items of a clause -/

theorem admits_item {b : Bool} : ∀ {items : List SelectItem}, R.AdmitsAll (itemsFeatures b items) →
    ∀ item ∈ items, R.AdmitsAll (item.expr.features b)
  | [], _ => by simp
  | ⟨e, _⟩ :: rest, h => by
    simp only [itemsFeatures, admitsAll_append] at h
    exact forall_mem_cons.2 ⟨h.1, admits_item h.2⟩

theorem admits_key {b : Bool} : ∀ {keys : List SortKey}, R.AdmitsAll (keysFeatures b keys) →
    ∀ key ∈ keys, R.AdmitsAll (key.expr.features b)
  | [], _ => by simp
  | ⟨e, _⟩ :: rest, h => by
    simp only [keysFeatures, admitsAll_cons, admitsAll_append] at h
    exact forall_mem_cons.2 ⟨h.2.1, admits_key h.2.2⟩

/-- What a query may have in it, clause by clause. -/
structure AdmitsQuery (R : Coupling) (sheltered : Bool) (q : Query) : Prop where
  distinct : q.distinct = true → R.identity
  source : R.table q.source
  joins : R.AdmitsAll (joinsFeatures sheltered q.joins)
  condition : R.AdmitsAll (optionFeatures sheltered q.condition)
  items : R.AdmitsAll (itemsFeatures true q.items)
  groupBy : R.AdmitsAll (exprsFeatures true q.groupBy)
  having : R.AdmitsAll (optionFeatures true q.having)
  orderBy : R.AdmitsAll (keysFeatures true q.orderBy)

theorem admitsQuery {q : Query} (h : R.AdmitsAll (q.features sheltered)) :
    R.AdmitsQuery sheltered q := by
  obtain ⟨distinct, items, source, joins, condition, groupBy, having, orderBy, limit⟩ := q
  simp only [Query.features, admitsAll_append, admitsAll_cons] at h
  obtain ⟨hdistinct, hsource, hjoins, hcondition, hitems, hgroupBy, hhaving, horderBy⟩ := h
  refine ⟨fun hd => ?_, hsource, hjoins, hcondition, hitems, hgroupBy, hhaving, horderBy⟩
  rw [if_pos hd] at hdistinct
  exact hdistinct .distinct (mem_singleton_self _)

theorem Coupled.mapM_same {α β γ : Type} {B : β → γ → Prop} {k : α → Exec β} {k' : α → Exec γ}
    {xs : List α} (h : ∀ a ∈ xs, R.Coupled f g B (k a) (k' a)) :
    R.Coupled f g (Forall₂ B) (xs.mapM k) (xs.mapM k') := by
  refine Coupled.mapM (A := fun a b => a = b ∧ a ∈ xs) (forall₂_same.2 fun _ h => ⟨rfl, h⟩) ?_
  rintro a _ ⟨rfl, ha⟩
  exact h a ha

/-- Values that correspond, one for each item of a list. -/
theorem Coupled.mapM_keys {α : Type} {k k' : α → Exec Value} {xs : List α}
    (h : ∀ a ∈ xs, R.Coupled f g R.value (k a) (k' a)) :
    R.Coupled f g (R.KeysLike xs.length) (xs.mapM k) (xs.mapM k') := by
  induction xs with
  | nil => simpa only [mapM_nil] using Coupled.pure ⟨rfl, .nil⟩
  | cons a rest ih =>
    obtain ⟨ha, hrest⟩ := forall_mem_cons.1 h
    simp only [mapM_cons]
    exact ha.bind fun v w hvw => (ih hrest).bind fun vs ws h =>
      .pure ⟨congrArg (· + 1) h.1, .cons hvw h.2⟩

/-! ### Picking rows -/

/-- Equal values share their key, wherever both may be. -/
def KeysAgree (R : Coupling) : Prop :=
  ∀ ⦃a b c d : Value⦄, R.value a b → R.value c d → a.same c = true → a.key = c.key

/-- An index on both sides or on none, or one that makes no difference. -/
def Indexes (R : Coupling) (indexed indexed' : Bool) : Prop := indexed = indexed' ∨ R.KeysAgree

theorem equality?_literal {condition : Expr} {column : String} {literal : Value}
    (h : condition.equality? = some (column, literal))
    (ha : R.AdmitsAll (condition.features sheltered)) : R.value literal literal := by
  unfold Expr.equality? at h
  split at h
  · obtain ⟨-, rfl⟩ := Prod.mk.injEq .. ▸ Option.some.inj h
    exact ha (.literal _) (by simp [Expr.features])
  · obtain ⟨-, rfl⟩ := Prod.mk.injEq .. ▸ Option.some.inj h
    exact ha (.literal _) (by simp [Expr.features])
  · cases h

section Clauses

variable (laws : R.Lawful) {run run' : Runner} (hrun : R.Runs run run') {rows rows' : List Record}

include laws

/-- With keys that agree, an equality picks corresponding rows, by an index or not. -/
theorem filter_coupled_of_keysAgree (hkeys : R.KeysAgree) {q : Query} {condition : Expr}
    (hq : q.condition = some condition) {column : String} {literal : Value}
    (h : condition.equality? = some (column, literal)) (hl : R.value literal literal)
    (hf : R.Frames sheltered f g) (hrows : R.Rows rows rows') (indexed indexed' : Bool) :
    R.Coupled f g R.Rows (q.filter run indexed rows) (q.filter run' indexed' rows') := by
  intro s t hs ht hledger
  have houter : R.Rows s.outer t.outer := by subst hs ht; exact hf.outer
  have hvalue : ∀ r r', R.Row r r' → R.value (s.resolve r column) (t.resolve r' column) :=
    fun r r' hr => resolve laws houter hr column
  have hsame : ∀ r r', R.Row r r' →
      (s.resolve r column).same literal = (t.resolve r' column).same literal :=
    fun r r' hr => (laws.alike (hvalue r r' hr)).same_eq (laws.alike hl)
  rw [Query.filter_run_of_equality run hq h, Query.filter_run_of_equality run' hq h]
  · exact .ok (filter_rel hsame hrows) ⟨hs, ht⟩ hledger
  · intro r' hr' hr
    obtain ⟨r, hrow⟩ := (exists_of_mem hrows).2 r' hr'
    rw [← (laws.alike (hvalue r r' hrow)).key_eq]
    exact hkeys (hvalue r r' hrow) hl ((hsame r r' hrow).trans hr)
  · intro r hr' hr
    obtain ⟨r', hrow⟩ := (exists_of_mem hrows).1 r hr'
    exact hkeys (hvalue r r' hrow) hl hr

include hrun

theorem filterIndexed_coupled (column : String) {literal : Value} (hl : R.value literal literal)
    (hf : R.Frames sheltered f g) (hrows : R.Rows rows rows') :
    R.Coupled f g R.Rows (Query.filterIndexed run column literal rows)
      (Query.filterIndexed run' column literal rows') := by
  have ha : R.AdmitsAll ((Expr.identifier column).features sheltered) := by
    rw [Expr.features]
    exact admitsAll_nil
  have hvalue : ∀ r r', R.Row r r' → R.Coupled f g R.value
      ((Expr.identifier column).evaluate run r) ((Expr.identifier column).evaluate run' r') :=
    fun r r' hr => evaluate_coupled laws hrun _ hf ha hr
  refine (Coupled.mapM hrows hvalue).bind fun values values' hvalues => .pure ?_
  have hkeys : values.map Value.key = values'.map Value.key :=
    map_eq_of_rel (A := R.value) (fun _ _ h => (laws.alike h).key_eq) hvalues
  have hitems : Forall₂ (Keyed fun p q => R.value p.1 q.1 ∧ R.Row p.2 q.2)
      ((values.map Value.key).zip (values.zip rows))
      ((values'.map Value.key).zip (values'.zip rows')) := by
    rw [hkeys]
    exact zip_rel (A := (· = ·)) (forall₂_same.2 fun _ _ => rfl) (zip_rel hvalues hrows)
  refine rel_map (fun _ _ h => h.2) (filter_rel (fun _ _ h => ?_) (find_rel _ (ofList_rel hitems)))
  exact (laws.alike h.1).same_eq (laws.alike hl)

theorem filterScanned_coupled (condition : Expr) (hf : R.Frames sheltered f g)
    (ha : R.AdmitsAll (condition.features sheltered)) (hrows : R.Rows rows rows') :
    R.Coupled f g R.Rows (Query.filterScanned run condition rows)
      (Query.filterScanned run' condition rows') := by
  refine Coupled.bind (Coupled.mapM (B := (· = ·)) hrows fun r r' hr => ?_)
    fun kept kept' hkept => .pure (picked_rel hrows hkept)
  refine (evaluate_coupled laws hrun condition hf ha hr).bind fun a b hab => .pure ?_
  exact (laws.alike hab).truth

/-- **A query picks corresponding rows.** -/
theorem filter_coupled {indexed indexed' : Bool} (hindex : R.Indexes indexed indexed') (q : Query)
    (hf : R.Frames sheltered f g) (ha : R.AdmitsAll (optionFeatures sheltered q.condition))
    (hrows : R.Rows rows rows') :
    R.Coupled f g R.Rows (q.filter run indexed rows) (q.filter run' indexed' rows') := by
  cases hq : q.condition with
  | none =>
    unfold Query.filter
    rw [hq]
    exact .pure hrows
  | some condition =>
    rw [hq] at ha
    cases hc : condition.equality? with
    | none =>
      have hnone : ∀ b : Bool, (if b then condition.equality? else none) = none := by
        intro b
        cases b
        · rfl
        · exact hc
      unfold Query.filter
      simp only [hq, hnone]
      exact filterScanned_coupled laws hrun condition hf ha hrows
    | some p =>
      obtain ⟨column, literal⟩ := p
      have hl := equality?_literal hc ha
      rcases hindex with rfl | hkeys
      · unfold Query.filter
        simp only [hq, hc]
        cases indexed with
        | false => exact filterScanned_coupled laws hrun condition hf ha hrows
        | true => exact filterIndexed_coupled laws hrun column hl hf hrows
      · exact filter_coupled_of_keysAgree laws hkeys hq hc hl hf hrows indexed indexed'

/-! ### Projection -/

/-- Results of corresponding records and keys. -/
structure ProjectedAlike (R : Coupling) (n : Nat) (p q : Projected) : Prop where
  record : R.Row p.record q.record
  keys : R.KeysLike n p.keys q.keys

/-- How expressions are evaluated on the two sides: alike in these frames. -/
def Values (R : Coupling) (f g : Frame) (value value' : Expr → Record → Exec Value) : Prop :=
  ∀ (e : Expr), R.AdmitsAll (e.features true) → ∀ ⦃r r' : Record⦄, R.Row r r' →
    R.Coupled f g R.value (value e r) (value' e r')

omit laws hrun in
theorem projection_coupled {value value' : Expr → Record → Exec Value}
    (hvalue : R.Values f g value value') {q : Query}
    (ha : R.AdmitsAll (itemsFeatures true q.items)) {r r' : Record} (hr : R.Row r r') :
    R.Coupled f g R.Row (q.projection (value · r) r) (q.projection (value' · r') r') := by
  refine Coupled.bind (Coupled.mapM_same (B := Forall₂ R.Cell) fun item hitem => ?_)
    fun fields fields' h => .pure (Row.ofFields (rel_flatten h))
  unfold Query.itemFields
  refine .ite rfl (.pure hr) ?_
  refine (hvalue item.expr (admits_item ha item hitem) hr).bind fun a b hab => .pure ?_
  exact .cons ⟨rfl, hab⟩ .nil

theorem evaluate_values (hf : R.Frames true f g) :
    R.Values f g (fun e r => e.evaluate run r) (fun e r => e.evaluate run' r) :=
  fun e ha _ _ hr => evaluate_coupled laws hrun e hf ha hr

theorem evaluateGrouped_values (hf : R.Frames true f g) {group group' : List Record}
    (hgroup : R.Rows group group') :
    R.Values f g (fun e r => e.evaluateGrouped run group r)
      (fun e r => e.evaluateGrouped run' group' r) :=
  fun e ha _ _ hr => evaluateGrouped_coupled laws hrun hgroup e hf ha hr

theorem sortKeys_coupled {value value' : Expr → Record → Exec Value}
    (hvalue : R.Values f g value value') {q : Query} (hf : R.Frames true f g)
    (ha : R.AdmitsAll (keysFeatures true q.orderBy)) {r r' p p' : Record} (hr : R.Row r r')
    (hp : R.Row p p') :
    R.Coupled f g (R.KeysLike q.orderBy.length) (q.sortKeys run value r p)
      (q.sortKeys run' value' r' p') := by
  refine Coupled.mapM_keys fun key hkey => ?_
  have ha := admits_key ha key hkey
  unfold Query.sortKey
  split
  · exact evaluate_coupled laws hrun _ hf ha hr
  · exact hvalue _ ha (hr.merge hp)

/-- **A row has corresponding results.** -/
theorem projectRow_coupled {q : Query} (hf : R.Frames true f g) (ha : R.AdmitsQuery sheltered q)
    {r r' : Record} (hr : R.Row r r') :
    R.Coupled f g (R.ProjectedAlike q.orderBy.length) (q.projectRow run r)
      (q.projectRow run' r') := by
  have hvalue := evaluate_values laws hrun hf
  refine (projection_coupled hvalue ha.items hr).bind fun p p' hp => ?_
  exact (sortKeys_coupled laws hrun hvalue hf ha.orderBy hr hp).bind fun keys keys' hkeys =>
    .pure ⟨hp, hkeys⟩

theorem isWanted_coupled {q : Query} (hf : R.Frames true f g) (ha : R.AdmitsQuery sheltered q)
    {group group' : List Record} (hgroup : R.Rows group group') {r r' p p' : Record}
    (hr : R.Row r r') (hp : R.Row p p') :
    R.Coupled f g (· = ·) (q.isWanted run group r p) (q.isWanted run' group' r' p') := by
  have hhaving := ha.having
  unfold Query.isWanted
  cases hq : q.having with
  | none => exact .pure rfl
  | some condition =>
    rw [hq] at hhaving
    refine (evaluateGrouped_coupled laws hrun hgroup condition hf hhaving (hr.merge hp)).bind
      fun a b hab => .pure ?_
    exact (laws.alike hab).truth

/-- **A group has corresponding results.** -/
theorem projectGroup_coupled {q : Query} (hf : R.Frames true f g) (ha : R.AdmitsQuery sheltered q)
    {group group' : List Record} (hgroup : R.Rows group group') :
    R.Coupled f g (Option.Rel (R.ProjectedAlike q.orderBy.length)) (q.projectGroup run group)
      (q.projectGroup run' group') := by
  have hvalue := evaluateGrouped_values laws hrun hf hgroup
  have hsource : R.Row (group.head?.getD .empty) (group'.head?.getD .empty) := by
    cases hgroup with
    | nil => exact .empty
    | cons h _ => exact h
  refine (projection_coupled hvalue ha.items hsource).bind fun p p' hp => ?_
  refine (isWanted_coupled laws hrun hf ha hgroup hsource hp).bind fun b b' hb => ?_
  refine .ite hb ?_ (.pure .none)
  exact (sortKeys_coupled laws hrun hvalue hf ha.orderBy hsource hp).bind fun keys keys' hkeys =>
    .pure (.some ⟨hp, hkeys⟩)

theorem groups_coupled (e : Expr) (hf : R.Frames true f g) (ha : R.AdmitsAll (e.features true))
    (hrows : R.Rows rows rows') :
    R.Coupled f g (Forall₂ (Keyed R.Rows)) (Query.groups run e rows)
      (Query.groups run' e rows') := by
  refine (Coupled.mapM hrows fun r r' hr => evaluate_coupled laws hrun e hf ha hr).bind
    fun values values' hvalues => .pure (ofList_rel ?_)
  rw [laws.texts hvalues]
  exact zip_rel (A := (· = ·)) (forall₂_same.2 fun _ _ => rfl) hrows

/-- **The rows that were picked have corresponding results**, one by one or in groups. -/
theorem project_coupled {q : Query} (hf : R.Frames true f g) (ha : R.AdmitsQuery sheltered q)
    (hrows : R.Rows rows rows') :
    R.Coupled f g (Forall₂ (R.ProjectedAlike q.orderBy.length)) (q.project run rows)
      (q.project run' rows') := by
  have hgroupBy := ha.groupBy
  unfold Query.project
  cases hq : q.groupBy with
  | nil =>
    refine .ite rfl ?_ (Coupled.mapM hrows fun r r' hr => projectRow_coupled laws hrun hf ha hr)
    refine (projectGroup_coupled laws hrun hf ha hrows).bind fun o o' ho => .pure ?_
    cases ho with
    | none => exact .nil
    | some h => exact .cons h .nil
  | cons e rest =>
    rw [hq] at hgroupBy
    simp only [exprsFeatures, admitsAll_append] at hgroupBy
    refine (groups_coupled laws hrun e hf hgroupBy.1 hrows).bind fun groups groups' hgroups => ?_
    refine (Coupled.mapM hgroups fun p p' hp => projectGroup_coupled laws hrun hf ha hp.2).bind
      fun results results' hresults => .pure ?_
    exact rel_filterMap (fun _ _ h => h) hresults

/-! ### The result as a list -/

omit hrun

theorem distinctRows_rel {q : Query} (ha : R.AdmitsQuery sheltered q)
    {results results' : List Projected}
    (h : Forall₂ (R.ProjectedAlike q.orderBy.length) results results') :
    Forall₂ (R.ProjectedAlike q.orderBy.length) (q.distinctRows results)
      (q.distinctRows results') := by
  unfold Query.distinctRows
  split
  · rename_i hq
    exact distinctBy_rel (fun _ _ h => laws.canonical (ha.distinct hq) h.record) h
  · exact h

theorem order_coupled {q : Query} (ha : R.AdmitsQuery sheltered q)
    {results results' : List Projected}
    (h : Forall₂ (R.ProjectedAlike q.orderBy.length) results results') :
    R.Coupled f g R.Rows (q.order results) (q.order results') :=
  sorted_coupled laws _ _ (admits_sort ha.orderBy) (rel_map (fun _ _ h => ⟨h.record, h.keys⟩) h)

omit laws in
theorem page_rel {q : Query} (h : R.Rows rows rows') : R.Rows (q.page rows) (q.page rows') := by
  unfold Query.page
  split
  · unfold Limit.apply
    split
    · exact forall₂_take _ (forall₂_drop _ h)
    · exact forall₂_drop _ h
  · exact h

include hrun

/-- **A query has corresponding results** on corresponding rows. -/
theorem select_coupled {indexed indexed' : Bool} (hindex : R.Indexes indexed indexed') (q : Query)
    (hf : R.Frames sheltered f g) (ha : R.AdmitsQuery sheltered q) (hrows : R.Rows rows rows') :
    R.Coupled f g R.Rows (q.select run indexed rows) (q.select run' indexed' rows') := by
  refine (filter_coupled laws hrun hindex q hf ha.condition hrows).bind
    fun picked picked' hpicked => ?_
  refine (Coupled.withPopulation (project_coupled laws hrun (hf.withPopulation hpicked true) ha
    hpicked)).bind fun results results' hresults => ?_
  exact (order_coupled laws ha (distinctRows_rel laws ha hresults)).bind
    fun _ _ h => .pure (page_rel h)

end Clauses

end Coupling

end RowQuery
