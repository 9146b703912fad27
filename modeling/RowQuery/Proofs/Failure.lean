/-
# Why an execution fails

An execution fails if a table is not loaded, and then with what the loader said.
Nothing is loaded after a failure, so it is the last load that failed. A value of
the wrong kind, a column that is not there, a function that is not known or has
too few arguments, a pattern that is none and a number that is out of range all
have values.

There is one other way to fail: sorting may break off. Then the statement has
sort keys, and more than 20 rows are sorted by keys that the order of values does
not order.

The loader may be any, and may answer otherwise when it is asked again.

Key definitions: `Executor.answers`, `Executor.Answered`, `Executor.Broken`.
Key theorems: `run_fails_iff`, `run_of_disordered_keys`.
-/
import RowQuery.Proofs.Coupling.Alone

namespace RowQuery

open List

namespace Executor

variable (executor : Executor)

/-- What the loader answers to some loads, one after the other, after those before them. -/
def answersAfter (before : List (SourceKind × String)) :
    List (SourceKind × String) → List (Except LoadError (List Record))
  | [] => []
  | (kind, name) :: rest =>
    executor.load before kind name :: answersAfter (before ++ [(kind, name)]) rest

/-- What the loader answers to the loads of an execution, in order. -/
def answers (loads : List (SourceKind × String)) : List (Except LoadError (List Record)) :=
  executor.answersAfter [] loads

theorem answersAfter_concat (kind : SourceKind) (name : String) :
    ∀ before loads : List (SourceKind × String),
    executor.answersAfter before (loads ++ [(kind, name)]) =
      executor.answersAfter before loads ++ [executor.load (before ++ loads) kind name]
  | before, [] => by simp [answersAfter]
  | before, (k, n) :: rest => by
    simp only [cons_append, answersAfter, answersAfter_concat kind name _ rest, append_assoc,
      nil_append]

/-- A loader that gives a table whatever it is asked has given one whenever it was asked. -/
theorem answersAfter_ok (h : ∀ before kind name, ∃ rows, executor.load before kind name = .ok rows) :
    ∀ before loads : List (SourceKind × String),
    ∀ a ∈ executor.answersAfter before loads, ∃ rows, a = .ok rows
  | _, [], _, ha => nomatch ha
  | before, (kind, name) :: rest, a, ha => by
    rcases mem_cons.1 ha with rfl | ha
    · exact h before kind name
    · exact answersAfter_ok h _ rest a ha

theorem error_notMem {answers : List (Except LoadError (List Record))}
    (h : ∀ a ∈ answers, ∃ rows, a = .ok rows) (e : LoadError) : .error e ∉ answers := by
  intro he
  obtain ⟨_, habsurd⟩ := h _ he
  cases habsurd

theorem answers_concat (loads : List (SourceKind × String)) (kind : SourceKind) (name : String) :
    executor.answers (loads ++ [(kind, name)]) =
      executor.answers loads ++ [executor.load loads kind name] :=
  executor.answersAfter_concat kind name [] loads

/-- All loads so far gave a table. -/
def Answered (l : Ledger) : Prop := ∀ a ∈ executor.answers l.loads, ∃ rows, a = .ok rows

/-- The last load failed, those before it gave a table. -/
def Broken (e : LoadError) (l : Ledger) : Prop :=
  ∃ before, executor.answers l.loads = before ++ [.error e] ∧ ∀ a ∈ before, ∃ rows, a = .ok rows

/-! ### One load -/

variable {executor} {l : Ledger} {kind : SourceKind} {name : String}

theorem Answered.ask (h : executor.Answered l) {rows : List Record}
    (hload : executor.load l.loads kind name = .ok rows) :
    executor.Answered (l.ask kind name) := by
  intro a ha
  rw [Ledger.ask, answers_concat, hload] at ha
  rcases mem_append.1 ha with ha | ha
  · exact h a ha
  · exact ⟨rows, mem_singleton.1 ha⟩

theorem Answered.keep (h : executor.Answered l) (wanted : Bool) (rows : List Record) :
    executor.Answered (l.keep wanted kind name rows) := by
  cases wanted <;> exact h

theorem Answered.broken (h : executor.Answered l) {e : LoadError}
    (hload : executor.load l.loads kind name = .error e) :
    executor.Broken e (l.ask kind name) := by
  refine ⟨executor.answers l.loads, ?_, h⟩
  rw [Ledger.ask, answers_concat, hload]

/-- A table that is fetched is loaded or at hand, and one that is not was asked for last. -/
theorem fetch_leaves {sorts : Prop} (h : executor.Answered l) (kind : SourceKind) (name : String) :
    Leaves sorts executor.Answered executor.Broken ((l.fetch executor kind name).1.mapError .load)
      (l.fetch executor kind name).2 := by
  unfold Ledger.fetch
  cases l.cached? executor.options.cacheTables kind name with
  | some rows => exact h
  | none =>
    dsimp only
    cases hload : executor.load l.loads kind name with
    | ok rows => exact (h.ask hload).keep _ rows
    | error e => exact h.broken hload

end Executor

/-! ### Statements -/

/-- A statement that is executed after loads that all gave a table leaves loads that all did, or
fails with the last of them. It breaks off only if it has sort keys. -/
theorem execute_leaves (executor : Executor) (s : Statement) {session : Session}
    (h : executor.Answered session.ledger) :
    Leaves (.sortKey ∈ s.features true) executor.Answered executor.Broken
      ((executor.execute s).run.run session).1
      ((executor.execute s).run.run session).2.ledger := by
  have hexec : (Coupling.alone (.sortKey ∈ s.features true) executor.Answered
      executor.Broken).Executors executor executor :=
    Coupling.alone_executors fun l kind name hl => Executor.fetch_leaves hl kind name
  exact (Coupling.execute_coupled Coupling.alone_lawful hexec s
    (Coupling.alone_frames session.frame true) (Coupling.alone_admits id)).leaves h |>.2

/-- An execution leaves loads that all gave a table, or fails with the last of them. -/
theorem run_leaves (executor : Executor) (s : Statement) :
    match executor.run s with
    | (.ok _, loads) => ∀ a ∈ executor.answers loads, ∃ rows, a = .ok rows
    | (.error (.load e), loads) => ∃ before, executor.answers loads = before ++ [.error e] ∧
        ∀ a ∈ before, ∃ rows, a = .ok rows
    | (.error (.disorder keys), loads) => .sortKey ∈ s.features true ∧ Disordered keys ∧
        ∀ a ∈ executor.answers loads, ∃ rows, a = .ok rows := by
  have hstart : executor.Answered Session.start.ledger := fun _ h => nomatch h
  have hleaves := execute_leaves executor s hstart
  unfold Executor.run
  generalize (executor.execute s).run.run Session.start = x at hleaves ⊢
  obtain ⟨result, session⟩ := x
  rcases result with (e | keys) | rows
  · exact hleaves
  · exact hleaves
  · exact hleaves

/-- **A load that fails is what an execution fails with**: it is the last load, for nothing is loaded
after it, and an execution fails to load a table only so. The one other way to fail is to sort by
keys that are disordered, in a statement that has sort keys. So a statement has a result if every
load gives a table, but for such keys. -/
theorem run_fails_iff (executor : Executor) (s : Statement) :
    let result := (executor.run s).1
    let answers := executor.answers (executor.run s).2
    (∀ e, result = .error (.load e) ↔ .error e ∈ answers) ∧
      (∀ a ∈ answers.dropLast, ∃ rows, a = .ok rows) ∧
      (∀ keys, result = .error (.disorder keys) →
        .sortKey ∈ s.features true ∧ Disordered keys) ∧
      ((∀ before kind name, ∃ rows, executor.load before kind name = .ok rows) →
        (∃ rows, result = .ok rows) ∨ ∃ keys, result = .error (.disorder keys)) := by
  have hleaves := run_leaves executor s
  generalize executor.run s = x at hleaves
  obtain ⟨result, loads⟩ := x
  dsimp only
  rcases result with (e | keys) | rows
  · obtain ⟨before, hanswers, hbefore⟩ := hleaves
    have hfailed : .error e ∈ executor.answers loads := by simp [hanswers]
    refine ⟨fun e' => ⟨fun h => ?_, fun h => ?_⟩, fun a ha => ?_, nofun, fun h => ?_⟩
    · rw [← Failure.load.inj (Except.error.inj h)]
      exact hfailed
    · rw [hanswers] at h
      rcases mem_append.1 h with h | h
      · exact absurd h (Executor.error_notMem hbefore e')
      · rw [Except.error.inj (mem_singleton.1 h)]
    · rw [hanswers, dropLast_concat] at ha
      exact hbefore a ha
    · exact absurd hfailed (Executor.error_notMem (executor.answersAfter_ok h [] loads) e)
  · obtain ⟨hsorts, hdisordered, hloads⟩ := hleaves
    refine ⟨fun e => ⟨nofun, fun h => absurd h (Executor.error_notMem hloads e)⟩,
      fun a ha => hloads a ((dropLast_sublist _).subset ha), fun keys' h => ?_,
      fun _ => .inr ⟨keys, rfl⟩⟩
    obtain rfl := Failure.disorder.inj (Except.error.inj h)
    exact ⟨hsorts, hdisordered⟩
  · exact ⟨fun e => ⟨nofun, fun h => absurd h (Executor.error_notMem hleaves e)⟩,
      fun a ha => hleaves a ((dropLast_sublist _).subset ha), nofun, fun _ => .inl ⟨rows, rfl⟩⟩

/-- The table `u` is not there: a subquery of it, which is executed for a row of `t`, fails, as does
a join with it. A loader that gives no rows the first time that it is asked, and one later on, always
gives a table. -/
theorem run_fails_iff_missing :
    let executor : Executor := Engine.executor ⟨.memory [("t", [⟨[("a", .integer 1)]⟩])], {}⟩
    let subquery : Expr := .subquery (.ofQuery (.all "u"))
    let within : Statement := .ofQuery { Query.all "t" with condition := some subquery }
    let joined : Statement :=
      .ofQuery { Query.all "t" with joins := [⟨.cross, ⟨none, "u", none⟩, none⟩] }
    let growing : Executor := ⟨fun before _ _ => .ok (before.map fun _ => ⟨[]⟩), {}⟩
    (executor.run within).1 = .error (.load (.notFound .file "u")) ∧
      (executor.run joined).1 = .error (.load (.notFound .file "u")) ∧
      ∃ rows, (growing.run joined).1 = .ok rows := by
  intro executor subquery within joined growing
  have hwithin : executor.answers (executor.run within).2 =
      [.ok [⟨[("a", .integer 1)]⟩], .error (.notFound .file "u")] := by rfl
  have hjoined : executor.answers (executor.run joined).2 =
      [.ok [⟨[("a", .integer 1)]⟩], .error (.notFound .file "u")] := by rfl
  have hgrowing := (run_fails_iff growing joined).2.2.2 fun _ _ _ => ⟨_, rfl⟩
  refine ⟨((run_fails_iff executor within).1 _).2 ?_, ((run_fails_iff executor joined).1 _).2 ?_,
    hgrowing.resolve_right ?_⟩
  · rw [hwithin]
    exact mem_cons_of_mem _ mem_cons_self
  · rw [hjoined]
    exact mem_cons_of_mem _ mem_cons_self
  · rintro ⟨keys, hkeys⟩
    have hsorts := ((run_fails_iff growing joined).2.2.1 keys hkeys).1
    simp [joined, Statement.ofQuery, Query.all] at hsorts

/-- A table of the text `1a` and the integers from 1 to 20. The order of values does not order them:
2 is before 10, which is before the text, which is before 2. -/
def mixedTable : List Record :=
  ⟨[("a", .string "1a")]⟩ :: (range' 1 20).map fun n => ⟨[("a", .integer (Int64.ofNat n))]⟩

/-- `SELECT a FROM t ORDER BY a` -/
def selectOrdered : Statement :=
  .ofQuery { Query.all "t" with
    items := [⟨.identifier "a", none⟩]
    orderBy := [⟨.identifier "a", .ascending⟩] }

/-- A statement may fail though every load gives a table: sorting these 21 rows breaks off. -/
theorem run_of_disordered_keys :
    (∃ keys, ((⟨fun _ _ _ => .ok mixedTable, {}⟩ : Executor).run selectOrdered).1 =
      .error (.disorder keys)) ∧
    ¬ ∀ (executor : Executor) (s : Statement),
      (∀ before kind name, ∃ rows, executor.load before kind name = .ok rows) →
      ∃ rows, (executor.run s).1 = .ok rows := by
  let executor : Executor := ⟨fun _ _ _ => .ok mixedTable, {}⟩
  have hload : ∀ before kind name, ∃ rows, executor.load before kind name = .ok rows :=
    fun _ _ _ => ⟨_, rfl⟩
  have hfails : (executor.run selectOrdered).1.toOption.isNone = true := by decide +kernel
  refine ⟨?_, fun h => ?_⟩
  · have hleaves := run_leaves executor selectOrdered
    show ∃ keys, (executor.run selectOrdered).1 = _
    generalize executor.run selectOrdered = x at hleaves hfails
    obtain ⟨(e | keys) | rows, loads⟩ := x
    · obtain ⟨before, hanswers, -⟩ := hleaves
      have hfailed : .error e ∈ executor.answers loads := by simp [hanswers]
      exact absurd hfailed (Executor.error_notMem (executor.answersAfter_ok hload [] loads) e)
    · exact ⟨keys, rfl⟩
    · cases hfails
  · obtain ⟨rows, hrows⟩ := h executor selectOrdered hload
    rw [hrows] at hfails
    cases hfails

end RowQuery
