/-
# Chains of joins keep tables intact

Each row of a join is put together from a row of either side, or from a row of
one side and null in all columns of the other, which only outer joins do. So if the
rows of the left side split in the blocks of its tables, the rows of the join do,
with one block more; and the blocks that a chain of joins may fill with null are
told by the kinds of the joins alone.

A join may load tables that its condition asks for, so the tables of a chain are
those that are loaded on the way.

Key definitions: `JoinKind.fillsLeft`, `JoinKind.fillsRight`, `Part.chain`,
`Executor.JoinsTo`, `Session.Made`.
Key theorems: `joinRows_gives`, `joinRows_splits`, `joinsTo_splits`, `joined_rows_split`.
-/
import RowQuery.Proofs.Block
import RowQuery.Proofs.Tables
import RowQuery.Proofs.Within

namespace RowQuery

open List

/-! ### Rows of one join -/

/-- Whether a kind of join keeps rows of the right side that match none of the left. -/
def JoinKind.fillsLeft : JoinKind → Bool
  | .right | .full => true
  | .inner | .left | .cross => false

/-- Whether a kind of join keeps rows of the left side that match none of the right. -/
def JoinKind.fillsRight : JoinKind → Bool
  | .left | .full => true
  | .inner | .right | .cross => false

/-- A row of a join comes from a row of each side, or from one of them and null for the other. -/
inductive FromSides (kind : JoinKind) (left right : List Record) : Record → Prop
  | both {l r : Record} (hl : l ∈ left) (hr : r ∈ right) : FromSides kind left right (l.merge r)
  | left {l : Record} (hl : l ∈ left) (hkind : kind.fillsRight = true) :
      FromSides kind left right (l.merge (nullRow right))
  | right {r : Record} (hr : r ∈ right) (hkind : kind.fillsLeft = true) :
      FromSides kind left right ((nullRow left).merge r)

namespace MatchTable

variable {pair : Record → Record → Record} {missing row : Record} {table : MatchTable}
  {outer inner : List Record}

theorem mem_of_mem_matched {flags : List Bool} (h : row ∈ matched flags inner) : row ∈ inner := by
  obtain ⟨p, hp, rfl⟩ := mem_map.1 h
  exact (of_mem_zip (mem_filter.1 hp).1).1

theorem mem_of_mem_unmatched (h : row ∈ table.unmatched inner) : row ∈ inner := by
  obtain ⟨p, hp, rfl⟩ := mem_map.1 h
  exact fst_mem_of_mem_zipIdx (mem_filter.1 hp).1

theorem mem_pairs (h : row ∈ table.pairs pair outer inner) :
    ∃ o ∈ outer, ∃ i ∈ inner, row = pair o i := by
  obtain ⟨⟨o, flags⟩, ho, hrow⟩ := mem_flatMap.1 h
  obtain ⟨i, hi, rfl⟩ := mem_map.1 hrow
  exact ⟨o, (of_mem_zip ho).1, i, mem_of_mem_matched hi, rfl⟩

theorem mem_outerPairs (h : row ∈ table.outerPairs pair missing outer inner) :
    ∃ o ∈ outer, row = pair o missing ∨ ∃ i ∈ inner, row = pair o i := by
  obtain ⟨⟨o, flags⟩, ho, hrow⟩ := mem_flatMap.1 h
  refine ⟨o, (of_mem_zip ho).1, ?_⟩
  dsimp only at hrow
  split at hrow
  · exact .inl (mem_singleton.1 hrow)
  · obtain ⟨i, hi, rfl⟩ := mem_map.1 hrow
    exact .inr ⟨i, mem_of_mem_matched hi, rfl⟩

end MatchTable

/-- **Every row of a join comes from the rows of its sides.** -/
theorem joinRows_gives (run : Runner) (kind : JoinKind) (condition : Option Expr)
    (left right : List Record) :
    Exec.Gives (fun rows => ∀ row ∈ rows, FromSides kind left right row)
      (joinRows run kind condition left right) := by
  cases kind with
  | cross =>
    refine .pure fun row hrow => ?_
    obtain ⟨l, hl, hrow⟩ := mem_flatMap.1 hrow
    obtain ⟨r, hr, rfl⟩ := mem_map.1 hrow
    exact .both hl hr
  | inner =>
    refine .bind .any fun table _ => .pure fun row hrow => ?_
    obtain ⟨l, hl, r, hr, rfl⟩ := MatchTable.mem_pairs hrow
    exact .both hl hr
  | left =>
    refine .bind .any fun table _ => .pure fun row hrow => ?_
    obtain ⟨l, hl, rfl | ⟨r, hr, rfl⟩⟩ := MatchTable.mem_outerPairs hrow
    · exact .left hl rfl
    · exact .both hl hr
  | full =>
    refine .bind .any fun table _ => .pure fun row hrow => ?_
    rcases mem_append.1 hrow with hrow | hrow
    · obtain ⟨l, hl, rfl | ⟨r, hr, rfl⟩⟩ := MatchTable.mem_outerPairs hrow
      · exact .left hl rfl
      · exact .both hl hr
    · obtain ⟨r, hr, rfl⟩ := mem_map.1 hrow
      exact .right (MatchTable.mem_of_mem_unmatched hr) rfl
  | right =>
    refine .bind .any fun table _ => .pure fun row hrow => ?_
    obtain ⟨r, hr, rfl | ⟨l, hl, rfl⟩⟩ := MatchTable.mem_outerPairs hrow
    · exact .right hr rfl
    · exact .both hl hr

/-- **The rows of a join split in the blocks of both sides.** -/
theorem FromSides.splits {kind : JoinKind} {left right : List Record} {parts parts' : List Part}
    {row : Record} (h : FromSides kind left right row) (hleft : ∀ l ∈ left, Splits parts l)
    (hright : ∀ r ∈ right, Splits parts' r)
    (hdisjoint : Disjoint (parts.map Part.qualifier) (parts'.map Part.qualifier)) :
    Splits (parts.map (Part.orNull kind.fillsLeft) ++ parts'.map (Part.orNull kind.fillsRight))
      row := by
  have hmerge : ∀ {l r : Record}, Splits (parts.map (Part.orNull kind.fillsLeft)) l →
      Splits (parts'.map (Part.orNull kind.fillsRight)) r →
      Splits (parts.map (Part.orNull kind.fillsLeft) ++ parts'.map (Part.orNull kind.fillsRight))
        (l.merge r) := fun hl hr => hl.merge hr (by
        rwa [Part.map_orNull_qualifier, Part.map_orNull_qualifier])
  cases h with
  | both hl hr => exact hmerge ((hleft _ hl).orNull _) ((hright _ hr).orNull _)
  | left hl hkind =>
    refine hmerge ((hleft _ hl).orNull _) ?_
    rw [hkind]
    exact splits_nullRow hright
  | right hr hkind =>
    refine hmerge ?_ ((hright _ hr).orNull _)
    rw [hkind]
    exact splits_nullRow hleft

/-! ### Chains -/

/-- The parts of the rows of a chain of joins, each with the rows of its table. -/
def Part.chain : List Part → List (Join × List Record) → List Part
  | parts, [] => parts
  | parts, (join, table) :: rest =>
    chain (parts.map (orNull join.kind.fillsLeft) ++
      [⟨join.table.qualifier, table, join.kind.fillsRight⟩]) rest

theorem Part.chain_qualifiers : ∀ (joins : List (Join × List Record)) (parts : List Part),
    (chain parts joins).map qualifier =
      parts.map qualifier ++ joins.map fun j => j.1.table.qualifier
  | [], _ => (append_nil _).symm
  | (join, table) :: rest, parts => by
    rw [chain, chain_qualifiers rest, map_append, map_orNull_qualifier, append_assoc]
    rfl

/-- Only outer joins fill with null. -/
theorem Part.chain_optional : ∀ {joins : List (Join × List Record)} {parts : List Part},
    (∀ p ∈ parts, p.optional = false) →
    (∀ j ∈ joins, j.1.kind = .inner ∨ j.1.kind = .cross) →
    ∀ p ∈ chain parts joins, p.optional = false
  | [], _, hparts, _ => hparts
  | (join, table) :: rest, parts, hparts, hkinds => by
    have hkind : join.kind.fillsLeft = false ∧ join.kind.fillsRight = false := by
      rcases hkinds (join, table) mem_cons_self with h | h
      · rw [h]
        exact ⟨rfl, rfl⟩
      · rw [h]
        exact ⟨rfl, rfl⟩
    rw [chain]
    refine chain_optional (fun p hp => ?_) fun j hj => hkinds j (mem_cons_of_mem _ hj)
    rcases mem_append.1 hp with hp | hp
    · obtain ⟨p, hmem, rfl⟩ := mem_map.1 hp
      show (p.optional || join.kind.fillsLeft) = false
      rw [hparts p hmem, hkind.1]
      rfl
    · rw [mem_singleton.1 hp]
      exact hkind.2

/-- A chain of joins that comes to an end, with the tables that are loaded for it. -/
inductive Executor.JoinsTo (executor : Executor) (run : Runner) :
    List Join → List Record → Session → List (List Record) → List Record → Session → Prop
  | nil {rows : List Record} {s : Session} : JoinsTo executor run [] rows s [] rows s
  | cons {join : Join} {rest : List Join} {rows table joined out : List Record}
      {tables : List (List Record)} {s s₁ s₂ s₃ : Session}
      (load : (executor.loadTable join.table).run.run s = (.ok table, s₁))
      (joinRows : (joinRows run join.kind join.condition rows
        (table.map (·.qualified join.table.qualifier))).run.run s₁ = (.ok joined, s₂))
      (rest_joins : JoinsTo executor run rest joined s₂ tables out s₃) :
      JoinsTo executor run (join :: rest) rows s (table :: tables) out s₃

theorem Executor.JoinsTo.length_eq {executor : Executor} {run : Runner} {joins : List Join}
    {rows out : List Record} {tables : List (List Record)} {s s' : Session}
    (h : executor.JoinsTo run joins rows s tables out s') : tables.length = joins.length := by
  induction h with
  | nil => rfl
  | cons _ _ _ ih => rw [length_cons, length_cons, ih]

theorem Executor.joinsTo_of_joinAll (executor : Executor) (run : Runner) :
    ∀ (joins : List Join) {rows out : List Record} {s s' : Session},
    (executor.joinAll run joins rows).run.run s = (.ok out, s') →
    ∃ tables, executor.JoinsTo run joins rows s tables out s'
  | [], _, _, _, _, h => by
    obtain ⟨hrows, rfl⟩ := Prod.mk.inj h
    obtain rfl := Except.ok.inj hrows
    exact ⟨[], .nil⟩
  | join :: rest, _, _, _, _, h => by
    obtain ⟨table, s₁, hload, h⟩ := Exec.run_bind_ok h
    obtain ⟨joined, s₂, hjoin, h⟩ := Exec.run_bind_ok h
    obtain ⟨tables, hrest⟩ := joinsTo_of_joinAll executor run rest h
    exact ⟨table :: tables, .cons hload hjoin hrest⟩

/-! ### A run of a chain -/

/-- Rows that the operations on records make. -/
abbrev MadeRows (rows : List Record) : Prop := ∀ r ∈ rows, r.Made

section Runs

variable {executor : Executor} (hload : executor.LoadsOnly MadeRows) {s s' : Session}

include hload

open Coupling in
/-- What a join loads for its condition is loaded as all tables are. -/
theorem joinRows_knows {depth : Nat} {kind : JoinKind} {condition : Option Expr}
    {left right out : List Record} (hs : s.KnowsOnly MadeRows)
    (h : (joinRows (executor.executeTo depth) kind condition left right).run.run s =
      (.ok out, s')) :
    s'.KnowsOnly MadeRows := by
  have hruns := executeTo_runs alone_lawful (knows_executors hload) depth
  have hleaves := (joinRows_coupled alone_lawful hruns kind condition (alone_frames s.frame true)
    (alone_admits fun _ => trivial) (alone_rows left) (alone_rows right)).leaves hs.cache
  rw [h] at hleaves
  have hscopes : s'.scopes = s.scopes := congrArg Frame.scopes hleaves.1
  refine ⟨?_, hleaves.2⟩
  rw [hscopes]
  exact hs.scopes

/-- **The rows of a chain of joins split in the blocks of its tables**, if those that it starts from
split in the blocks of theirs. -/
theorem joinsTo_splits {depth : Nat} {joins : List Join} {rows out : List Record}
    {tables : List (List Record)} {parts : List Part}
    (h : executor.JoinsTo (executor.executeTo depth) joins rows s tables out s')
    (hs : s.KnowsOnly MadeRows) (hrows : ∀ row ∈ rows, Splits parts row)
    (hnodup : (parts.map Part.qualifier ++ joins.map (·.table.qualifier)).Nodup)
    (hpoints : ∀ join ∈ joins, '.' ∉ join.table.qualifier.toList) :
    ∀ row ∈ out, Splits (Part.chain parts (joins.zip tables)) row := by
  -- Induction on the chain, for any parts so far: a join adds one part, and the new qualifier
  -- is apart from the ones before it, so that a column name tells which part it belongs to.
  induction h generalizing parts with
  | nil => exact hrows
  | @cons join rest rows table joined out tables s s₁ s₂ s₃ hloadTable hjoin _ ih =>
    obtain ⟨htable, hs₁⟩ := loadTable_knows hload hs hloadTable
    have hright : ∀ r ∈ table.map (·.qualified join.table.qualifier),
        Splits [⟨join.table.qualifier, table, false⟩] r := fun r hr => by
      obtain ⟨loaded, hloaded, rfl⟩ := mem_map.1 hr
      exact splits_qualified (hpoints join mem_cons_self) hloaded (htable loaded hloaded)
    rw [map_cons] at hnodup
    have hdisjoint : Disjoint (parts.map Part.qualifier) [join.table.qualifier] := by
      refine fun name hname hname' => (nodup_append.1 hnodup).2.2 name hname name ?_ rfl
      rw [mem_singleton.1 hname']
      exact mem_cons_self
    refine ih (joinRows_knows hload hs₁ hjoin) (fun row hrow => ?_) ?_
      fun j hj => hpoints j (mem_cons_of_mem _ hj)
    · exact (joinRows_gives _ _ _ _ _ s₁ joined s₂ hjoin row hrow).splits hrows hright hdisjoint
    · rw [map_append, Part.map_orNull_qualifier, append_assoc]
      exact hnodup

end Runs

/-- The names of the tables in a query, by which their columns are told apart. -/
def Query.qualifiers (q : Query) : List String :=
  q.source.qualifier :: q.joins.map (·.table.qualifier)

theorem Executor.qualifier_of_baseQualifier? {q : Query} {qualifier : String}
    (h : baseQualifier? q = some qualifier) : q.source.qualifier = qualifier := by
  unfold baseQualifier? at h
  unfold TableRef.qualifier
  cases halias : q.source.aliasName with
  | some name =>
    rw [halias] at h
    exact Option.some.inj h
  | none =>
    rw [halias] at h
    dsimp only at h
    split at h
    · cases h
    · exact Option.some.inj h

theorem Executor.joins_of_baseQualifier? {q : Query} (h : baseQualifier? q = none) :
    q.joins = [] := by
  unfold baseQualifier? at h
  split at h
  · cases h
  · split at h
    · exact isEmpty_iff.1 ‹_›
    · cases h

/-- **Joins keep the columns of every table intact.** The tables of a query have different names
without a point. A row that is made of them splits in blocks, one for each table, and each holds
exactly the columns of a loaded row in order, or null where an outer join may put it; so without
outer joins every block holds a loaded row. The rows of a single table without a name of its own
are left as they are. -/
theorem joined_rows_split {executor : Executor} (hload : executor.LoadsOnly MadeRows) {depth : Nat}
    {q : Query} {base out : List Record} {session session' : Session}
    (hsession : session.KnowsOnly MadeRows) (hbase : MadeRows base) (hnodup : q.qualifiers.Nodup)
    (hpoints : ∀ qualifier ∈ q.qualifiers, '.' ∉ qualifier.toList)
    (hrun : (executor.prepare (executor.executeTo depth) q base).run.run session =
      (.ok out, session')) :
    match Executor.baseQualifier? q with
    | none => q.joins = [] ∧ out = base
    | some qualifier => ∃ tables,
      executor.JoinsTo (executor.executeTo depth) q.joins (base.map (·.qualified qualifier)) session
        tables out session' ∧
      let parts := Part.chain [⟨qualifier, base, false⟩] (q.joins.zip tables)
      parts.map Part.qualifier = q.qualifiers ∧
      (∀ row ∈ out, Splits parts row) ∧
      ((∀ join ∈ q.joins, join.kind = .inner ∨ join.kind = .cross) →
        ∀ row ∈ out, ∀ p ∈ parts, ∃ loaded ∈ p.rows,
          row.block p.qualifier = (loaded.qualified p.qualifier).fields) := by
  unfold Executor.prepare at hrun
  cases hqualifier : Executor.baseQualifier? q with
  | none =>
    have hjoins := Executor.joins_of_baseQualifier? hqualifier
    rw [hqualifier, hjoins] at hrun
    exact ⟨hjoins, (Except.ok.inj (Prod.mk.inj hrun).1).symm⟩
  | some qualifier =>
    rw [hqualifier] at hrun
    obtain ⟨tables, hjoinsTo⟩ := executor.joinsTo_of_joinAll _ _ hrun
    have hname := Executor.qualifier_of_baseQualifier? hqualifier
    unfold Query.qualifiers at hnodup hpoints
    rw [hname] at hnodup hpoints
    have hrows : ∀ row ∈ base.map (·.qualified qualifier),
        Splits [⟨qualifier, base, false⟩] row := fun row hrow => by
      obtain ⟨loaded, hloaded, rfl⟩ := mem_map.1 hrow
      exact splits_qualified (hpoints _ mem_cons_self) hloaded (hbase loaded hloaded)
    have hsplits := joinsTo_splits hload hjoinsTo hsession hrows hnodup fun join hjoin =>
      hpoints _ (mem_cons_of_mem _ (mem_map_of_mem hjoin))
    refine ⟨tables, hjoinsTo, ?_, hsplits, fun hkinds row hrow => (hsplits row hrow).loaded ?_⟩
    · have hjoins : (q.joins.zip tables).map Prod.fst = q.joins :=
        map_fst_zip hjoinsTo.length_eq.ge
      have hqualifiers := congrArg (map fun join : Join => join.table.qualifier) hjoins
      rw [map_map] at hqualifiers
      rw [Part.chain_qualifiers, Query.qualifiers, hname, ← hqualifiers]
      rfl
    · refine Part.chain_optional (forall_mem_singleton.2 rfl) fun j hj => ?_
      exact hkinds j.1 (of_mem_zip hj).1

/-- `u LEFT JOIN o ON false CROSS JOIN p`, where the rows of `u` have different columns. -/
theorem joined_rows_split_left :
    let base : List Record := [⟨[("a", .integer 1)]⟩, ⟨[("b", .integer 2), ("a", .null)]⟩]
    let source : Source :=
      .memory [("o", [⟨[("a.b", .integer 3)]⟩]), ("p", [⟨[("a", .integer 4)]⟩])]
    let never : Option Expr := some (.literal (.boolean false))
    let q : Query := { Query.all "u" with
      joins := [⟨.left, ⟨none, "o", none⟩, never⟩, ⟨.cross, ⟨none, "p", none⟩, none⟩] }
    let out : List Record := [⟨[("u.a", .integer 1), ("o.a.b", .null), ("p.a", .integer 4)]⟩,
      ⟨[("u.b", .integer 2), ("u.a", .null), ("o.a.b", .null), ("p.a", .integer 4)]⟩]
    let executor := Engine.executor ⟨source, {}⟩
    ∃ session',
      (executor.prepare (executor.executeTo 0) q base).run.run .start = (.ok out, session') ∧
      ∃ tables, ∀ row ∈ out, Splits (Part.chain [⟨"u", base, false⟩] (q.joins.zip tables)) row := by
  intro base source never q out executor
  have hmade : ∀ rows : List Record, (∀ r ∈ rows, r.columns.Nodup) → MadeRows rows :=
    fun _ h r hr => Record.made_iff.2 (h r hr)
  have hload : executor.LoadsOnly MadeRows :=
    Source.memory_loadsOnly (forall_mem_cons.2 ⟨hmade _ (by decide),
      forall_mem_singleton.2 (hmade _ (by decide))⟩) {}
  have hrun : (executor.prepare (executor.executeTo 0) q base).run.run .start = (.ok out, _) := rfl
  obtain ⟨tables, -, -, hsplits, -⟩ := joined_rows_split hload Session.knowsOnly_start
    (hmade base (by decide)) (by decide) (by decide) hrun
  exact ⟨_, hrun, tables, hsplits⟩

end RowQuery
