/-
# Lists and records that correspond

What is done to rows besides evaluating expressions on them respects a coupling:
looking up columns, making records, picking, sorting and grouping. None of it
looks at a cell but through its key and its order, which corresponding values
share.

Key theorems: `Row.get?`, `Row.merge`, `resolve`, `sorted_coupled`,
`ofList_rel`, `distinctBy_rel`.
-/
import RowQuery.Evaluation.Select
import RowQuery.Evaluation.Compound
import RowQuery.Evaluation.Join
import RowQuery.Proofs.Coupling.Value

namespace RowQuery

open List

/-! ### Lists -/

section Lists

variable {κ α β γ δ : Type} {A : α → β → Prop} {B : γ → δ → Prop}

theorem getD_rel {o : Option α} {o' : Option β} (h : Option.Rel A o o') {d : α} {d' : β}
    (hd : A d d') : A (o.getD d) (o'.getD d') := by
  cases h with
  | none => exact hd
  | some h => exact h

theorem lookup_rel [BEq κ] (k : κ) {xs : List (κ × α)} {ys : List (κ × β)}
    (h : Forall₂ (Keyed A) xs ys) : Option.Rel A (xs.lookup k) (ys.lookup k) := by
  induction h with
  | nil => exact .none
  | @cons p q _ _ h _ ih =>
    obtain ⟨a, x⟩ := p
    obtain ⟨b, y⟩ := q
    obtain ⟨rfl, hxy⟩ : a = b ∧ A x y := h
    rw [lookup_cons, lookup_cons]
    split
    · exact .some hxy
    · exact ih

theorem findSome?_rel {f : α → Option γ} {g : β → Option δ}
    (hfg : ∀ a b, A a b → Option.Rel B (f a) (g b)) {xs : List α} {ys : List β}
    (h : Forall₂ A xs ys) : Option.Rel B (xs.findSome? f) (ys.findSome? g) := by
  induction h with
  | nil => exact .none
  | @cons x y _ _ h _ ih =>
    rw [findSome?_cons, findSome?_cons]
    have hxy := hfg _ _ h
    generalize f x = o at hxy ⊢
    generalize g y = o' at hxy ⊢
    cases hxy with
    | none => exact ih
    | some hxy => exact .some hxy

theorem any_rel {f : α → Bool} {g : β → Bool} (hfg : ∀ a b, A a b → f a = g b) {xs : List α}
    {ys : List β} (h : Forall₂ A xs ys) : xs.any f = ys.any g := by
  induction h with
  | nil => rfl
  | cons h _ ih => rw [any_cons, any_cons, hfg _ _ h, ih]

theorem map_eq_of_rel {f : α → γ} {g : β → γ} (hfg : ∀ a b, A a b → f a = g b) {xs : List α}
    {ys : List β} (h : Forall₂ A xs ys) : xs.map f = ys.map g := by
  induction h with
  | nil => rfl
  | cons h _ ih => rw [map_cons, map_cons, hfg _ _ h, ih]

theorem filter_rel {f : α → Bool} {g : β → Bool} (hfg : ∀ a b, A a b → f a = g b) {xs : List α}
    {ys : List β} (h : Forall₂ A xs ys) : Forall₂ A (xs.filter f) (ys.filter g) := by
  refine rel_filter (fun a b hab => ?_) h
  show f a = true ↔ g b = true
  rw [hfg a b hab]

theorem zip_rel {xs : List α} {ys : List β} (h : Forall₂ A xs ys) {us : List γ} {vs : List δ}
    (h' : Forall₂ B us vs) :
    Forall₂ (fun p q => A p.1 q.1 ∧ B p.2 q.2) (xs.zip us) (ys.zip vs) := by
  induction h generalizing us vs with
  | nil => exact .nil
  | cons h _ ih =>
    cases h' with
    | nil => exact .nil
    | cons h' hs => exact .cons ⟨h, h'⟩ (ih hs)

theorem forall₂_eq {xs ys : List α} (h : Forall₂ (· = ·) xs ys) : xs = ys := forall₂_eq_eq_eq ▸ h

theorem exists_of_mem {xs : List α} {ys : List β} (h : Forall₂ A xs ys) :
    (∀ a ∈ xs, ∃ b, A a b) ∧ ∀ b ∈ ys, ∃ a, A a b := by
  induction h with
  | nil => simp
  | cons h _ ih =>
    exact ⟨forall_mem_cons.2 ⟨⟨_, h⟩, ih.1⟩, forall_mem_cons.2 ⟨⟨_, h⟩, ih.2⟩⟩

/-- Corresponding lists are the two sides of one list of pairs. -/
theorem exists_pairs {xs : List α} {ys : List β} (h : Forall₂ A xs ys) :
    ∃ zs : List { z : α × β // A z.1 z.2 }, zs.map (·.1.1) = xs ∧ zs.map (·.1.2) = ys := by
  induction h with
  | nil => exact ⟨[], rfl, rfl⟩
  | @cons a b _ _ h _ ih =>
    obtain ⟨zs, rfl, rfl⟩ := ih
    exact ⟨⟨(a, b), h⟩ :: zs, rfl, rfl⟩

/-- Sorting by comparisons that do not tell corresponding items apart. -/
theorem sort_rel {r : α → α → Bool} {s : β → β → Bool}
    (hrs : ∀ a b a' b', A a b → A a' b' → r a a' = s b b') (size : Nat) {xs : List α}
    {ys : List β} (h : Forall₂ A xs ys) :
    Option.Rel (Forall₂ A) (Sort.sort r size xs) (Sort.sort s size ys) := by
  obtain ⟨zs, rfl, rfl⟩ := exists_pairs h
  have hless : (fun p q : { z : α × β // A z.1 z.2 } => r p.1.1 q.1.1) =
      fun p q => s p.1.2 q.1.2 :=
    funext fun p => funext fun q => hrs _ _ _ _ p.2 q.2
  rw [Sort.sort_map, Sort.sort_map, hless]
  cases Sort.sort (fun p q : { z : α × β // A z.1 z.2 } => s p.1.2 q.1.2) size zs with
  | none => exact .none
  | some sorted =>
    exact .some (forall₂_map_left_iff.2 (forall₂_map_right_iff.2 (forall₂_same.2 fun z _ => z.2)))

end Lists

namespace Coupling

variable {R : Coupling}

/-! ### Records -/

section Records

variable {r r' : Record}

theorem Row.get? (h : R.Row r r') (name : String) : Option.Rel R.value (r.get? name) (r'.get? name) :=
  lookup_rel name h

theorem Row.columns (h : R.Row r r') : r.columns = r'.columns :=
  map_eq_of_rel (fun _ _ h => h.1) h

theorem Row.suffixed (h : R.Row r r') (name : String) :
    Forall₂ R.value (r.suffixed name) (r'.suffixed name) := by
  refine rel_map (fun _ _ h => h.2) (filter_rel (fun p q h => ?_) h)
  show ('.' :: name.toList).isSuffixOf p.1.toList = ('.' :: name.toList).isSuffixOf q.1.toList
  rw [h.1]

theorem Row.lookup? (h : R.Row r r') (name : String) :
    Option.Rel R.value (r.lookup? name) (r'.lookup? name) := by
  unfold Record.lookup?
  have hget := h.get? name
  generalize r.get? name = o at hget ⊢
  generalize r'.get? name = o' at hget ⊢
  cases hget with
  | some hv => exact .some hv
  | none =>
    dsimp only
    split
    · exact h.get? _
    · have hs := h.suffixed name
      generalize r.suffixed name = values at hs ⊢
      generalize r'.suffixed name = values' at hs ⊢
      rcases hs with _ | ⟨hv, _ | _⟩
      · exact .none
      · exact .some hv
      · exact .none

theorem Row.first? (h : R.Row r r') : Option.Rel R.value r.first? r'.first? := by
  obtain ⟨fields⟩ := r
  obtain ⟨fields'⟩ := r'
  cases h with
  | nil => exact .none
  | cons h _ => exact .some h.2

theorem Row.empty : R.Row .empty .empty := .nil

theorem Row.insert (h : R.Row r r') {p q : String × Value} (hpq : R.Cell p q) :
    R.Row (r.insert p.1 p.2) (r'.insert q.1 q.2) := by
  obtain ⟨fields⟩ := r
  obtain ⟨fields'⟩ := r'
  show Forall₂ R.Cell (Record.insertField p.1 p.2 fields) (Record.insertField q.1 q.2 fields')
  change Forall₂ R.Cell fields fields' at h
  induction h with
  | nil => exact .cons hpq .nil
  | @cons c d _ _ h hs ih =>
    simp only [Record.insertField, h.1, hpq.1]
    split
    · exact .cons ⟨rfl, hpq.2⟩ hs
    · exact .cons ⟨rfl, h.2⟩ (hpq.1 ▸ ih)

theorem Row.merge (h : R.Row r r') {o o' : Record} (ho : R.Row o o') :
    R.Row (r.merge o) (r'.merge o') := by
  refine rel_foldl (P := R.Row) (R := R.Cell) ?_ h ho
  intro a b h p q hpq
  exact Row.insert h hpq

theorem Row.ofFields {fields fields' : List (String × Value)} (h : Forall₂ R.Cell fields fields') :
    R.Row (.ofFields fields) (.ofFields fields') := by
  have hrow : R.Row ⟨fields⟩ ⟨fields'⟩ := h
  exact Row.merge .empty hrow

theorem Row.qualified (h : R.Row r r') (qualifier : String) :
    R.Row (r.qualified qualifier) (r'.qualified qualifier) := by
  refine rel_map (fun p q hpq => ?_) h
  exact ⟨congrArg (Record.qualifiedName qualifier) hpq.1, hpq.2⟩

/-- What a name means in corresponding rows with corresponding rows around. -/
theorem resolve (laws : R.Lawful) {s t : Session} (houter : R.Rows s.outer t.outer)
    (h : R.Row r r') (name : String) : R.value (s.resolve r name) (t.resolve r' name) := by
  unfold Session.resolve
  have hrows : R.Rows (r :: s.outer) (r' :: t.outer) := .cons h houter
  have hget := findSome?_rel (A := R.Row) (fun _ _ h => Row.get? h name) hrows
  dsimp only
  generalize (r :: s.outer).findSome? (·.get? name) = o at hget ⊢
  generalize (r' :: t.outer).findSome? (·.get? name) = o' at hget ⊢
  cases hget with
  | some hv => exact hv
  | none => exact getD_rel (findSome?_rel (A := R.Row) (fun _ _ h => Row.lookup? h name) hrows) laws.null

theorem firstValue (laws : R.Lawful) (h : R.Row r r') :
    R.value (RowQuery.firstValue r) (RowQuery.firstValue r') :=
  getD_rel h.first? laws.null

theorem rowNumber_eq (laws : R.Lawful) (hid : R.identity) (h : R.Row r r')
    {rows rows' : List Record} (hrows : R.Rows rows rows') :
    rowNumber r rows = rowNumber r' rows' := by
  have hfind : rows.findIdx? (fun q => q.canonical == r.canonical) =
      rows'.findIdx? (fun q => q.canonical == r'.canonical) := by
    induction hrows with
    | nil => rfl
    | cons hq _ ih =>
      rw [findIdx?_cons, findIdx?_cons, ih, laws.canonical hid hq, laws.canonical hid h]
  unfold rowNumber
  rw [hfind]

theorem Rows.nullRow {rows rows' : List Record} (laws : R.Lawful) (h : R.Rows rows rows') :
    R.Row (RowQuery.nullRow rows) (RowQuery.nullRow rows') := by
  unfold RowQuery.nullRow
  have hcolumns : rows.flatMap Record.columns = rows'.flatMap Record.columns := by
    rw [flatMap_def, flatMap_def, map_eq_of_rel (A := R.Row) (fun _ _ h => Row.columns h) h]
  rw [hcolumns]
  refine Row.ofFields (forall₂_map_left_iff.2 (forall₂_map_right_iff.2 (forall₂_same.2 ?_)))
  exact fun name _ => ⟨rfl, laws.null⟩

end Records

/-! ### Orders and groups -/

theorem compareKeys_eq (laws : R.Lawful) : ∀ (directions : List Direction) {as as' bs bs' : List Value},
    Forall₂ R.value as as' → Forall₂ R.value bs bs' →
    compareKeys directions as bs = compareKeys directions as' bs'
  | [], _, _, _, _, _, _ => rfl
  | _ :: _, [], [], _, _, .nil, _ => rfl
  | _ :: _, _ :: _, _ :: _, [], [], .cons _ _, .nil => rfl
  | d :: directions, _ :: _, _ :: _, _ :: _, _ :: _, .cons ha has, .cons hb hbs => by
    have hd : ∀ d : Direction, d.compare _ _ = d.compare _ _ := fun d => by
      cases d with
      | ascending => exact (laws.alike ha).compare_eq (laws.alike hb)
      | descending => exact (laws.alike hb).compare_eq (laws.alike ha)
    unfold compareKeys
    rw [hd, compareKeys_eq laws directions has hbs]

theorem sortByKeys_rel (laws : R.Lawful) {α β : Type} {A : α → β → Prop} (size : Nat)
    (directions : List Direction) {xs : List (α × List Value)} {ys : List (β × List Value)}
    (h : Forall₂ (fun p q => A p.1 q.1 ∧ Forall₂ R.value p.2 q.2) xs ys) :
    Option.Rel (Forall₂ fun p q => A p.1 q.1 ∧ Forall₂ R.value p.2 q.2)
      (sortByKeys size directions xs) (sortByKeys size directions ys) := by
  refine sort_rel (fun a b a' b' hab hab' => ?_) size h
  rw [compareKeys_eq laws directions hab.2 hab'.2]

/-- Keys of one length that correspond. -/
def KeysLike (R : Coupling) (n : Nat) (as bs : List Value) : Prop :=
  as.length = n ∧ Forall₂ R.value as bs

/-- Corresponding items are sorted alike by corresponding keys. -/
theorem sorted_coupled (laws : R.Lawful) {f g : Frame} {α β : Type} {A : α → β → Prop} {n : Nat}
    (size : Nat) (directions : List Direction) {xs : List (α × List Value)}
    {ys : List (β × List Value)} (hsorts : directions = [] ∨ R.sorts)
    (h : Forall₂ (fun p q => A p.1 q.1 ∧ R.KeysLike n p.2 q.2) xs ys) :
    R.Coupled f g (Forall₂ A) (Exec.sorted size directions xs) (Exec.sorted size directions ys) := by
  have hrel : Forall₂ (fun p q => A p.1 q.1 ∧ Forall₂ R.value p.2 q.2) xs ys :=
    h.imp fun _ _ h => ⟨h.1, h.2.2⟩
  have hlength : ∀ p ∈ xs, p.2.length = n := fun p hp => by
    obtain ⟨q, hpq⟩ := (exists_of_mem h).1 p hp
    exact hpq.2.1
  have hsorted := sortByKeys_rel laws size directions hrel
  unfold Exec.sorted
  generalize hxs : sortByKeys size directions xs = o at hsorted ⊢
  generalize sortByKeys size directions ys = o' at hsorted ⊢
  cases hsorted with
  | none =>
    rcases hsorts with rfl | hsorts
    · exact nomatch hxs.symm.trans (sortBy_nil size Prod.snd xs)
    · refine .throw fun _ _ hl => .disorder hsorts (disordered_of_sortBy hxs fun p hp q hq => ?_)
        (rel_map (fun _ _ h => h.2) hrel) hl
      rw [hlength p hp, hlength q hq]
  | some hsorted => exact .pure (rel_map (fun _ _ h => h.1) hsorted)

end Coupling

section Groups

variable {α β : Type} {A : α → β → Prop}

theorem add_rel (key : String) {x : α} {y : β} (hxy : A x y) {groups : Groups α}
    {groups' : Groups β} (h : Forall₂ (Keyed (Forall₂ A)) groups groups') :
    Forall₂ (Keyed (Forall₂ A)) (Groups.add key x groups) (Groups.add key y groups') := by
  induction h with
  | nil => exact .cons ⟨rfl, .cons hxy .nil⟩ .nil
  | @cons p q _ _ h hs ih =>
    simp only [Groups.add, h.1]
    split
    · exact .cons ⟨rfl, rel_append h.2 (.cons hxy .nil)⟩ hs
    · exact .cons ⟨rfl, h.2⟩ ih

/-- Items of equal keys form groups of equal keys. -/
theorem ofList_rel {items : List (String × α)} {items' : List (String × β)}
    (h : Forall₂ (Keyed A) items items') :
    Forall₂ (Keyed (Forall₂ A)) (Groups.ofList items) (Groups.ofList items') := by
  refine rel_foldl (P := Forall₂ (Keyed (Forall₂ A))) (R := Keyed A) ?_ .nil h
  intro groups groups' hgroups p q hpq
  dsimp only
  rw [hpq.1]
  exact add_rel q.1 hpq.2 hgroups

theorem find_rel (key : String) {groups : Groups α} {groups' : Groups β}
    (h : Forall₂ (Keyed (Forall₂ A)) groups groups') :
    Forall₂ A (groups.find key) (groups'.find key) :=
  getD_rel (lookup_rel key h) .nil

theorem distinctFrom_rel {key : α → String} {key' : β → String}
    (hkey : ∀ a b, A a b → key a = key' b) (seen : List String) {xs : List α} {ys : List β}
    (h : Forall₂ A xs ys) :
    Forall₂ A (distinctFrom key seen xs) (distinctFrom key' seen ys) := by
  induction h generalizing seen with
  | nil => exact .nil
  | cons h _ ih =>
    simp only [distinctFrom, hkey _ _ h]
    split
    · exact ih seen
    · exact .cons h (ih _)

theorem distinctBy_rel {key : α → String} {key' : β → String}
    (hkey : ∀ a b, A a b → key a = key' b) {xs : List α} {ys : List β} (h : Forall₂ A xs ys) :
    Forall₂ A (distinctBy key xs) (distinctBy key' ys) :=
  distinctFrom_rel hkey [] h

end Groups

end RowQuery
