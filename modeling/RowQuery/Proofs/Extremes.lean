/-
# The least and the greatest of a group

The least of some numbers is found by going through them and taking another one where it is
less. Being less is transitive, though being equal is not, so no number is less than the one
that is left.

The greatest is found by taking another one where it is not less. A floating-point number is
so taken in place of an integer that equals it, and a smaller integer that equals it too in
place of the floating-point number. The first integer is *forgotten*: it is greater than the
greatest. Nothing else goes wrong, and this only where a floating-point number equals two
integers, one of which has more than 53 bits.

Key definitions: `Number.Displaced`, `Number.Forgotten`.
Key theorems: `Number.compare_gt_trans`, `Number.least_foldl`, `Number.greatest_bounds`,
`Number.forgotten_iff`, `extremes_bound_group`, `greatest_forgets`.
-/
import RowQuery.Evaluation.Statement
import RowQuery.Proofs.Aggregate
import RowQuery.Proofs.Value.Preorder
import RowQuery.Source.Memory

namespace RowQuery

open List

attribute [local irreducible] Binary64.one Binary64.limit

namespace Number

/-! ### Greater numbers -/

instance : Std.OrientedCmp Number.compare := ⟨fun {a b} => (compare_swap b a).symm⟩

section Greater

variable {m n k : Number}

theorem compare_self_isLE (n : Number) : (n.compare n).isLE :=
  Ordering.isLE_of_eq_eq Std.ReflCmp.compare_self

/-- **Being greater is transitive**, also where a floating-point number equals two integers. -/
theorem compare_gt_trans (hm : m.isNaN = false) (hn : n.isNaN = false) (hk : k.isNaN = false)
    (hmn : m.compare n = .gt) (hnk : n.compare k = .gt) : m.compare k = .gt := by
  by_contra hmk
  have hle : (m.compare k).isLE := Ordering.isLE_iff_ne_gt.2 hmk
  have hkn : k.compare n = .lt := Std.OrientedCmp.lt_of_gt hnk
  have hkn' : (k.compare n).isLE := Ordering.isLE_of_eq_lt hkn
  rcases isLE_trans_or hm hk hn hle hkn' with h | ⟨_, _, _, _, _, _, _, _, h⟩
  · exact Ordering.isLE_iff_ne_gt.1 h hmn
  · rw [hkn] at h
    cases h

theorem compare_float_eq_iff {x : Binary64} (hm : m.isNaN = false)
    (hx : (float x).isNaN = false) : m.compare (float x) = .eq ↔ m.place = (float x).place := by
  rw [compare_float_right hm hx, Std.compare_eq_iff_eq]

theorem compare_float_isLE_iff {x : Binary64} (hm : m.isNaN = false)
    (hx : (float x).isNaN = false) :
    (m.compare (float x)).isLE ↔ m.place ≤ (float x).place := by
  rw [compare_float_right hm hx, Std.isLE_compare]

/-- At one place on the line, only integers are greater than others. -/
theorem integers_of_gt (hm : m.isNaN = false) (hn : n.isNaN = false)
    (hplace : m.place = n.place) (h : m.compare n = .gt) :
    ∃ a b : Int64, m = integer a ∧ n = integer b ∧ b < a := by
  cases m with
  | float x =>
    rw [compare_float_left hm hn, hplace, Std.compare_self] at h
    cases h
  | integer a =>
    cases n with
    | float y =>
      rw [compare_float_right hm hn, hplace, Std.compare_self] at h
      cases h
    | integer b =>
      have hab : b.toInt < a.toInt := Std.compare_eq_gt.1 h
      exact ⟨a, b, rfl, rfl, Int64.lt_iff_toInt_lt.2 hab⟩

end Greater

/-! ### Choosing -/

theorem greatest_of_gt {m n : Number} (h : m.compare n = .gt) : greatest m n = m := by
  simp [greatest, h]

theorem greatest_of_not_gt {m n : Number} (h : m.compare n ≠ .gt) : greatest m n = n := by
  simp [greatest, h]

/-- What all numbers have, those have that are left after a choice between the first two. -/
theorem forall_mem_choice {p : Number → Prop} {choose : Number → Number → Number}
    (hchoose : ∀ m n, choose m n = m ∨ choose m n = n) {n k : Number} {rest : List Number}
    (h : ∀ x ∈ n :: k :: rest, p x) : ∀ x ∈ choose n k :: rest, p x := by
  obtain ⟨hn, hrest⟩ := forall_mem_cons.1 h
  obtain ⟨hk, hrest⟩ := forall_mem_cons.1 hrest
  refine forall_mem_cons.2 ⟨?_, hrest⟩
  rcases hchoose n k with heq | heq
  · rwa [heq]
  · rwa [heq]

/-! ### The least -/

/-- **No number is less than the least.** The number that the search began with is kept, or is
greater than the one that is left. -/
theorem least_foldl : ∀ (rest : List Number) (n : Number), (∀ k ∈ n :: rest, k.isNaN = false) →
    (rest.foldl least n = n ∨ n.compare (rest.foldl least n) = .gt) ∧
      ∀ k ∈ rest, ((rest.foldl least n).compare k).isLE
  | [], _, _ => ⟨.inl rfl, forall_mem_nil _⟩
  | k :: rest, n, hnan => by
    have hn : n.isNaN = false := hnan n (by simp)
    have hk : k.isNaN = false := hnan k (by simp)
    have hnext := forall_mem_choice least_eq_or hnan
    obtain ⟨hkept, hbound⟩ := least_foldl rest (least n k) hnext
    have hr : (rest.foldl least (least n k)).isNaN = false :=
      hnext _ (foldl_mem least_eq_or rest _)
    rw [foldl_cons]
    by_cases hgt : n.compare k = .gt
    · -- the search goes on with the lesser number
      have hleast : least n k = k := by simp [least, hgt]
      rw [hleast] at hkept hbound hr ⊢
      have hlower : n.compare (rest.foldl least k) = .gt := by
        rcases hkept with heq | hlt
        · rwa [heq]
        · exact compare_gt_trans hn hk hr hgt hlt
      have hle : ((rest.foldl least k).compare k).isLE := by
        rcases hkept with heq | hlt
        · rw [heq]
          exact compare_self_isLE k
        · exact Ordering.isLE_of_eq_lt (Std.OrientedCmp.lt_of_gt hlt)
      exact ⟨.inr hlower, forall_mem_cons.2 ⟨hle, hbound⟩⟩
    · have hleast : least n k = n := by simp [least, hgt]
      rw [hleast] at hkept hbound hr ⊢
      have hle : ((rest.foldl least n).compare k).isLE := by
        rw [Ordering.isLE_iff_ne_gt]
        rcases hkept with heq | hlt
        · rwa [heq]
        · exact fun hrk => hgt (compare_gt_trans hn hr hk hlt hrk)
      exact ⟨hkept, forall_mem_cons.2 ⟨hle, hbound⟩⟩

/-- The least is one of the numbers, and none is less. -/
theorem isLE_of_least? {numbers : List Number} {r : Number} (h : least? numbers = some r)
    (hnan : ∀ n ∈ numbers, n.isNaN = false) : ∀ n ∈ numbers, (r.compare n).isLE := by
  cases numbers with
  | nil => cases h
  | cons n rest =>
    obtain rfl := Option.some.inj h
    obtain ⟨hkept, hbound⟩ := least_foldl rest n hnan
    refine forall_mem_cons.2 ⟨?_, hbound⟩
    rcases hkept with heq | hlt
    · rw [heq]
      exact compare_self_isLE n
    · exact Ordering.isLE_of_eq_lt (Std.OrientedCmp.lt_of_gt hlt)

/-! ### The greatest -/

/-- The greatest is as far on the line as any number. -/
theorem place_le_foldl : ∀ (rest : List Number) (n : Number),
    (∀ k ∈ n :: rest, k.isNaN = false) →
    ∀ k ∈ n :: rest, k.place ≤ (rest.foldl greatest n).place
  | [], n, _ => by simp
  | k :: rest, n, hnan => by
    have hn : n.isNaN = false := hnan n (by simp)
    have hk : k.isNaN = false := hnan k (by simp)
    obtain ⟨hfirst, hothers⟩ := forall_mem_cons.1
      (place_le_foldl rest (greatest n k) (forall_mem_choice greatest_eq_or hnan))
    rw [foldl_cons]
    by_cases hgt : n.compare k = .gt
    · have hkn : k.place ≤ n.place :=
        place_le_of_isLE hk hn (Ordering.isLE_of_eq_lt (Std.OrientedCmp.lt_of_gt hgt))
      rw [greatest_of_gt hgt] at hfirst hothers ⊢
      exact forall_mem_cons.2 ⟨hfirst, forall_mem_cons.2 ⟨hkn.trans hfirst, hothers⟩⟩
    · have hnk : n.place ≤ k.place := place_le_of_isLE hn hk (Ordering.isLE_iff_ne_gt.2 hgt)
      rw [greatest_of_not_gt hgt] at hfirst hothers ⊢
      exact forall_mem_cons.2 ⟨hnk.trans hfirst, forall_mem_cons.2 ⟨hfirst, hothers⟩⟩

/-- The number that the search began with is left only if it is greater than all others. -/
theorem foldl_greatest_mem_or : ∀ (rest : List Number) (n : Number),
    rest.foldl greatest n ∈ rest ∨ ∀ k ∈ rest, n.compare k = .gt
  | [], _ => .inr (forall_mem_nil _)
  | k :: rest, n => by
    rw [foldl_cons]
    by_cases hgt : n.compare k = .gt
    · rw [greatest_of_gt hgt]
      rcases foldl_greatest_mem_or rest n with hmem | hall
      · exact .inl (mem_cons_of_mem _ hmem)
      · exact .inr (forall_mem_cons.2 ⟨hgt, hall⟩)
    · rw [greatest_of_not_gt hgt]
      exact .inl (foldl_mem greatest_eq_or rest k)

/-- **The greatest bounds the numbers** if no floating-point number that comes after the first is as
far on the line as this one, which is as far as any. -/
theorem greatest_bounds : ∀ (rest : List Number) (n : Number),
    (∀ k ∈ n :: rest, k.isNaN = false) → (∀ k ∈ rest, k.place ≤ n.place) →
    (∀ x, float x ∈ rest → (float x).place ≠ n.place) →
    ∀ k ∈ n :: rest, (k.compare (rest.foldl greatest n)).isLE
  | [], n, _, _, _ => forall_mem_singleton.2 (compare_self_isLE n)
  | k :: rest, n, hnan, hfar, hfloat => by
    have hn : n.isNaN = false := hnan n (by simp)
    have hk : k.isNaN = false := hnan k (by simp)
    have hnext := forall_mem_choice greatest_eq_or hnan
    have hr := hnext _ (foldl_mem greatest_eq_or rest _)
    rw [foldl_cons]
    by_cases hgt : n.compare k = .gt
    · rw [greatest_of_gt hgt] at hnext hr ⊢
      obtain ⟨hfirst, hothers⟩ := forall_mem_cons.1 (greatest_bounds rest n hnext
        (fun m hm => hfar m (mem_cons_of_mem _ hm)) fun x hx => hfloat x (mem_cons_of_mem _ hx))
      have hkr : (k.compare (rest.foldl greatest n)).isLE := by
        rw [Ordering.isLE_iff_ne_gt]
        intro hkr
        exact Ordering.isLE_iff_ne_gt.1 hfirst (compare_gt_trans hn hk hr hgt hkr)
      exact forall_mem_cons.2 ⟨hfirst, forall_mem_cons.2 ⟨hkr, hothers⟩⟩
    · rw [greatest_of_not_gt hgt] at hnext hr ⊢
      have hnk : (n.compare k).isLE := Ordering.isLE_iff_ne_gt.2 hgt
      have hplace : k.place = n.place :=
        le_antisymm (hfar k mem_cons_self) (place_le_of_isLE hn hk hnk)
      obtain ⟨hfirst, hothers⟩ := forall_mem_cons.1 (greatest_bounds rest k hnext
        (fun m hm => hplace ▸ hfar m (mem_cons_of_mem _ hm))
        fun x hx => hplace ▸ hfloat x (mem_cons_of_mem _ hx))
      have hnr : (n.compare (rest.foldl greatest k)).isLE := by
        rcases isLE_trans_or hn hk hr hnk hfirst with hle | ⟨_, _, x, _, hx, _⟩
        · exact hle
        · -- a floating-point number between two integers is as far as the first
          subst hx
          exact absurd hplace (hfloat x mem_cons_self)
      exact forall_mem_cons.2 ⟨hnr, forall_mem_cons.2 ⟨hfirst, hothers⟩⟩

/-- When a number is reached, the search goes on with it, or with one before that is greater. -/
theorem greatest?_append : ∀ (before : List Number) (k : Number) (after : List Number),
    ∃ c, greatest? (before ++ k :: after) = some (after.foldl greatest c) ∧
      (c = k ∨ c ∈ before ∧ c.compare k = .gt)
  | [], k, after => ⟨k, rfl, .inl rfl⟩
  | n :: before, k, after => by
    have hfold : greatest? (n :: before ++ k :: after) =
        some (after.foldl greatest (greatest (before.foldl greatest n) k)) := by
      simp [greatest?]
    refine ⟨_, hfold, ?_⟩
    by_cases hgt : (before.foldl greatest n).compare k = .gt
    · rw [greatest_of_gt hgt]
      exact .inr ⟨foldl_mem greatest_eq_or before n, hgt⟩
    · exact .inl (greatest_of_not_gt hgt)

/-! ### What is forgotten -/

/-- A floating-point number takes the place of an integer before it, which it equals, and gives it
to integers after it, which it equals too and which are less. No number is greater than it. -/
structure Displaced (before : List Number) (x : Binary64) (after : List Number) (a : Int64) :
    Prop where
  mem : integer a ∈ before
  same : (integer a).compare (float x) = .eq
  top : ∀ n ∈ before ++ after, (n.compare (float x)).isLE
  later : ∃ n ∈ after, n.compare (float x) = .eq
  less : ∀ n ∈ after, n.compare (float x) = .eq → ∃ b, n = integer b ∧ b < a

/-- An integer in whose place there is a smaller one when all numbers have been seen. -/
def Forgotten (numbers : List Number) (a : Int64) : Prop :=
  ∃ before x after, numbers = before ++ float x :: after ∧ Displaced before x after a

/-- A list in which an item of a kind occurs, taken apart at the last such item. -/
theorem exists_last {p : Number → Prop} {numbers : List Number} (h : ∃ n ∈ numbers, p n) :
    ∃ before n after, numbers = before ++ n :: after ∧ p n ∧ ∀ k ∈ after, ¬ p k := by
  induction numbers with
  | nil =>
    obtain ⟨n, hn, -⟩ := h
    exact absurd hn not_mem_nil
  | cons k rest ih =>
    by_cases hrest : ∃ n ∈ rest, p n
    · obtain ⟨before, n, after, rfl, hn, hafter⟩ := ih hrest
      exact ⟨k :: before, n, after, rfl, hn, hafter⟩
    · obtain ⟨n, hn, hp⟩ := h
      rcases mem_cons.1 hn with rfl | hn
      · exact ⟨[], n, rest, rfl, hp, fun m hm hpm => hrest ⟨m, hm, hpm⟩⟩
      · exact absurd ⟨n, hn, hp⟩ hrest

section Forgotten

variable {numbers : List Number} {r : Number} {a : Int64}

/-- Once a floating-point number is reached that none exceeds, the search goes on with it. -/
theorem greatest?_of_top {before after : List Number} {x : Binary64}
    (h : greatest? (before ++ float x :: after) = some r)
    (htop : ∀ n ∈ before ++ after, (n.compare (float x)).isLE) :
    r = after.foldl greatest (float x) := by
  obtain ⟨c, hgreatest, hc⟩ := greatest?_append before (float x) after
  obtain rfl := Option.some.inj (h.symm.trans hgreatest)
  rcases hc with rfl | ⟨hmem, hgt⟩
  · rfl
  · exact absurd hgt (Ordering.isLE_iff_ne_gt.1 (htop c (mem_append_left _ hmem)))

/-- An integer that is forgotten is greater than what is left. -/
theorem gt_of_forgotten (h : greatest? numbers = some r) (hnan : ∀ n ∈ numbers, n.isNaN = false)
    (ha : Forgotten numbers a) : (integer a).compare r = .gt := by
  obtain ⟨before, x, after, rfl, hd⟩ := ha
  have hx : (float x).isNaN = false := hnan _ (by simp)
  have hafter : ∀ k ∈ float x :: after, k.isNaN = false := fun k hk =>
    hnan k (mem_append_right _ hk)
  obtain rfl := greatest?_of_top h hd.top
  have hmem : after.foldl greatest (float x) ∈ after := by
    rcases foldl_greatest_mem_or after (float x) with hmem | hall
    · exact hmem
    · obtain ⟨n, hn, heq⟩ := hd.later
      have hgt := hall n hn
      rw [Std.OrientedCmp.eq_symm heq] at hgt
      cases hgt
  have hr := hafter _ (mem_cons_of_mem _ hmem)
  have hfar : (float x).place ≤ (after.foldl greatest (float x)).place :=
    place_le_foldl after (float x) hafter _ mem_cons_self
  have hnear : (after.foldl greatest (float x)).place ≤ (float x).place :=
    (compare_float_isLE_iff hr hx).1 (hd.top _ (mem_append_right _ hmem))
  obtain ⟨b, hb, hba⟩ := hd.less _ hmem ((compare_float_eq_iff hr hx).2 (le_antisymm hnear hfar))
  rw [hb]
  exact Std.compare_eq_gt.2 (Int64.lt_iff_toInt_lt.1 hba)

/-- An integer is kept, or given up for greater ones only, if no floating-point number that comes
after it is at its place. -/
theorem isLE_of_no_float {front back : List Number} {k : Number}
    (h : greatest? (front ++ k :: back) = some r)
    (hnan : ∀ n ∈ front ++ k :: back, n.isNaN = false)
    (hfar : ∀ n ∈ front ++ k :: back, n.place ≤ r.place) (hplace : k.place = r.place)
    (hfloat : ∀ x, float x ∈ back → (float x).place ≠ r.place) : (k.compare r).isLE := by
  rw [Ordering.isLE_iff_ne_gt]
  intro hgt
  have hr : r.isNaN = false := hnan r (greatest?_mem h)
  have hk : k.isNaN = false := hnan k (by simp)
  obtain ⟨c, hgreatest, hc⟩ := greatest?_append front k back
  have hleft : r = back.foldl greatest c := Option.some.inj (h.symm.trans hgreatest)
  have hmem : c ∈ front ++ k :: back := by
    rcases hc with rfl | ⟨hmem, -⟩
    · simp
    · exact mem_append_left _ hmem
  have hcr : c.compare r = .gt := by
    rcases hc with rfl | ⟨-, hck⟩
    · exact hgt
    · exact compare_gt_trans (hnan c hmem) hk hr hck hgt
  have hcplace : c.place = r.place := by
    have hrc := place_le_of_isLE hr (hnan c hmem)
      (Ordering.isLE_of_eq_lt (Std.OrientedCmp.lt_of_gt hcr))
    have hcr := hfar c hmem
    omega
  have hback : ∀ n ∈ back, n ∈ front ++ k :: back := fun n hn =>
    mem_append_right _ (mem_cons_of_mem _ hn)
  have hbound := greatest_bounds back c
    (forall_mem_cons.2 ⟨hnan c hmem, fun n hn => hnan n (hback n hn)⟩)
    (fun n hn => hcplace ▸ hfar n (hback n hn)) fun x hx => hcplace ▸ hfloat x hx
  have hle := hbound c mem_cons_self
  rw [← hleft] at hle
  exact Ordering.isLE_iff_ne_gt.1 hle hcr

/-- The last floating-point number at the place of the integer that is left takes the place of every
greater integer before it. -/
theorem displaced_of_last {before after : List Number} {x : Binary64} {b : Int64}
    (h : greatest? (before ++ float x :: after) = some (integer b))
    (hnan : ∀ n ∈ before ++ float x :: after, n.isNaN = false)
    (hfar : ∀ n ∈ before ++ float x :: after, n.place ≤ (integer b).place)
    (hx : (float x).place = (integer b).place)
    (hlast : ∀ y, float y ∈ after → (float y).place ≠ (integer b).place)
    (ha : integer a ∈ before) (hplace : (integer a).place = (integer b).place) (hba : b < a) :
    Displaced before x after a := by
  have hxnan : (float x).isNaN = false := hnan _ (by simp)
  have hbefore : ∀ n ∈ before, n.isNaN = false := fun n hn => hnan n (mem_append_left _ hn)
  have hafter : ∀ n ∈ float x :: after, n.isNaN = false := fun n hn =>
    hnan n (mem_append_right _ hn)
  have htop : ∀ n ∈ before ++ after, (n.compare (float x)).isLE := by
    intro n hn
    have hn : n ∈ before ++ float x :: after := by
      rcases mem_append.1 hn with hn | hn
      · exact mem_append_left _ hn
      · exact mem_append_right _ (mem_cons_of_mem _ hn)
    rw [compare_float_isLE_iff (hnan n hn) hxnan, hx]
    exact hfar n hn
  have hleft : integer b = after.foldl greatest (float x) := greatest?_of_top h htop
  have hmem : integer b ∈ after := by
    have hmem := foldl_mem greatest_eq_or after (float x)
    rw [← hleft] at hmem
    simpa using hmem
  have hbound := greatest_bounds after (float x) hafter
    (fun n hn => hx ▸ hfar n (mem_append_right _ (mem_cons_of_mem _ hn)))
    fun y hy => hx ▸ hlast y hy
  rw [← hleft] at hbound
  refine ⟨ha, ?_, htop, ⟨integer b, hmem, ?_⟩, fun n hn heq => ?_⟩
  · exact (compare_float_eq_iff (hbefore _ ha) hxnan).2 (hplace.trans hx.symm)
  · exact (compare_float_eq_iff (hafter _ (mem_cons_of_mem _ hmem)) hxnan).2 hx.symm
  · have hn' := mem_cons_of_mem (float x) hn
    cases n with
    | float y =>
      have hy := (compare_float_eq_iff (hafter _ hn') hxnan).1 heq
      exact absurd (hy.trans hx) (hlast y hn)
    | integer c =>
      have hcb : c.toInt ≤ b.toInt := Std.isLE_compare.1 (hbound _ hn')
      have hba : b.toInt < a.toInt := Int64.lt_iff_toInt_lt.1 hba
      exact ⟨c, rfl, Int64.lt_iff_toInt_lt.2 (by omega)⟩

/-- A number that is greater than what is left is an integer that is forgotten. -/
theorem forgotten_of_gt (h : greatest? numbers = some r) (hnan : ∀ n ∈ numbers, n.isNaN = false)
    {k : Number} (hk : k ∈ numbers) (hgt : k.compare r = .gt) :
    ∃ a, k = integer a ∧ Forgotten numbers a := by
  have hfar : ∀ n ∈ numbers, n.place ≤ r.place := by
    cases numbers with
    | nil => cases h
    | cons n rest =>
      obtain rfl := Option.some.inj h
      exact place_le_foldl rest n hnan
  have hr : r.isNaN = false := hnan r (greatest?_mem h)
  have hplace : k.place = r.place := by
    have hrk := place_le_of_isLE hr (hnan k hk)
      (Ordering.isLE_of_eq_lt (Std.OrientedCmp.lt_of_gt hgt))
    have hkr := hfar k hk
    omega
  obtain ⟨a, b, rfl, rfl, hba⟩ := integers_of_gt (hnan k hk) hr hplace hgt
  obtain ⟨front, back, rfl⟩ := append_of_mem hk
  by_cases hlast : ∃ n ∈ back, ∃ x, n = float x ∧ (float x).place = (integer b).place
  · obtain ⟨between, _, after, rfl, ⟨x, rfl, hx⟩, hnone⟩ := exists_last hlast
    have hsplit : front ++ integer a :: (between ++ float x :: after) =
        (front ++ integer a :: between) ++ float x :: after := by simp
    rw [hsplit] at h hnan hfar
    have hdisplaced := displaced_of_last h hnan hfar hx
      (fun y hy hplace => hnone _ hy ⟨y, rfl, hplace⟩) (by simp) hplace hba
    exact ⟨a, rfl, _, x, after, hsplit, hdisplaced⟩
  · have hle := isLE_of_no_float h hnan hfar hplace
      fun x hx hplace => hlast ⟨_, hx, x, rfl, hplace⟩
    exact absurd hgt (Ordering.isLE_iff_ne_gt.1 hle)

/-- **What is greater than the greatest** are the integers that are forgotten. -/
theorem gt_greatest_iff (h : greatest? numbers = some r) (hnan : ∀ n ∈ numbers, n.isNaN = false)
    {k : Number} (hk : k ∈ numbers) :
    k.compare r = .gt ↔ ∃ a, k = integer a ∧ Forgotten numbers a := by
  constructor
  · exact forgotten_of_gt h hnan hk
  · rintro ⟨a, rfl, ha⟩
    exact gt_of_forgotten h hnan ha

/-- Nothing is forgotten where no floating-point number equals two integers. -/
theorem not_forgotten_of_unequal
    (h : ∀ x a b, float x ∈ numbers → integer a ∈ numbers → integer b ∈ numbers →
      (integer a).compare (float x) = .eq → (integer b).compare (float x) = .eq → a = b) :
    ¬ Forgotten numbers a := by
  rintro ⟨before, x, after, rfl, hd⟩
  obtain ⟨n, hn, heq⟩ := hd.later
  obtain ⟨b, rfl, hba⟩ := hd.less n hn heq
  obtain rfl : a = b := h x a b (by simp) (mem_append_left _ hd.mem)
    (mem_append_right _ (mem_cons_of_mem _ hn)) hd.same heq
  exact Int64.lt_irrefl hba

theorem least?_eq_none_iff : least? numbers = none ↔ numbers = [] := by
  cases numbers <;> simp [least?]

theorem greatest?_eq_none_iff : greatest? numbers = none ↔ numbers = [] := by
  cases numbers <;> simp [greatest?]

end Forgotten

end Number

/-- **The least and the greatest bound a group**, but for what the greatest forgets. Let an argument
have values on the rows of a group, among whose numbers there is no not-a-number. Then MIN and MAX
have values, which are null exactly if there are no numbers, and else are numbers of the group. No
number is less than MIN. Exactly the integers that are forgotten are greater than MAX; there are
none if no floating-point number of the group equals two different integers of it. -/
theorem extremes_bound_group (run : Runner) (e : Expr) (rest : List Expr) (group : List Record)
    {values : List Value} {s s' : Session}
    (h : (group.mapM fun r => e.evaluate run r).run.run s = (.ok values, s'))
    (hnan : ∀ n ∈ values.filterMap Value.toNumber?, n.isNaN = false) :
    let numbers := values.filterMap Value.toNumber?
    ∃ low high : Value,
      (Expr.aggregate run (e :: rest) .min group).run.run s = (.ok low, s') ∧
      (Expr.aggregate run (e :: rest) .max group).run.run s = (.ok high, s') ∧
      (low = .null ↔ ∀ v ∈ values, v.toNumber? = none) ∧
      (high = .null ↔ ∀ v ∈ values, v.toNumber? = none) ∧
      (low ≠ .null → ∃ n ∈ numbers, low = .number n) ∧
      (high ≠ .null → ∃ n ∈ numbers, high = .number n) ∧
      (∀ n ∈ numbers, (Value.number n).compare low ≠ .lt) ∧
      (∀ n ∈ numbers, (Value.number n).compare high = .gt ↔
        ∃ a, n = .integer a ∧ Number.Forgotten numbers a) ∧
      ((∀ x a b, .float x ∈ numbers → .integer a ∈ numbers → .integer b ∈ numbers →
        (Value.integer a).compare (.float x) = .eq → (Value.integer b).compare (.float x) = .eq →
          a = b) → ∀ n ∈ numbers, (Value.number n).compare high ≠ .gt) := by
  intro numbers
  have hnone : numbers = [] ↔ ∀ v ∈ values, v.toNumber? = none := filterMap_eq_nil_iff
  have hsome : ∀ n ∈ numbers, numbers ≠ [] := fun n hn => ne_nil_of_mem hn
  have hgt : ∀ n ∈ numbers,
      (Value.number n).compare (Value.ofNumber? (Number.greatest? numbers)) = .gt ↔
        ∃ a, n = .integer a ∧ Number.Forgotten numbers a := by
    intro n hn
    obtain ⟨high, hhigh⟩ := Option.ne_none_iff_exists'.1
      (mt Number.greatest?_eq_none_iff.1 (hsome n hn))
    rw [hhigh]
    exact Number.gt_greatest_iff hhigh hnan hn
  refine ⟨_, _, Expr.aggregate_run h rest (by decide), Expr.aggregate_run h rest (by decide),
    ?_, ?_, fun hlow => ?_, fun hhigh => ?_, fun n hn => ?_, hgt, fun hequal n hn hforgotten => ?_⟩
  · rw [← hnone, ← Number.least?_eq_none_iff]
    exact Value.ofNumber?_eq_null_iff
  · rw [← hnone, ← Number.greatest?_eq_none_iff]
    exact Value.ofNumber?_eq_null_iff
  · obtain ⟨low, hleast, heq⟩ := Value.eq_some_of_ofNumber? hlow
    exact ⟨low, Number.least?_mem hleast, heq⟩
  · obtain ⟨high, hgreatest, heq⟩ := Value.eq_some_of_ofNumber? hhigh
    exact ⟨high, Number.greatest?_mem hgreatest, heq⟩
  · obtain ⟨low, hlow⟩ := Option.ne_none_iff_exists'.1
      (mt Number.least?_eq_none_iff.1 (hsome n hn))
    have hle := Number.isLE_of_least? hlow hnan n hn
    intro hlt
    change (Value.number n).compare (Value.ofNumber? (Number.least? numbers)) = .lt at hlt
    rw [hlow] at hlt
    exact Ordering.isLE_iff_ne_gt.1 hle (Std.OrientedCmp.gt_of_lt hlt)
  · obtain ⟨a, -, ha⟩ := (hgt n hn).1 hforgotten
    exact Number.not_forgotten_of_unequal hequal ha

/-- A group with an integer, null, a floating-point number and a string that writes an integer. -/
theorem extremes_bound_group_mixed :
    let run := (Engine.executor ⟨.memory [], {}⟩).executeTo 0
    let values : List Value := [.integer 3, .null, .float (.ofInt 2), .string "7"]
    let numbers := values.filterMap Value.toNumber?
    let group : List Record := values.map fun v => ⟨[("a", v)]⟩
    (group.mapM fun r => (Expr.identifier "a").evaluate run r).run.run .start =
        (.ok values, .start) ∧
      (∀ n ∈ numbers, n.isNaN = false) ∧
      ∃ low high : Value,
        (Expr.aggregate run [.identifier "a"] .min group).run.run .start = (.ok low, .start) ∧
        (Expr.aggregate run [.identifier "a"] .max group).run.run .start = (.ok high, .start) ∧
        low ≠ .null ∧ high ≠ .null ∧
        ∀ n ∈ numbers,
          (Value.number n).compare low ≠ .lt ∧ (Value.number n).compare high ≠ .gt := by
  intro run values numbers group
  have hnumbers : numbers = [.integer 3, .float (.ofInt 2), .integer 7] := by decide +kernel
  have hvalues : (group.mapM fun r => (Expr.identifier "a").evaluate run r).run.run .start =
      (.ok values, .start) := by
    simp only [Expr.evaluate]
    rfl
  have hnan : ∀ n ∈ numbers, n.isNaN = false := by
    rw [hnumbers]
    decide +kernel
  obtain ⟨low, high, hlow, hhigh, hlowNull, hhighNull, -, -, hlower, -, hupper⟩ :=
    extremes_bound_group run (.identifier "a") [] group hvalues hnan
  have hsome : ¬ ∀ v ∈ values, v.toNumber? = none := by
    intro hnone
    cases hnone (.integer 3) mem_cons_self
  have hunequal : ∀ x a b, .float x ∈ numbers → .integer a ∈ numbers → .integer b ∈ numbers →
      (Value.integer a).compare (.float x) = .eq → (Value.integer b).compare (.float x) = .eq →
        a = b := by
    intro x a b hx ha _ heq
    rw [hnumbers] at hx ha
    obtain rfl : x = .ofInt 2 := by simpa using hx
    have hne : (Value.integer a).compare (.float (.ofInt 2)) ≠ .eq := by
      rcases (by simpa using ha : a = 3 ∨ a = 7) with rfl | rfl
      · decide +kernel
      · decide +kernel
    exact absurd heq hne
  exact ⟨hvalues, hnan, low, high, hlow, hhigh, mt hlowNull.1 hsome, mt hhighNull.1 hsome,
    fun n hn => ⟨hlower n hn, hupper hunequal n hn⟩⟩

/-- `2 ^ 53 + 1` is forgotten: the floating-point number `2 ^ 53` takes its place, and gives it to
the integer `2 ^ 53`. -/
theorem greatest_forgets :
    let run := (Engine.executor ⟨.memory [], {}⟩).executeTo 0
    let values : List Value := [.integer (2 ^ 53 + 1), .float (.ofInt (2 ^ 53)), .integer (2 ^ 53)]
    let group : List Record := values.map fun v => ⟨[("a", v)]⟩
    (Expr.aggregate run [.identifier "a"] .max group).run.run .start =
        (.ok (.integer (2 ^ 53)), .start) ∧
      (Value.integer (2 ^ 53 + 1)).compare (.integer (2 ^ 53)) = .gt := by
  intro run values group
  have hvalues : (group.mapM fun r => (Expr.identifier "a").evaluate run r).run.run .start =
      (.ok values, .start) := by
    simp only [Expr.evaluate]
    rfl
  have hgreatest : Number.greatest? (values.filterMap Value.toNumber?) =
      some (.integer (2 ^ 53)) := by decide +kernel
  have hmax : Aggregate.max.ofNumbers (values.filterMap Value.toNumber?) =
      .integer (2 ^ 53) := congrArg Value.ofNumber? hgreatest
  refine ⟨?_, by decide +kernel⟩
  rw [← hmax]
  exact Expr.aggregate_run hvalues [] (by decide)

end RowQuery
