/-
# Values and records read back from JSON

Values without floating-point numbers that are written as JSON are read back,
and so are records of such values: the same columns in the same order.

What is read from the front of a text does not depend on what follows, as long
as that does not go on with a number. Layout puts blanks between items, which
are skipped.

Key definitions: `Value.Exact`, `Value.nesting`, `Json.Reads`, `Json.following`.
Key theorems: `Json.bracketed?_wrap`, `Json.reads_value`, `Json.reads_record`,
`Json.read?_ofRecords`.
-/
import RowQuery.Proofs.Columns
import RowQuery.Proofs.Json.Scalar
import Mathlib.Data.List.Forall2
import Mathlib.Data.String.Basic

namespace RowQuery

open List

/-! ### Values that text tells exactly -/

/-- Values without floating-point numbers at any depth, in which objects have their fields in order
of their names. -/
inductive Value.Exact : Value → Prop where
  | null : Exact .null
  | boolean (b : Bool) : Exact (.boolean b)
  | integer (n : Int64) : Exact (.integer n)
  | string (s : String) : Exact (.string s)
  | array {items : List Value} (items_exact : ∀ v ∈ items, Exact v) : Exact (.array items)
  | object {fields : List (String × Value)} (sorted : fields.Pairwise (·.1 < ·.1))
    (fields_exact : ∀ p ∈ fields, Exact p.2) : Exact (.object fields)

mutual

/-- How many levels of arrays and objects a value has. -/
def Value.nesting : Value → Nat
  | .null => 0
  | .boolean _ => 0
  | .number _ => 0
  | .string _ => 0
  | .array items => itemsNesting items + 1
  | .object fields => fieldsNesting fields + 1

def itemsNesting : List Value → Nat
  | [] => 0
  | v :: rest => max v.nesting (itemsNesting rest)

def fieldsNesting : List (String × Value) → Nat
  | [] => 0
  | (_, v) :: rest => max v.nesting (fieldsNesting rest)

end

theorem nesting_le_of_mem_items {v : Value} : ∀ {items : List Value}, v ∈ items →
    v.nesting ≤ itemsNesting items
  | w :: rest, h => by
    rw [itemsNesting]
    rcases mem_cons.1 h with rfl | h
    · exact Nat.le_max_left _ _
    · exact Nat.le_trans (nesting_le_of_mem_items h) (Nat.le_max_right _ _)

theorem nesting_le_of_mem_fields {p : String × Value} : ∀ {fields : List (String × Value)},
    p ∈ fields → p.2.nesting ≤ fieldsNesting fields
  | (_, v) :: rest, h => by
    rw [fieldsNesting]
    rcases mem_cons.1 h with rfl | h
    · exact Nat.le_max_left _ _
    · exact Nat.le_trans (nesting_le_of_mem_fields h) (Nat.le_max_right _ _)

/-! ### Objects of fields in order -/

/-- A field whose name is greater than all others goes to the end. -/
theorem Value.insertField_of_lt {name : String} {value : Value} :
    ∀ {fields : List (String × Value)}, (∀ p ∈ fields, p.1 < name) →
    Value.insertField name value fields = fields ++ [(name, value)]
  | [], _ => rfl
  | (n, v) :: rest, h => by
    have hlt : n < name := h (n, v) mem_cons_self
    have hrest := @insertField_of_lt name value rest fun p hp => h p (mem_cons_of_mem _ hp)
    rw [Value.insertField, if_neg (ne_of_gt hlt), if_neg (lt_asymm hlt), hrest]
    rfl

/-- Fields in order make the object that has them. -/
theorem Value.ofFields_of_sorted {fields : List (String × Value)}
    (h : fields.Pairwise (·.1 < ·.1)) : Value.ofFields fields = .object fields := by
  have hfold : ∀ rest front : List (String × Value), (front ++ rest).Pairwise (·.1 < ·.1) →
      rest.foldl (fun sorted p => insertField p.1 p.2 sorted) front = front ++ rest := by
    intro rest
    induction rest with
    | nil => intro front _; simp
    | cons p rest ih =>
      intro front hsorted
      have hlt : ∀ q ∈ front, q.1 < p.1 := fun q hq =>
        (pairwise_append.1 hsorted).2.2 q hq p mem_cons_self
      rw [foldl_cons, insertField_of_lt hlt, ih _ (by simpa using hsorted), append_assoc]
      rfl
  have hall : fields.foldl (fun sorted p => insertField p.1 p.2 sorted) [] = fields := hfold fields [] h
  exact congrArg Value.object hall

namespace Json

/-! ### Blanks -/

theorem skipSpace_of_not {c : Char} (h : isSpace c = false) (rest : List Char) :
    skipSpace (c :: rest) = c :: rest := by
  unfold skipSpace
  rw [dropWhile_cons, h, if_neg (by decide)]

theorem skipSpace_append {blanks : List Char} (h : ∀ c ∈ blanks, isSpace c = true)
    (rest : List Char) : skipSpace (blanks ++ rest) = skipSpace rest :=
  dropWhile_append_of_pos h

/-- Blanks and what does not go on with a number stop a number. -/
theorem stops_append {blanks rest : List Char} (h : ∀ c ∈ blanks, isSpace c = true)
    (hrest : Stops rest) : Stops (blanks ++ rest) := by
  cases blanks with
  | nil => exact hrest
  | cons c blanks =>
    have hc := h c mem_cons_self
    simp only [isSpace, Bool.or_eq_true, beq_iff_eq] at hc
    refine stops_cons ?_ _
    rcases hc with ((rfl | rfl) | rfl) | rfl
    · decide
    · decide
    · decide
    · decide

/-! ### Texts that read back -/

/-- Something with a property is read from the front of a text, whatever stops it. The text starts
with a character that is neither blank nor a closing bracket. -/
structure Reads {α : Type} (front : Front α) (text : List Char) (p : α → Prop) : Prop where
  starts : ∃ c rest, text = c :: rest ∧ isSpace c = false ∧ c ≠ ']' ∧ c ≠ '\x7d'
  reads : ∀ rest, Stops rest → ∃ a, front (text ++ rest) = some (a, rest) ∧ p a

namespace Reads

variable {α : Type} {front : Front α} {text : List Char} {p : α → Prop}

theorem skipSpace (h : Reads front text p) {blanks : List Char}
    (hblanks : ∀ c ∈ blanks, isSpace c = true) (rest : List Char) :
    skipSpace (blanks ++ (text ++ rest)) = text ++ rest := by
  obtain ⟨c, more, rfl, hc, -⟩ := h.starts
  rw [skipSpace_append hblanks, cons_append, skipSpace_of_not hc]

theorem mono {q : α → Prop} (h : Reads front text p) (hpq : ∀ a, p a → q a) : Reads front text q :=
  ⟨h.starts, fun rest hrest =>
    let ⟨a, hread, ha⟩ := h.reads rest hrest
    ⟨a, hread, hpq a ha⟩⟩

end Reads

/-! ### Items between brackets -/

/-- The items after the first one, each with a comma and blanks in front. -/
def following (blanks : List Char) : List (List Char) → List Char
  | [] => []
  | item :: rest => ',' :: (blanks ++ (item ++ following blanks rest))

theorem length_le_following (blanks : List Char) : ∀ items : List (List Char),
    items.length ≤ (following blanks items).length
  | [] => Nat.le_refl _
  | item :: rest => by
    have hrest := length_le_following blanks rest
    simp only [following, length_cons, length_append]
    omega

theorem join_eq (newline blanks : List Char) : ∀ (item : List Char) (rest : List (List Char)),
    join (',' :: newline) ((item :: rest).map (blanks ++ ·)) =
      blanks ++ (item ++ following (newline ++ blanks) rest)
  | item, [] => by simp [join, following]
  | item, next :: rest => by
    have hrest := join_eq newline blanks next rest
    rw [map_cons] at hrest ⊢
    rw [map_cons, join, hrest, following]
    · simp
    · nofun

/-- Layout puts nothing but blanks around items. -/
theorem wrap_eq (style : Style) (opening closing : Char) (item : List Char)
    (rest : List (List Char)) (level : Nat) : ∃ before after : List Char,
    (∀ c ∈ before, isSpace c = true) ∧ (∀ c ∈ after, isSpace c = true) ∧
    wrap style opening closing (item :: rest) level =
      opening :: (before ++ (item ++ (following before rest ++ (after ++ [closing])))) := by
  have hindentation : ∀ n, ∀ c ∈ indentation n, isSpace c = true := by
    intro n c hc
    rw [eq_of_mem_replicate hc]
    rfl
  have hline : ∀ n, ∀ c ∈ '\n' :: indentation n, isSpace c = true := by
    intro n c hc
    rcases mem_cons.1 hc with rfl | hc
    · rfl
    · exact hindentation n c hc
  unfold wrap
  rw [isEmpty_cons, if_neg (by decide)]
  split
  · refine ⟨'\n' :: indentation (level + 1), '\n' :: indentation level, hline _, hline _, ?_⟩
    have hjoin := join_eq ['\n'] (indentation (level + 1)) item rest
    dsimp only
    rw [hjoin]
    simp
  · refine ⟨[], [], by simp, by simp, ?_⟩
    have hjoin := join_eq [] [] item rest
    simp only [nil_append, map_id'] at hjoin
    rw [hjoin]
    simp

section Items

variable {α β : Type} {item : Front α} {text : β → List Char} {p : β → α → Prop} {closing : Char}
  {before after : List Char} (hclosing : closing = ']' ∨ closing = '\x7d')
  (hbefore : ∀ c ∈ before, isSpace c = true) (hafter : ∀ c ∈ after, isSpace c = true)

include hclosing hbefore hafter

/-- Items read back one after the other, up to the closing bracket. -/
theorem items?_following : ∀ {n : Nat} (x : β) (xs : List β), xs.length < n →
    (∀ y ∈ x :: xs, Reads item (text y) (p y)) → ∀ rest, ∃ as,
    items? closing item n
      (text x ++ (following before (xs.map text) ++ (after ++ closing :: rest))) = some (as, rest) ∧
    Forall₂ p (x :: xs) as
  | n + 1, x, [], _, hreads, rest => by
    have hstops : Stops (after ++ closing :: rest) := by
      refine stops_append hafter (stops_cons ?_ rest)
      rcases hclosing with rfl | rfl
      · decide
      · decide
    have hspace : isSpace closing = false := by
      rcases hclosing with rfl | rfl
      · rfl
      · rfl
    obtain ⟨a, hread, ha⟩ := (hreads x mem_cons_self).reads _ hstops
    refine ⟨[a], ?_, .cons ha .nil⟩
    rw [map_nil, following, nil_append, items?, hread, Option.bind_eq_bind, Option.bind_some]
    dsimp only
    rw [skipSpace_append hafter, skipSpace_of_not hspace]
    dsimp only
    rw [if_pos rfl]
    rfl
  | n + 1, x, y :: xs, hn, hreads, rest => by
    have hcomma : ',' ≠ closing := by
      rcases hclosing with rfl | rfl
      · decide
      · decide
    have hy := hreads y (mem_cons_of_mem _ mem_cons_self)
    obtain ⟨as, hitems, has⟩ := items?_following y xs (Nat.lt_of_succ_lt_succ hn)
      (fun z hz => hreads z (mem_cons_of_mem _ hz)) rest
    have hstops : ∀ more, Stops (',' :: more) := fun more => stops_cons (by decide) more
    obtain ⟨a, hread, ha⟩ := (hreads x mem_cons_self).reads _ (hstops
      (before ++ (text y ++ (following before (xs.map text) ++ (after ++ closing :: rest)))))
    refine ⟨a :: as, ?_, .cons ha has⟩
    have htext : following before ((y :: xs).map text) ++ (after ++ closing :: rest) =
        ',' :: (before ++ (text y ++ (following before (xs.map text) ++ (after ++ closing :: rest)))) := by
      simp [following]
    rw [htext, items?, hread, Option.bind_eq_bind, Option.bind_some]
    dsimp only
    rw [skipSpace_of_not (by decide)]
    dsimp only
    rw [if_neg hcomma, if_pos rfl, hy.skipSpace hbefore, hitems]
    rfl

end Items

/-- **Items between brackets read back**, however they are laid out. -/
theorem bracketed?_wrap {α β : Type} {item : Front α} {text : β → List Char} {p : β → α → Prop}
    {xs : List β} (hreads : ∀ x ∈ xs, Reads item (text x) (p x)) (style : Style) (opening : Char)
    {closing : Char} (hclosing : closing = ']' ∨ closing = '\x7d') (level : Nat) :
    ∃ body, wrap style opening closing (xs.map text) level = opening :: body ∧
      ∀ rest, ∃ as, bracketed? closing item (body ++ rest) = some (as, rest) ∧ Forall₂ p xs as := by
  have hspace : isSpace closing = false := by
    rcases hclosing with rfl | rfl
    · rfl
    · rfl
  cases xs with
  | nil =>
    refine ⟨[closing], rfl, fun rest => ⟨[], ?_, .nil⟩⟩
    unfold bracketed?
    rw [cons_append, skipSpace_of_not hspace]
    dsimp only
    rw [if_pos rfl]
    rfl
  | cons x xs =>
    obtain ⟨before, after, hbefore, hafter, hwrap⟩ :=
      wrap_eq style opening closing (text x) (xs.map text) level
    refine ⟨_, hwrap, fun rest => ?_⟩
    have hx := hreads x mem_cons_self
    have hbody : (before ++ (text x ++ (following before (xs.map text) ++ (after ++ [closing])))) ++ rest =
        before ++ (text x ++ (following before (xs.map text) ++ (after ++ closing :: rest))) := by
      simp
    obtain ⟨c, more, htext, -, hc⟩ := hx.starts
    have hne : c ≠ closing := by
      rcases hclosing with rfl | rfl
      · exact hc.1
      · exact hc.2
    unfold bracketed?
    rw [hbody, hx.skipSpace hbefore]
    have hlength : xs.length <
        (more ++ (following before (xs.map text) ++ (after ++ closing :: rest))).length + 1 := by
      have hfollowing := length_le_following before (xs.map text)
      simp only [length_map, length_append] at hfollowing ⊢
      omega
    obtain ⟨as, hitems, has⟩ := items?_following hclosing hbefore hafter x xs hlength hreads rest
    refine ⟨as, ?_, has⟩
    rw [htext, cons_append] at hitems ⊢
    dsimp only
    rw [if_neg hne, hitems]

/-! ### Values -/

theorem itemsAt_eq (style : Style) (level : Nat) : ∀ items : List Value,
    itemsAt style items level = items.map (ofValueAt style · level)
  | [] => by rw [itemsAt, map_nil]
  | v :: rest => by rw [itemsAt, itemsAt_eq style level rest, map_cons]

theorem fieldsAt_eq (style : Style) (level : Nat) : ∀ fields : List (String × Value),
    fieldsAt style fields level = fields.map fun p => pair style p.1 (ofValueAt style p.2 level)
  | [] => by rw [fieldsAt, map_nil]
  | (name, v) :: rest => by rw [fieldsAt, fieldsAt_eq style level rest, map_cons]

theorem itemValues_eq {items : List Value} {documents : List Document}
    (h : Forall₂ (fun v d => d.toValue = v) items documents) :
    Document.itemValues documents = items := by
  induction h with
  | nil => rw [Document.itemValues]
  | cons hd _ ih => rw [Document.itemValues, hd, ih]

/-- A field that was read is the one that was written. -/
def FieldOf (p : String × Value) (q : String × Document) : Prop := q.1 = p.1 ∧ q.2.toValue = p.2

theorem fieldValues_eq {fields : List (String × Value)} {documents : List (String × Document)}
    (h : Forall₂ FieldOf fields documents) : Document.fieldValues documents = fields := by
  induction h with
  | nil => rw [Document.fieldValues]
  | cons hd _ ih =>
    obtain ⟨hname, hvalue⟩ := hd
    rw [Document.fieldValues, ih, hname, hvalue]

/-- A value without brackets is read in the same way at every depth. -/
theorem value?_scalar (depth : Nat) {c : Char} (hc : c ≠ '[' ∧ c ≠ '\x7b') (rest : List Char) :
    value? depth (c :: rest) = scalar? (c :: rest) := by
  cases depth with
  | zero => rfl
  | succ depth =>
    rw [value?]
    · intro _ heq
      exact hc.1 (List.cons.inj heq).1
    · intro _ heq
      exact hc.2 (List.cons.inj heq).1

theorem reads_string (s : String) (depth : Nat) :
    Reads (value? depth) (quote s) (·.toValue = .string s) where
  starts := ⟨_, _, rfl, rfl, by decide, by decide⟩
  reads rest _ := by
    refine ⟨.string s, ?_, by rw [Document.toValue]⟩
    have hstring := string?_quote s rest
    unfold quote at hstring ⊢
    rw [cons_append] at hstring ⊢
    rw [value?_scalar depth (by decide), scalar?, hstring]
    rfl

/-- An integer starts with a digit or a minus sign. -/
theorem ofInt_cons (n : Int) : ∃ c rest, Numeral.ofInt n = c :: rest ∧
    (c = '-' ∨ c.isDigit = true) := by
  cases h : Numeral.ofInt n with
  | nil => exact absurd h (Numeral.ofInt_ne_nil n)
  | cons c rest => exact ⟨c, rest, rfl, Numeral.mem_ofInt (h ▸ mem_cons_self)⟩

theorem reads_integer (n : Int64) (depth : Nat) :
    Reads (value? depth) (Numeral.ofInt n.toInt) (·.toValue = .integer n) := by
  obtain ⟨c, more, htext, hc⟩ := ofInt_cons n.toInt
  have hother : ∀ d : Char, d ≠ '-' → d.isDigit = false → c ≠ d := by
    rintro d hminus hdigit rfl
    rcases hc with hc | hc
    · exact hminus hc
    · rw [hdigit] at hc
      cases hc
  refine ⟨⟨c, more, htext, ?_, hother _ (by decide) (by decide), hother _ (by decide) (by decide)⟩,
    fun rest hrest => ⟨.number (.integer n), ?_, by rw [Document.toValue]⟩⟩
  · simp only [isSpace, Bool.or_eq_false_iff, beq_eq_false_iff_ne]
    exact ⟨⟨⟨hother _ (by decide) (by decide), hother _ (by decide) (by decide)⟩,
      hother _ (by decide) (by decide)⟩, hother _ (by decide) (by decide)⟩
  · have hnumber := number?_ofInt n hrest
    rw [htext, cons_append] at hnumber ⊢
    rw [value?_scalar depth ⟨hother _ (by decide) (by decide), hother _ (by decide) (by decide)⟩,
      scalar?, hnumber]
    · rfl
    all_goals
      intro _ heq
      exact hother _ (by decide) (by decide) (List.cons.inj heq).1

/-- A name and a value read back, if the value does. -/
theorem reads_field {depth : Nat} {name : String} {v : Value} {text : List Char} (style : Style)
    (h : Reads (value? depth) text (·.toValue = v)) :
    Reads (field? (value? depth)) (pair style name text) (FieldOf (name, v)) where
  starts := ⟨_, _, rfl, rfl, by decide, by decide⟩
  reads rest hrest := by
    obtain ⟨d, hread, hd⟩ := h.reads rest hrest
    refine ⟨(name, d), ?_, rfl, hd⟩
    obtain ⟨blanks, hblanks, hpair⟩ : ∃ blanks : List Char, (∀ c ∈ blanks, isSpace c = true) ∧
        pair style name text ++ rest = quote name ++ (':' :: (blanks ++ (text ++ rest))) := by
      unfold pair
      split
      · exact ⟨[' '], forall_mem_singleton.2 rfl, by simp⟩
      · exact ⟨[], by simp, by simp⟩
    unfold field?
    rw [hpair, string?_quote, Option.bind_eq_bind, Option.bind_some]
    dsimp only
    rw [skipSpace_of_not (by decide)]
    simp [h.skipSpace hblanks, hread]

/-- Fields between braces read back as an object, if their values do. -/
theorem reads_object {depth : Nat} {fields : List (String × Value)} (style : Style)
    (text : Value → List Char) (level : Nat)
    (h : ∀ p ∈ fields, Reads (value? depth) (text p.2) (·.toValue = p.2)) :
    Reads (value? (depth + 1)) (wrap style '\x7b' '\x7d' (fields.map fun p => pair style p.1 (text p.2)) level)
      fun d => ∃ documents, d = .object documents ∧ Document.fieldValues documents = fields := by
  have hfields : ∀ p ∈ fields,
      Reads (field? (value? depth)) (pair style p.1 (text p.2)) (FieldOf p) :=
    fun p hp => reads_field style (h p hp)
  obtain ⟨body, hwrap, hbody⟩ := bracketed?_wrap hfields style '\x7b' (.inr rfl) level
  rw [hwrap]
  refine ⟨⟨_, _, rfl, rfl, by decide, by decide⟩, fun rest _ => ?_⟩
  obtain ⟨documents, hread, hdocuments⟩ := hbody rest
  refine ⟨.object documents, ?_, documents, rfl, fieldValues_eq hdocuments⟩
  rw [cons_append, value?, hread]
  rfl

/-- **A value reads back** at every depth that is enough. -/
theorem reads_value (style : Style) {v : Value} (hv : v.Exact) : ∀ {depth : Nat} (level : Nat),
    v.nesting ≤ depth → Reads (value? depth) (ofValueAt style v level) (·.toValue = v) := by
  induction hv with
  | null =>
    intro depth level _
    rw [ofValueAt]
    refine ⟨⟨_, _, rfl, rfl, by decide, by decide⟩, fun rest _ => ⟨.null, ?_, by rw [Document.toValue]⟩⟩
    exact value?_scalar depth (by decide) _
  | boolean b =>
    intro depth level _
    cases b with
    | true =>
      rw [ofValueAt]
      refine ⟨⟨_, _, rfl, rfl, by decide, by decide⟩,
        fun rest _ => ⟨.boolean true, ?_, by rw [Document.toValue]⟩⟩
      exact value?_scalar depth (by decide) _
    | false =>
      rw [ofValueAt]
      refine ⟨⟨_, _, rfl, rfl, by decide, by decide⟩,
        fun rest _ => ⟨.boolean false, ?_, by rw [Document.toValue]⟩⟩
      exact value?_scalar depth (by decide) _
  | integer n =>
    intro depth level _
    rw [ofValueAt]
    exact reads_integer n depth
  | string s =>
    intro depth level _
    rw [ofValueAt]
    exact reads_string s depth
  | @array items _ ih =>
    intro depth level hdepth
    rw [Value.nesting] at hdepth
    obtain ⟨depth, rfl⟩ := Nat.exists_eq_succ_of_ne_zero (n := depth) (by omega)
    have hitems : ∀ v ∈ items, Reads (value? depth) (ofValueAt style v (level + 1)) (·.toValue = v) :=
      fun v hv => ih v hv (level + 1)
        (Nat.le_trans (nesting_le_of_mem_items hv) (Nat.le_of_succ_le_succ hdepth))
    obtain ⟨body, hwrap, hbody⟩ := bracketed?_wrap
      (p := fun (v : Value) (d : Document) => d.toValue = v) hitems style '[' (.inl rfl) level
    rw [ofValueAt, itemsAt_eq, hwrap]
    refine ⟨⟨_, _, rfl, rfl, by decide, by decide⟩, fun rest _ => ?_⟩
    obtain ⟨documents, hread, hdocuments⟩ := hbody rest
    refine ⟨.array documents, ?_, by rw [Document.toValue, itemValues_eq hdocuments]⟩
    rw [cons_append, value?, hread]
    rfl
  | @object fields hsorted _ ih =>
    intro depth level hdepth
    rw [Value.nesting] at hdepth
    obtain ⟨depth, rfl⟩ := Nat.exists_eq_succ_of_ne_zero (n := depth) (by omega)
    rw [ofValueAt, fieldsAt_eq]
    refine (reads_object style (ofValueAt style · (level + 1)) level fun p hp =>
      ih p hp (level + 1)
        (Nat.le_trans (nesting_le_of_mem_fields hp) (Nat.le_of_succ_le_succ hdepth))).mono ?_
    rintro _ ⟨documents, rfl, hfields⟩
    rw [Document.toValue, hfields, Value.ofFields_of_sorted hsorted]

/-! ### Records -/

/-- The text of a record has its fields in the order of the record, unless it is canonical. -/
theorem ofRecordAt_eq {style : Style} (hstyle : style.canonical = false) (r : Record) (level : Nat) :
    ofRecordAt style r level = wrap style '\x7b' '\x7d'
      (r.fields.map fun p => pair style p.1 (ofValueAt style p.2 (level + 1))) level := by
  unfold ofRecordAt
  rw [hstyle, ← fieldsAt_eq]
  rfl

/-- **A record reads back**, as long as its text is not canonical. -/
theorem reads_record {style : Style} (hstyle : style.canonical = false) {r : Record}
    (hcolumns : r.columns.Nodup) {depth : Nat}
    (hvalues : ∀ p ∈ r.fields, p.2.Exact ∧ p.2.nesting ≤ depth) (level : Nat) :
    Reads (value? (depth + 1)) (ofRecordAt style r level) (·.toRecord = r) := by
  rw [ofRecordAt_eq hstyle]
  refine (reads_object style (ofValueAt style · (level + 1)) level fun p hp =>
    reads_value style (hvalues p hp).1 (level + 1) (hvalues p hp).2).mono ?_
  rintro _ ⟨documents, rfl, hfields⟩
  rw [Document.toRecord, hfields, Record.ofFields_of_nodup hcolumns]

/-- What is read from the front of a text is what the whole text says. -/
theorem Reads.read? {text : List Char} {p : Document → Prop}
    (h : Reads (value? depthLimit) text p) : ∃ d, Json.read? text = some d ∧ p d := by
  obtain ⟨d, hread, hd⟩ := h.reads [] stops_nil
  have hspace := h.skipSpace (forall_mem_nil _) []
  rw [append_nil] at hread
  rw [append_nil, nil_append] at hspace
  refine ⟨d, ?_, hd⟩
  unfold Json.read?
  rw [hspace, hread]
  rfl

section Records

variable {rows : List Record} (hcolumns : ∀ r ∈ rows, r.columns.Nodup)
  (hvalues : ∀ r ∈ rows, ∀ p ∈ r.fields, p.2.Exact ∧ p.2.nesting < 100)

include hcolumns hvalues

/-- Records read back at the depth that an array of them leaves. -/
theorem reads_row {style : Style} (hstyle : style.canonical = false) (level : Nat) :
    ∀ r ∈ rows, ∀ depth, 99 ≤ depth →
      Reads (value? (depth + 1)) (ofRecordAt style r level) (·.toRecord = r) := by
  intro r hr depth hdepth
  refine reads_record hstyle (hcolumns r hr) (fun p hp => ?_) level
  obtain ⟨hexact, hnesting⟩ := hvalues r hr p hp
  exact ⟨hexact, by omega⟩

/-- **An array of records reads back** as the table of these records. -/
theorem read?_ofRecords {style : Style} (hstyle : style.canonical = false) :
    ∃ d, Json.read? (ofRecords style rows).toList = some d ∧ d.toTable = rows := by
  have hrows : ∀ r ∈ rows, Reads (value? (125 + 1)) (ofRecordAt style r 1) (·.toRecord = r) :=
    fun r hr => reads_row hcolumns hvalues hstyle 1 r hr 125 (by decide)
  obtain ⟨body, hwrap, hbody⟩ := bracketed?_wrap
    (p := fun (r : Record) (d : Document) => d.toRecord = r) hrows style '[' (.inl rfl) 0
  have hread : Reads (value? depthLimit) ('[' :: body) (·.toTable = rows) := by
    refine ⟨⟨_, _, rfl, rfl, by decide, by decide⟩, fun rest _ => ?_⟩
    obtain ⟨documents, hread, hdocuments⟩ := hbody rest
    refine ⟨.array documents, ?_, ?_⟩
    · have hlimit : depthLimit = 125 + 1 + 1 := rfl
      rw [hlimit, cons_append, value?, hread]
      rfl
    · have hrecords := forall₂_map_right_iff.2 (hdocuments.imp fun _ _ h => Eq.symm h)
      rw [forall₂_eq_eq_eq] at hrecords
      rw [Document.toTable, ← hrecords]
  unfold ofRecords
  rw [String.toList_ofList, hwrap]
  exact hread.read?

end Records

end Json

end RowQuery
