/-
# Records read back from files

A text of JSON is an array of records, or it has a record on each line. Which of
them it is, is told by its first character that is not blank: a record starts
with a brace, never with the bracket of an array. On one line, a text has no line
break but at its end, since one within a string is written as an escape.

Key theorems: `Json.newline_not_mem_value`, `Json.split_lines`,
`Json.records?_lines`, `records_read_back`.
-/
import RowQuery.Proofs.Json.RoundTrip
import RowQuery.Source.Directory
import RowQuery.Source.Memory

namespace RowQuery

open List

namespace Json

/-! ### Texts of one line -/

theorem newline_not_mem_escapeChar (c : Char) : '\n' ∉ escapeChar c := by
  have hdigit : ∀ n : Nat, (n % 16).digitChar ≠ '\n' := fun n => by
    have hall : ∀ m < 16, Nat.digitChar m ≠ '\n' := by decide
    exact hall _ (Nat.mod_lt _ (by decide))
  unfold escapeChar
  by_cases hnewline : c = '\n'
  · subst hnewline
    decide
  · repeat' split
    all_goals first
      | decide
      | simp [hex4, (hdigit _).symm, Ne.symm hnewline]

theorem newline_not_mem_quote (s : String) : '\n' ∉ quote s := by
  simp [quote, newline_not_mem_escapeChar]

theorem newline_not_mem_join : ∀ {items : List (List Char)}, (∀ item ∈ items, '\n' ∉ item) →
    '\n' ∉ join [','] items
  | [], _ => by simp [join]
  | [item], h => h item mem_cons_self
  | item :: next :: rest, h => by
    have hrest := newline_not_mem_join fun x hx => h x (mem_cons_of_mem item hx)
    have hitem := h item mem_cons_self
    rw [join]
    · simp [hitem, hrest]
    · exact cons_ne_nil next rest

section Compact

variable {style : Style} (hstyle : style.pretty = false)

include hstyle

theorem newline_not_mem_wrap {opening closing : Char} (hopening : opening ≠ '\n')
    (hclosing : closing ≠ '\n') {items : List (List Char)} (h : ∀ item ∈ items, '\n' ∉ item)
    (level : Nat) : '\n' ∉ wrap style opening closing items level := by
  have hjoin := newline_not_mem_join h
  unfold wrap
  rw [hstyle]
  split
  · simp [hopening.symm, hclosing.symm]
  · simp [hopening.symm, hclosing.symm, hjoin]

theorem newline_not_mem_pair {name : String} {text : List Char} (h : '\n' ∉ text) :
    '\n' ∉ pair style name text := by
  unfold pair
  rw [hstyle]
  simp [newline_not_mem_quote, h]

/-- A value that is not laid out is on one line. -/
theorem newline_not_mem_value {v : Value} (hv : v.Exact) : ∀ level, '\n' ∉ ofValueAt style v level := by
  induction hv with
  | null =>
    intro level
    rw [ofValueAt]
    decide
  | boolean b =>
    intro level
    cases b with
    | true =>
      rw [ofValueAt]
      decide
    | false =>
      rw [ofValueAt]
      decide
  | integer n =>
    intro level
    rw [ofValueAt]
    intro h
    rcases Numeral.mem_ofInt h with h | h
    · exact absurd h (by decide)
    · exact absurd h (by decide)
  | string s =>
    intro level
    rw [ofValueAt]
    exact newline_not_mem_quote s
  | array _ ih =>
    intro level
    rw [ofValueAt, itemsAt_eq]
    refine newline_not_mem_wrap hstyle (by decide) (by decide) (forall_mem_map.2 fun v hv => ?_) level
    exact ih v hv (level + 1)
  | object _ _ ih =>
    intro level
    rw [ofValueAt, fieldsAt_eq]
    refine newline_not_mem_wrap hstyle (by decide) (by decide) (forall_mem_map.2 fun p hp => ?_) level
    exact newline_not_mem_pair hstyle (ih p hp (level + 1))

theorem newline_not_mem_record (hcanonical : style.canonical = false) {r : Record}
    (hvalues : ∀ p ∈ r.fields, p.2.Exact) (level : Nat) : '\n' ∉ ofRecordAt style r level := by
  rw [ofRecordAt_eq hcanonical]
  refine newline_not_mem_wrap hstyle (by decide) (by decide) (forall_mem_map.2 fun p hp => ?_) level
  exact newline_not_mem_pair hstyle (newline_not_mem_value hstyle (hvalues p hp) (level + 1))

end Compact

/-! ### Texts in lines -/

theorem split_ne_nil (c : Char) : ∀ text : List Char, Text.split c text ≠ []
  | [] => by simp [Text.split]
  | d :: text => by
    show Text.prepend c d (Text.split c text) ≠ []
    cases h : Text.split c text with
    | nil => exact absurd h (split_ne_nil c text)
    | cons part parts =>
      rw [Text.prepend]
      split
      · exact cons_ne_nil _ _
      · exact cons_ne_nil _ _

/-- A part without separators goes in front of the first part. -/
theorem split_append {c : Char} {line : List Char} (h : c ∉ line) (text : List Char) :
    Text.split c (line ++ text) =
      (line ++ (Text.split c text).head (split_ne_nil c text)) :: (Text.split c text).tail := by
  induction line with
  | nil => exact (cons_head_tail (split_ne_nil c text)).symm
  | cons d line ih =>
    have hne : d ≠ c := fun hdc => h (hdc ▸ mem_cons_self)
    have hline : c ∉ line := fun hc => h (mem_cons_of_mem d hc)
    show Text.prepend c d (Text.split c (line ++ text)) = _
    rw [ih hline, Text.prepend, if_neg hne]
    rfl

theorem split_append_cons {c : Char} {line : List Char} (h : c ∉ line) (text : List Char) :
    Text.split c (line ++ c :: text) = line :: Text.split c text := by
  have hseparated : Text.split c (c :: text) = [] :: Text.split c text := by
    show Text.prepend c c (Text.split c text) = _
    cases htext : Text.split c text with
    | nil => exact absurd htext (split_ne_nil c text)
    | cons part parts => rw [Text.prepend, if_pos rfl]
  rw [split_append h]
  simp [hseparated]

theorem split_of_not_mem {c : Char} {line : List Char} (h : c ∉ line) :
    Text.split c line = [line] := by
  have hline := split_append h []
  rw [append_nil] at hline
  simpa [Text.split] using hline

/-- Lines that are not blank are what a text of them has, also with a line break at its end. -/
theorem split_lines {ending : List Char} (hending : ending = [] ∨ ending = ['\n']) :
    ∀ {lines : List (List Char)}, (∀ line ∈ lines, '\n' ∉ line) →
    (∀ line ∈ lines, (Text.trim line).isEmpty = false) →
    (Text.split '\n' (['\n'].intercalate lines ++ ending)).filter (fun line => !(Text.trim line).isEmpty) =
      lines
  | [], _, _ => by
    rcases hending with rfl | rfl
    · rfl
    · rfl
  | [line], hnewline, hblank => by
    have hline := hnewline line mem_cons_self
    have hkept := hblank line mem_cons_self
    rw [intercalate_singleton]
    rcases hending with rfl | rfl
    · rw [append_nil, split_of_not_mem hline]
      simp [hkept]
    · rw [split_append_cons hline, filter_cons, hkept]
      rfl
  | line :: next :: rest, hnewline, hblank => by
    have hrest := split_lines hending (fun x hx => hnewline x (mem_cons_of_mem line hx))
      fun x hx => hblank x (mem_cons_of_mem line hx)
    have hkept := hblank line mem_cons_self
    rw [intercalate_cons_cons, append_assoc, append_assoc, singleton_append,
      split_append_cons (hnewline line mem_cons_self), filter_cons, hkept, hrest]
    rfl

/-! ### Records -/

theorem mapM_of_forall {α β : Type} {f : α → Option β} {text : β → α} : ∀ {xs : List β},
    (∀ x ∈ xs, f (text x) = some x) → (xs.map text).mapM f = some xs
  | [], _ => rfl
  | x :: xs, h => by
    rw [map_cons, mapM_cons, h x mem_cons_self, mapM_of_forall fun y hy => h y (mem_cons_of_mem x hy)]
    rfl

theorem wrap_cons (style : Style) (opening closing : Char) (items : List (List Char)) (level : Nat) :
    ∃ rest, wrap style opening closing items level = opening :: rest := by
  unfold wrap
  split
  · exact ⟨_, rfl⟩
  · split
    · exact ⟨_, rfl⟩
    · exact ⟨_, rfl⟩

/-- A record starts with a brace. -/
theorem ofRecordAt_cons (style : Style) (r : Record) (level : Nat) :
    ∃ rest, ofRecordAt style r level = '\x7b' :: rest := by
  unfold ofRecordAt
  exact wrap_cons style '\x7b' '\x7d' _ level

/-- A text of lines starts as its first line does. -/
theorem intercalate_cons (c : Char) (line ending : List Char) : ∀ rest : List (List Char),
    ∃ more, ['\n'].intercalate ((c :: line) :: rest) ++ ending = c :: more
  | [] => ⟨_, by rw [intercalate_singleton, cons_append]⟩
  | next :: rest => ⟨_, by rw [intercalate_cons_cons, append_assoc, append_assoc, cons_append]⟩

section Records

variable {rows : List Record} (hcolumns : ∀ r ∈ rows, r.columns.Nodup)
  (hvalues : ∀ r ∈ rows, ∀ p ∈ r.fields, p.2.Exact ∧ p.2.nesting < 100)

include hcolumns hvalues

/-- A text that is an array of records has these records. -/
theorem records?_ofRecords {style : Style} (hstyle : style.canonical = false) :
    records? (ofRecords style rows).toList = some rows := by
  obtain ⟨d, hread, htable⟩ := read?_ofRecords hcolumns hvalues hstyle
  have hbracket : (Text.trimStart (ofRecords style rows).toList).head? = some '[' := by
    obtain ⟨rest, hrest⟩ := wrap_cons style '[' ']' (rows.map fun r => ofRecordAt style r 1) 0
    unfold ofRecords
    rw [String.toList_ofList, hrest]
    rfl
  unfold records?
  rw [if_pos hbracket, hread, Option.map_some, htable]

/-- **A text that has a record on each line** has these records, also with a line break at its
end. -/
theorem records?_lines {ending : List Char} (hending : ending = [] ∨ ending = ['\n']) :
    records? (['\n'].intercalate (rows.map fun r => ofRecordAt compact r 0) ++ ending) = some rows := by
  have hread : ∀ r ∈ rows, (Json.read? (ofRecordAt compact r 0)).map Document.toRecord = some r := by
    intro r hr
    have hstyle : compact.canonical = false := rfl
    obtain ⟨d, hread, hd⟩ := (reads_row hcolumns hvalues hstyle 0 r hr 126 (by decide)).read?
    rw [hread, Option.map_some, hd]
  have hbrace : (Text.trimStart (['\n'].intercalate (rows.map fun r => ofRecordAt compact r 0) ++
      ending)).head? ≠ some '[' := by
    cases rows with
    | nil =>
      rcases hending with rfl | rfl
      · decide
      · decide
    | cons r rows =>
      obtain ⟨line, hline⟩ := ofRecordAt_cons compact r 0
      obtain ⟨more, hmore⟩ := intercalate_cons '\x7b' line ending
        (rows.map fun r => ofRecordAt compact r 0)
      rw [map_cons, hline, hmore]
      simp [Text.trimStart, Text.isBlank]
  have hnewline : ∀ line ∈ rows.map fun r => ofRecordAt compact r 0, '\n' ∉ line :=
    forall_mem_map.2 fun r hr => newline_not_mem_record rfl rfl (fun p hp => (hvalues r hr p hp).1) 0
  have hblank : ∀ line ∈ rows.map fun r => ofRecordAt compact r 0,
      (Text.trim line).isEmpty = false := by
    refine forall_mem_map.2 fun r _ => ?_
    obtain ⟨rest, hrest⟩ := ofRecordAt_cons compact r 0
    obtain ⟨rest', htrim⟩ := Numeral.trim_cons (c := '\x7b') rfl rest
    rw [hrest, htrim]
    rfl
  unfold records?
  rw [if_neg hbrace]
  dsimp only
  rw [split_lines hending hnewline hblank]
  exact mapM_of_forall hread

end Records

end Json

/-- **What is written is read back.** Records whose columns have different names, and whose values
have no floating-point number in them and fewer than 100 levels, are the table that their JSON text
says, in memory and in a file; and the table of a file that has one of them on each line. -/
theorem records_read_back {rows : List Record} (hcolumns : ∀ r ∈ rows, r.columns.Nodup)
    (hvalues : ∀ r ∈ rows, ∀ p ∈ r.fields, p.2.Exact ∧ p.2.nesting < 100) :
    (∀ style ∈ [Json.compact, Json.pretty],
      (∃ d, Json.read? (Json.ofRecords style rows).toList = some d ∧
        ∀ tables kind name, (Source.memory (tables ++ [(name, d.toTable)])).load kind name = .ok rows) ∧
      ∀ name, FileFormat.readJson name (Json.ofRecords style rows).toList = .ok rows) ∧
    ∀ ending ∈ ["", "\n"], ∀ name, FileFormat.readJson name
      ("\n".intercalate (rows.map (Json.ofRecord Json.compact)) ++ ending).toList = .ok rows := by
  have hcanonical : ∀ style ∈ [Json.compact, Json.pretty], style.canonical = false := by decide
  refine ⟨fun style hstyle => ⟨?_, fun name => ?_⟩, fun ending hending name => ?_⟩
  · obtain ⟨d, hread, htable⟩ := Json.read?_ofRecords hcolumns hvalues (hcanonical style hstyle)
    refine ⟨d, hread, fun tables kind name => ?_⟩
    rw [Source.memory_load, reverse_append, htable]
    simp
  · unfold FileFormat.readJson
    rw [Json.records?_ofRecords hcolumns hvalues (hcanonical style hstyle)]
  · have hending : ending.toList = [] ∨ ending.toList = ['\n'] := by
      simp only [mem_cons, not_mem_nil, or_false] at hending
      rcases hending with rfl | rfl
      · exact .inl rfl
      · exact .inr rfl
    have htext : ("\n".intercalate (rows.map (Json.ofRecord Json.compact)) ++ ending).toList =
        ['\n'].intercalate (rows.map fun r => Json.ofRecordAt Json.compact r 0) ++ ending.toList := by
      simp [String.toList_intercalate, Json.ofRecord, Function.comp_def]
    unfold FileFormat.readJson
    rw [htext, Json.records?_lines hcolumns hvalues hending]

/-- A record without columns, and one with a line break and a quote in its names, the least integer
and an object in an array. -/
theorem records_read_back_nested :
    let nested : Value := .array [.object [("a", .null), ("b", .string "\u2028")], .array []]
    let r : Record := ⟨[("\"\n", .integer Int64.minValue), ("nested", nested)]⟩
    let rows : List Record := [⟨[]⟩, r]
    (∀ r ∈ rows, r.columns.Nodup) ∧
      (∀ r ∈ rows, ∀ p ∈ r.fields, p.2.Exact ∧ p.2.nesting < 100) ∧
      ∀ name, FileFormat.readJson name (Json.ofRecords Json.pretty rows).toList = .ok rows := by
  intro nested r rows
  have hcolumns : ∀ r ∈ rows, r.columns.Nodup := by decide
  have hnested : nested.Exact := by
    refine .array fun v hv => ?_
    rcases mem_pair.1 hv with rfl | rfl
    · refine .object (by decide) fun p hp => ?_
      rcases mem_pair.1 hp with rfl | rfl
      · exact .null
      · exact .string _
    · exact .array fun v hv => absurd hv not_mem_nil
  have hvalues : ∀ r ∈ rows, ∀ p ∈ r.fields, p.2.Exact ∧ p.2.nesting < 100 := by
    intro s hs p hp
    rcases mem_pair.1 hs with rfl | rfl
    · exact absurd hp not_mem_nil
    · rcases mem_pair.1 hp with rfl | rfl
      · exact ⟨.integer _, by decide⟩
      · exact ⟨hnested, by decide⟩
  exact ⟨hcolumns, hvalues, ((records_read_back hcolumns hvalues).1 Json.pretty (by simp)).2⟩

end RowQuery
