/-
# What describing a table reports

Several sources are asked in turn for the description of a table. The first one
that has a description gives it; if none has one, what the last of them says is
what is reported, and what the others say is lost.

A service describes no table. So a table is described by the commands just if it
is loaded from a file, by the columns of the rows that are loaded; but why it is
not loaded is not reported, as the service is asked after the files. Without a
service it is reported.

Key theorems: `firstDescription_append`, `firstDescription_eq_ok`, `firstDescription_eq_error`,
`Files.load_error_cases`, `Settings.describe_reports`.
-/
import RowQuery.CommandLine

namespace RowQuery

variable {name : String}

/-! ### Sources in turn -/

/-- Sources that fail are passed over, with one error of theirs or another. -/
theorem firstDescription_append (rest : List Source) : ∀ (front : List Source) (error : LoadError),
    (∀ s ∈ front, ∃ e, s.describe name = .error e) →
      ∃ e, firstDescription name error (front ++ rest) = firstDescription name e rest
  | [], error, _ => ⟨error, rfl⟩
  | source :: front, error, hfront => by
    obtain ⟨⟨e, he⟩, hfront⟩ := List.forall_mem_cons.1 hfront
    rw [List.cons_append, firstDescription, he]
    exact firstDescription_append rest front e hfront

/-- **The first description counts.** -/
theorem firstDescription_eq_ok {front : List Source} {source : Source} {fields : List Field}
    (hfront : ∀ s ∈ front, ∃ e, s.describe name = .error e)
    (hsource : source.describe name = .ok fields) (error : LoadError) (rest : List Source) :
    firstDescription name error (front ++ source :: rest) = .ok fields := by
  obtain ⟨e, he⟩ := firstDescription_append (source :: rest) front error hfront
  rw [he, firstDescription, hsource]

/-- **The last error counts**, if there is no description. -/
theorem firstDescription_eq_error {front : List Source} {source : Source} {reason : LoadError}
    (hfront : ∀ s ∈ front, ∃ e, s.describe name = .error e)
    (hsource : source.describe name = .error reason) (error : LoadError) :
    firstDescription name error (front ++ [source]) = .error reason := by
  obtain ⟨e, he⟩ := firstDescription_append [source] front error hfront
  rw [he, firstDescription, hsource]
  rfl

/-! ### Why a file is not loaded -/

/-- The reasons for which a file of a kind is not loaded under a name. -/
def LoadError.OfFile (kind : SourceKind) (name : String) (error : LoadError) : Prop :=
  error = .notFound kind name ∨ error = .notText name ∨ error = .malformedCsv name ∨
    error = .malformedJson name

namespace FileFormat

theorem readCsv_error {bytes : List UInt8} {error : LoadError}
    (h : readCsv name bytes = .error error) : error = .malformedCsv name := by
  unfold readCsv at h
  split at h
  · cases h
  · exact (Except.error.inj h).symm

theorem readJson_error {text : List Char} {error : LoadError}
    (h : readJson name text = .error error) : error = .malformedJson name := by
  unfold readJson at h
  split at h
  · cases h
  · exact (Except.error.inj h).symm

theorem decode_error {bytes : List UInt8} {error : LoadError}
    (h : decode name bytes = .error error) : error = .notText name := by
  unfold decode at h
  split at h
  · cases h
  · exact (Except.error.inj h).symm

/-- A text is read once it is decoded. -/
theorem decode_bind_error {bytes : List UInt8} {error : LoadError} {kind : SourceKind}
    {k : List Char → Except LoadError (List Record)}
    (hk : ∀ text, k text = .error error → error.OfFile kind name)
    (h : (decode name bytes >>= k) = .error error) : error.OfFile kind name := by
  cases htext : decode name bytes with
  | error e =>
    rw [htext] at h
    obtain rfl := Except.error.inj h
    exact .inr (.inl (decode_error htext))
  | ok text =>
    rw [htext] at h
    exact hk text h

theorem read_error {path : String} {bytes : List UInt8} {error : LoadError} {kind : SourceKind}
    (h : read path name bytes = .error error) : error.OfFile kind name := by
  have hcsv : readCsv name bytes = .error error → error.OfFile kind name :=
    fun h => .inr (.inr (.inl (readCsv_error h)))
  have hjson : ∀ text, readJson name text = .error error → error.OfFile kind name :=
    fun _ h => .inr (.inr (.inr (readJson_error h)))
  unfold read at h
  split at h
  · exact hcsv h
  · exact decode_bind_error hjson h
  · exact decode_bind_error hjson h
  · exact decode_bind_error hjson h
  · refine decode_bind_error (fun text htext => ?_) h
    split at htext
    · exact hjson text htext
    · exact hcsv htext

end FileFormat

/-- **A file is missing, no text or malformed**, if it is not loaded. -/
theorem Files.load_error_cases {files : Files} {kind : SourceKind} {error : LoadError}
    (h : files.load kind name = .error error) : error.OfFile kind name := by
  unfold Files.load at h
  split at h
  · exact FileFormat.read_error h
  · exact .inl (Except.error.inj h).symm

theorem LoadError.OfFile.ne_undescribed {kind : SourceKind} {error : LoadError}
    (h : error.OfFile kind name) : error ≠ .undescribed name := by
  rcases h with rfl | rfl | rfl | rfl
  all_goals nofun

/-! ### The command -/

namespace Source

variable {files : Files}

theorem directory_describe_of_load {rows : List Record} (h : files.load .file name = .ok rows) :
    (directory files).describe name = .ok (Field.ofRecords rows) := by
  show (files.load .file name).map Field.ofRecords = _
  rw [h]
  rfl

theorem directory_describe_of_load_error {error : LoadError}
    (h : files.load .file name = .error error) :
    (directory files).describe name = .error error := by
  show (files.load .file name).map Field.ofRecords = _
  rw [h]
  rfl

/-- Without a service, what is reported of a table is what is reported of its load. -/
theorem routed_directory_describe (files : Files) (name : String) :
    (routed [(.file, directory files)]).describe name =
      (files.load .file name).map Field.ofRecords := by
  show firstDescription name (.undescribed name) [directory files] = _
  cases h : files.load .file name with
  | error e =>
    have hdirectory := directory_describe_of_load_error h
    exact firstDescription_eq_error (List.forall_mem_nil _) hdirectory _
  | ok rows =>
    have hdirectory := directory_describe_of_load h
    exact firstDescription_eq_ok (List.forall_mem_nil _) hdirectory _ []

end Source

namespace Settings

variable (settings : Settings) (files : Files)

/-- The files are asked before the service. -/
theorem describe_eq (name : String) : settings.describe files name =
    (firstDescription name (.undescribed name)
      [.directory files, .api settings.apiBase]).mapError fun error => .query (.load error) :=
  rfl

theorem describe_of_load {rows : List Record} (h : files.load .file name = .ok rows) :
    settings.describe files name = .ok (Field.ofRecords rows) := by
  have hfirst : firstDescription name (.undescribed name)
      [.directory files, .api settings.apiBase] = .ok (Field.ofRecords rows) :=
    firstDescription_eq_ok (List.forall_mem_nil _) (Source.directory_describe_of_load h) _ _
  rw [describe_eq, hfirst]
  rfl

/-- The service is asked last and describes nothing, so that it has the last word. -/
theorem describe_of_load_error {error : LoadError} (h : files.load .file name = .error error) :
    settings.describe files name = .error (.query (.load (.undescribed name))) := by
  have hfront : ∀ s ∈ [Source.directory files], ∃ e, s.describe name = .error e := by
    intro s hs
    obtain rfl := List.mem_singleton.1 hs
    exact ⟨error, Source.directory_describe_of_load_error h⟩
  have hservice : (Source.api settings.apiBase).describe name = .error (.undescribed name) := rfl
  have hlast : firstDescription name (.undescribed name)
      [.directory files, .api settings.apiBase] = .error (.undescribed name) :=
    firstDescription_eq_error hfront hservice _
  rw [describe_eq, hlast]
  rfl

/-- **A table is described if it is loaded, but what keeps it from being loaded is not told.** For
all files and every name:

* a description is given just if a table of this name is loaded from the files, and then it is that
  of its rows;
* if no table is loaded, the file is missing, not a text or malformed, but reported is, of all of
  these, that describing is not supported;
* this is because of the service: the files alone report why the table is not loaded. -/
theorem describe_reports (name : String) :
    (∀ fields, settings.describe files name = .ok fields ↔
      ∃ rows, files.load .file name = .ok rows ∧ fields = Field.ofRecords rows) ∧
    (∀ error, files.load .file name = .error error →
      error.OfFile .file name ∧ error ≠ .undescribed name ∧
        settings.describe files name = .error (.query (.load (.undescribed name)))) ∧
    (Source.routed [(.file, .directory files)]).describe name =
      (files.load .file name).map Field.ofRecords := by
  refine ⟨fun fields => ⟨fun hfields => ?_, ?_⟩, fun error h => ?_, ?_⟩
  · cases h : files.load .file name with
    | error e =>
      rw [describe_of_load_error settings files h] at hfields
      cases hfields
    | ok rows =>
      rw [describe_of_load settings files h] at hfields
      exact ⟨rows, rfl, (Except.ok.inj hfields).symm⟩
  · rintro ⟨rows, h, rfl⟩
    exact describe_of_load settings files h
  · have hcase := Files.load_error_cases h
    exact ⟨hcase, hcase.ne_undescribed, describe_of_load_error settings files h⟩
  · exact Source.routed_directory_describe files name

/-- A file with a row of another length than its header. -/
theorem describe_reports_malformed :
    let files : Files := Files.ofList [("t.csv", "a,b\n1\n".toUTF8.toList)]
    files.load .file "t" = .error (.malformedCsv "t") ∧
      LoadError.malformedCsv "t" ≠ .undescribed "t" ∧
      ({} : Settings).describe files "t" = .error (.query (.load (.undescribed "t"))) := by
  have hload : (Files.ofList [("t.csv", "a,b\n1\n".toUTF8.toList)]).load .file "t" =
      .error (.malformedCsv "t") := by
    with_unfolding_all rfl
  obtain ⟨-, herror, -⟩ := describe_reports {} (.ofList [("t.csv", "a,b\n1\n".toUTF8.toList)]) "t"
  exact ⟨hload, (herror _ hload).2⟩

/-- Of a name that no file has it is not reported that there is no such file. -/
theorem describe_masks_missing : ¬∀ (settings : Settings) (files : Files) (name : String),
    settings.describe files name =
      ((files.load .file name).map Field.ofRecords).mapError fun error => .query (.load error) := by
  intro h
  have hload : (Files.ofList []).load .file "nowhere" = .error (.notFound .file "nowhere") := by
    with_unfolding_all rfl
  have hmissing : ({} : Settings).describe (.ofList []) "nowhere" =
      .error (.query (.load (.undescribed "nowhere"))) := by
    with_unfolding_all rfl
  have hreported := h {} (.ofList []) "nowhere"
  rw [hmissing, hload] at hreported
  cases hreported

end Settings

end RowQuery
