import DeviceFlags.Proofs.RuleTable.Usable
import DeviceFlags.RuleFile

/-!
# What a rule file gives

What comes of loading and checking a rule file, told from what its path leads
to.  It is one of seven things, and only one of them is a table.
-/

namespace DeviceFlags

/-- A path leads to a file that holds a text in UTF-8. -/
def FileSystem.HoldsText (files : FileSystem) (path : Path) (text : String) : Prop :=
  ∃ content, files.entry? path = some (.file content) ∧ String.fromUTF8? content = some text

theorem FileSystem.holdsText_ofEntries (path : Path) (text : String) :
    (FileSystem.ofEntries [(path, .file text.toUTF8)]).HoldsText path text := by
  refine ⟨text.toUTF8, ?_, dif_pos text.isValidUTF8⟩
  simp [ofEntries, Entry.distinct]

theorem FileSystem.readText_eq_ok_iff {files : FileSystem} {path : Path} {text : String} :
    files.readText path = .ok text ↔ files.HoldsText path text := by
  unfold readText HoldsText
  cases files.entry? path with
  | none => simp
  | some entry =>
      cases entry with
      | barred reason => simp
      | directory names => simp
      | file content =>
          cases decoded : String.fromUTF8? content with
          | none => simp [decoded]
          | some found => simp [decoded]

namespace RuleFile

/-! ## What loading gives and what it reports -/

section Loading

variable {files : FileSystem} {path : Path} {table : RuleTable}

theorem loadChecked_of_load_error {error : RuleFileError}
    (failed : load files path = .error error) :
    loadChecked files path = ⟨.error error, []⟩ := by
  rw [loadChecked, failed]
  rfl

theorem loadChecked_of_load_ok (loaded : load files path = .ok table) :
    loadChecked files path =
      ⟨if table.errors.isEmpty then .ok table else .error (.rejected path table.errors),
        table.warnings.map (doubt path)⟩ := by
  rw [loadChecked, loaded]

theorem loadChecked_value_of_errors (loaded : load files path = .ok table)
    (faulty : table.errors ≠ []) :
    (loadChecked files path).value = .error (.rejected path table.errors) := by
  have some : ¬ table.errors.isEmpty := fun none => faulty (List.isEmpty_iff.1 none)
  rw [loadChecked_of_load_ok loaded]
  exact if_neg some

theorem exists_loadChecked_ok_iff :
    (∃ table, (loadChecked files path).value = .ok table) ↔
      ∃ table, load files path = .ok table ∧ table.errors = [] := by
  cases loaded : load files path with
  | error error => simp [loadChecked_of_load_error loaded]
  | ok table =>
      rw [loadChecked_of_load_ok loaded]
      by_cases clean : table.errors = []
      · simp [clean]
      · simp [clean, List.isEmpty_iff]

end Loading

/-! ## From what a path leads to -/

/-- The outcome for a file, from what its path leads to. -/
inductive Gives (files : FileSystem) (path : Path) : Except RuleFileError RuleTable → Prop where
  | absent (nothing : files.entry? path = none) :
      Gives files path (.error (.notFound path))
  | barred {reason : String} (found : files.entry? path = some (.barred reason)) :
      Gives files path (.error (.unreadable (.barred reason)))
  | directory {names : List FileName} (found : files.entry? path = some (.directory names)) :
      Gives files path (.error (.unreadable .directory))
  | notText {content : ByteArray} (found : files.entry? path = some (.file content))
      (bytes : String.fromUTF8? content = none) :
      Gives files path (.error (.unreadable .notText))
  | unfit {text : String} {error : Toml.ReadError} (found : files.HoldsText path text)
      (failed : RuleTable.ofToml text = .error error) :
      Gives files path (.error (.unfit error))
  | rejected {text : String} {table : RuleTable} (found : files.HoldsText path text)
      (decoded : RuleTable.ofToml text = .ok table)
      (faulty : ∃ issue ∈ table.issues, issue.severity = .error) :
      Gives files path (.error (.rejected path table.errors))
  | usable {text : String} {table : RuleTable} (found : files.HoldsText path text)
      (decoded : RuleTable.ofToml text = .ok table)
      (clean : ∀ issue ∈ table.issues, issue.severity ≠ .error) :
      Gives files path (.ok table)

/-- Loading gives the table of the text, without looking at the rules. -/
theorem load_eq_of_holdsText {files : FileSystem} {path : Path} {text : String}
    (found : files.HoldsText path text) :
    load files path = (RuleTable.ofToml text).mapError .unfit := by
  rw [load, FileSystem.readText_eq_ok_iff.2 found]

theorem loadChecked_value_of_gives {files : FileSystem} {path : Path}
    {result : Except RuleFileError RuleTable} (gives : Gives files path result) :
    (loadChecked files path).value = result := by
  cases gives with
  | absent nothing => simp [loadChecked, load, FileSystem.readText, nothing, Logged.silent]
  | barred found => simp [loadChecked, load, FileSystem.readText, found, Logged.silent]
  | directory found => simp [loadChecked, load, FileSystem.readText, found, Logged.silent]
  | notText found bytes =>
      simp [loadChecked, load, FileSystem.readText, found, bytes, Logged.silent]
  | unfit found failed =>
      rw [loadChecked, load_eq_of_holdsText found, failed]
      rfl
  | @rejected text table found decoded faulty =>
      rcases faulty with ⟨issue, member, severe⟩
      have errors : ¬ table.errors.isEmpty := by
        rw [List.isEmpty_iff, table.errors_eq_nil_iff]
        intro clean
        exact clean issue member severe
      rw [loadChecked, load_eq_of_holdsText found, decoded]
      exact if_neg errors
  | @usable text table found decoded clean =>
      have errors : table.errors.isEmpty := by
        rw [List.isEmpty_iff, table.errors_eq_nil_iff]
        exact clean
      rw [loadChecked, load_eq_of_holdsText found, decoded]
      exact if_pos errors

/-- Whatever a path leads to, a file gives something. -/
theorem exists_gives (files : FileSystem) (path : Path) : ∃ result, Gives files path result := by
  cases entry : files.entry? path with
  | none => exact ⟨_, .absent entry⟩
  | some found =>
      cases found with
      | barred reason => exact ⟨_, .barred entry⟩
      | directory names => exact ⟨_, .directory entry⟩
      | file content =>
          cases bytes : String.fromUTF8? content with
          | none => exact ⟨_, .notText entry bytes⟩
          | some text =>
              have holds : files.HoldsText path text := ⟨content, entry, bytes⟩
              cases decoded : RuleTable.ofToml text with
              | error error => exact ⟨_, .unfit holds decoded⟩
              | ok table =>
                  by_cases faulty : ∃ issue ∈ table.issues, issue.severity = .error
                  · exact ⟨_, .rejected holds decoded faulty⟩
                  · refine ⟨_, .usable holds decoded ?_⟩
                    intro issue member severe
                    exact faulty ⟨issue, member, severe⟩

/-- Loading and checking gives exactly the outcome for the file. -/
theorem loadChecked_value_iff {files : FileSystem} {path : Path}
    {result : Except RuleFileError RuleTable} :
    (loadChecked files path).value = result ↔ Gives files path result := by
  constructor
  · rintro rfl
    rcases exists_gives files path with ⟨result, gives⟩
    rw [loadChecked_value_of_gives gives]
    exact gives
  · exact loadChecked_value_of_gives

theorem Gives.eq {files : FileSystem} {path : Path} {result other : Except RuleFileError RuleTable}
    (first : Gives files path result) (second : Gives files path other) : result = other :=
  (loadChecked_value_of_gives first).symm.trans (loadChecked_value_of_gives second)

/-- A file that gives a table gives usable rules only. -/
theorem Gives.rules_usable {files : FileSystem} {path : Path} {table : RuleTable}
    (gives : Gives files path (.ok table)) : ∀ rule ∈ table.rules, rule.IsUsable := by
  cases gives with
  | usable found decoded clean => exact table.no_error_issues_iff.1 clean

end RuleFile

end DeviceFlags
