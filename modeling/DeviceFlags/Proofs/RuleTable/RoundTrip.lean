import DeviceFlags.Proofs.Toml.Lines
import DeviceFlags.RuleTable.Toml

/-!
# Reading back rule tables

The text of a table is followed from the front: each rule gives a header and
two assignments, whatever comes behind it, and each header adds one table to
the array of rules.  The document that results holds the rules in their order,
and the schema takes them out again.
-/

namespace DeviceFlags

open Toml (Entries Value LineEnd Line Section)

namespace Rule

/-- The name of the array of rules, letter by letter. -/
def ruleWord : List Char := ['r', 'u', 'l', 'e']

/-- The name of the field for the device. -/
def deviceWord : List Char := ['d', 'e', 'v', 'i', 'c', 'e']

/-- The name of the field for the flag. -/
def flagWord : List Char := ['f', 'l', 'a', 'g']

/-- The key under which a document keeps its rules. -/
def key : Toml.KeyPath := ⟨[], "rule"⟩

/-- What a document assigns for a rule. -/
def assignments (rule : Rule) : List Toml.Assignment :=
  [⟨⟨[], "device"⟩, .string rule.device⟩, ⟨⟨[], "flag"⟩, .string rule.flag⟩]

/-- The lines of a rule. -/
def lines (rule : Rule) : List Line :=
  .header (.element key) :: rule.assignments.map .assignment

/-- The section of a rule. -/
def toSection (rule : Rule) : Section :=
  ⟨.element key, rule.assignments⟩

/-- The table of a rule. -/
def entries (rule : Rule) : Entries :=
  [("device", .string rule.device), ("flag", .string rule.flag)]

theorem write_toToml (ending : LineEnd) (rule : Rule) (rest : List Char) :
    ending.write rule.toToml ++ rest =
      '[' :: '[' :: (ruleWord ++ ']' :: ']' :: (ending.chars ++
        (deviceWord ++ ' ' :: '=' :: ' ' ::
          (ending.write (Toml.StringLiteral.print rule.device.toList) ++ (ending.chars ++
            (flagWord ++ ' ' :: '=' :: ' ' ::
              (ending.write (Toml.StringLiteral.print rule.flag.toList) ++
                (ending.chars ++ rest)))))))) := by
  have first : ending.write "[[rule]]\ndevice = ".toList =
      '[' :: '[' :: (ruleWord ++ ']' :: ']' :: (ending.chars ++
        (deviceWord ++ [' ', '=', ' ']))) := by
    simp [LineEnd.write_cons_of_ne, ruleWord, deviceWord]
  have second : ending.write "\nflag = ".toList =
      ending.chars ++ (flagWord ++ [' ', '=', ' ']) := by
    simp [LineEnd.write_cons_of_ne, flagWord]
  have last : ending.write ['\n'] = ending.chars := by simp
  unfold toToml
  simp only [LineEnd.write_append, first, second, last, List.append_assoc, List.cons_append,
    List.nil_append]

theorem lines?_toToml (ending : LineEnd) (rule : Rule) (rest : List Char) :
    Toml.lines? (ending.write rule.toToml ++ rest) =
      (Toml.lines? rest).map (rule.lines ++ ·) := by
  have ruleKey : Toml.IsBareKey ruleWord := ⟨by decide, rfl⟩
  have deviceKey : Toml.IsBareKey deviceWord := ⟨by decide, rfl⟩
  have flagKey : Toml.IsBareKey flagWord := ⟨by decide, rfl⟩
  rw [write_toToml,
    Toml.lines?_cons (Line.read_element ending ruleKey _) (by grind),
    Toml.lines?_cons (Line.read_string ending deviceKey rule.device _) (by grind),
    Toml.lines?_cons (Line.read_string ending flagKey rule.flag rest) (by grind)]
  cases Toml.lines? rest <;> rfl

theorem assignAll_assignments (rule : Rule) :
    Entries.assignAll [] rule.assignments = some rule.entries := rfl

theorem ofValue_entries (rule : Rule) : ofValue (.table .header rule.entries) = .ok rule := rfl

end Rule

namespace RuleTable

theorem lines?_rulesToml (ending : LineEnd) (rules : List Rule) (rest : List Char) :
    Toml.lines? (ending.write (rulesToml rules) ++ rest) =
      (Toml.lines? rest).map (rules.flatMap Rule.lines ++ ·) := by
  induction rules with
  | nil =>
      rw [rulesToml, LineEnd.write_nil, List.nil_append, List.flatMap_nil]
      cases Toml.lines? rest <;> rfl
  | cons rule rules ih =>
      cases rules with
      | nil =>
          rw [rulesToml, Rule.lines?_toToml, List.flatMap_cons, List.flatMap_nil,
            List.append_nil]
      | cons next rules =>
          rw [rulesToml, LineEnd.write_append, LineEnd.write_cons_newline, List.append_assoc,
            List.append_assoc, Rule.lines?_toToml, Toml.lines?_blank, ih, List.flatMap_cons]
          cases Toml.lines? rest <;> simp

theorem sections_lines_append (rules : List Rule) {more : List Line}
    (noAssignment : (Toml.sections more).1 = []) :
    Toml.sections (rules.flatMap Rule.lines ++ more) =
      ([], rules.map Rule.toSection ++ (Toml.sections more).2) := by
  induction rules with
  | nil => exact Prod.ext noAssignment rfl
  | cons rule rules ih =>
      rw [List.flatMap_cons, List.append_assoc]
      simp [Rule.lines, Rule.assignments, Rule.toSection, Toml.sections, ih]

theorem sections_lines (rules : List Rule) :
    Toml.sections (rules.flatMap Rule.lines) = ([], rules.map Rule.toSection) := by
  have noMore : (Toml.sections []).1 = [] := rfl
  simpa [Toml.sections] using sections_lines_append rules noMore

/-- The document that holds some rules. -/
def documentOf (rules : List Rule) : Entries :=
  match rules.getLast? with
  | none => []
  | some last => [("rule", .tables (rules.dropLast.map Rule.entries) last.entries)]

theorem documentOf_concat (earlier : List Rule) (last : Rule) :
    documentOf (earlier ++ [last]) =
      [("rule", .tables (earlier.map Rule.entries) last.entries)] := by
  simp [documentOf]

/-- Whatever a header in double brackets assigns is the last table of the rules. -/
theorem addSection_element (rules : List Rule) {assignments : List Toml.Assignment}
    {inner : Entries} (filled : Entries.assignAll [] assignments = some inner) :
    (documentOf rules).addSection ⟨.element Rule.key, assignments⟩ =
      some [("rule", .tables (rules.map Rule.entries) inner)] := by
  rcases List.eq_nil_or_concat rules with rfl | ⟨earlier, last, rfl⟩
  · simp [documentOf, Entries.addSection, Rule.key, Entries.within, Entries.openElement, filled,
      Entries.change]
  · rw [List.concat_eq_append, documentOf_concat]
    simp [Entries.addSection, Rule.key, Entries.within, Entries.openElement, filled,
      Entries.change]

/-- The section of a rule adds the rule to the document of those before it. -/
theorem addSection_documentOf (rules : List Rule) (rule : Rule) :
    (documentOf rules).addSection rule.toSection = some (documentOf (rules ++ [rule])) := by
  rw [Rule.toSection, addSection_element rules rule.assignAll_assignments, documentOf_concat]

theorem foldlM_addSection (done rules : List Rule) :
    (rules.map Rule.toSection).foldlM Entries.addSection (documentOf done) =
      some (documentOf (done ++ rules)) := by
  induction rules generalizing done with
  | nil => simp
  | cons rule rules ih =>
      rw [List.map_cons, List.foldlM_cons, addSection_documentOf, Option.bind_eq_bind,
        Option.bind_some, ih, List.append_assoc, List.singleton_append]

theorem ofLines?_lines (rules : List Rule) :
    Entries.ofLines? (rules.flatMap Rule.lines) = some (documentOf rules) := by
  rw [Entries.ofLines?, sections_lines]
  exact foldlM_addSection [] rules

theorem mapM_ofValue (rules : List Rule) :
    (rules.map fun rule => Value.table .header rule.entries).mapM Rule.ofValue = .ok rules := by
  induction rules with
  | nil => rfl
  | cons rule rules ih =>
      rw [List.map_cons, List.mapM_cons, Rule.ofValue_entries, ih]
      rfl

/-- A rule is read from its table, whatever else is in the table. -/
theorem ofEntries_tables (earlier : List Rule) {last : Rule} {inner : Entries}
    (reads : Rule.ofValue (.table .header inner) = .ok last) :
    ofEntries [("rule", .tables (earlier.map Rule.entries) inner)] = .ok ⟨earlier ++ [last]⟩ := by
  have elements : (Value.tables (earlier.map Rule.entries) inner).elements? =
      some ((earlier.map fun rule => Value.table .header rule.entries) ++
        [.table .header inner]) := by
    simp [Value.elements?]
  have rules : List.mapM Rule.ofValue ((earlier.map fun rule => Value.table .header rule.entries) ++
      [Value.table .header inner]) = .ok (earlier ++ [last]) := by
    rw [List.mapM_append, mapM_ofValue, List.mapM_cons, reads]
    rfl
  rw [ofEntries]
  simp only [Entries.find?, List.lookup_cons_self, Value.asSequence, elements]
  change (do
    let rules ← List.mapM Rule.ofValue _
    return RuleTable.mk rules) = _
  rw [rules]
  rfl

theorem ofEntries_documentOf (rules : List Rule) : ofEntries (documentOf rules) = .ok ⟨rules⟩ := by
  rcases List.eq_nil_or_concat rules with rfl | ⟨earlier, last, rfl⟩
  · rfl
  · rw [List.concat_eq_append, documentOf_concat, ofEntries_tables earlier last.ofValue_entries]

/-! ## The lines of a table -/

/-- What the document of a table without rules assigns. -/
def emptyAssignment : Toml.Assignment :=
  ⟨Rule.key, .array []⟩

/-- The lines of the document of a table. -/
def lines (table : RuleTable) : List Line :=
  if table.isEmpty then [.assignment emptyAssignment] else table.rules.flatMap Rule.lines

theorem lines_of_isEmpty {table : RuleTable} (empty : table.isEmpty = true) :
    table.lines = [.assignment emptyAssignment] := if_pos empty

theorem lines_of_nonempty {table : RuleTable} (nonempty : table.isEmpty = false) :
    table.lines = table.rules.flatMap Rule.lines := by
  rw [lines, nonempty]
  rfl

theorem lines?_empty (ending : LineEnd) (rest : List Char) :
    Toml.lines? (ending.write "rule = []\n".toList ++ rest) =
      (Toml.lines? rest).map (.assignment emptyAssignment :: ·) := by
  have key : Toml.IsBareKey Rule.ruleWord := ⟨by decide, rfl⟩
  have written : ending.write "rule = []\n".toList ++ rest =
      Rule.ruleWord ++ ' ' :: '=' :: ' ' :: '[' :: ']' :: (ending.chars ++ rest) := by
    simp [LineEnd.write_cons_of_ne, Rule.ruleWord]
  rw [written, Toml.lines?_cons (Line.read_emptyArray ending key rest) (by grind)]
  rfl

theorem lines?_toTomlChars (ending : LineEnd) (table : RuleTable) (rest : List Char) :
    Toml.lines? (ending.write table.toTomlChars ++ rest) =
      (Toml.lines? rest).map (table.lines ++ ·) := by
  cases empty : table.isEmpty with
  | true =>
      rw [toTomlChars, if_pos empty, lines?_empty, lines_of_isEmpty empty]
      rfl
  | false =>
      rw [toTomlChars, empty, if_neg (by decide), lines?_rulesToml, lines_of_nonempty empty]

/-- The lines of a table give the table. -/
theorem exists_ofLines?_lines (table : RuleTable) :
    ∃ entries, Entries.ofLines? table.lines = some entries ∧ ofEntries entries = .ok table := by
  rcases table with ⟨_ | ⟨rule, rules⟩⟩
  · exact ⟨[("rule", .array [])], rfl, rfl⟩
  · rw [lines_of_nonempty rfl, ofLines?_lines]
    exact ⟨_, rfl, ofEntries_documentOf (rule :: rules)⟩

/-! ## The text of a table -/

theorem exists_rulesToml_cons (rule : Rule) (rules : List Rule) :
    ∃ more, rulesToml (rule :: rules) = rule.toToml ++ more := by
  cases rules with
  | nil => exact ⟨[], (List.append_nil _).symm⟩
  | cons next rules => exact ⟨'\n' :: rulesToml (next :: rules), rfl⟩

/-- No document for a table begins with a byte order mark. -/
theorem dropByteOrderMark_write_append (ending : LineEnd) (table : RuleTable) (rest : List Char) :
    Toml.dropByteOrderMark (ending.write table.toTomlChars ++ rest) =
      ending.write table.toTomlChars ++ rest := by
  unfold toTomlChars
  split
  case isTrue => cases ending <;> rfl
  case isFalse nonempty =>
    cases rules : table.rules with
    | nil => simp [isEmpty, rules] at nonempty
    | cons rule others =>
        rcases exists_rulesToml_cons rule others with ⟨more, written⟩
        rw [written, LineEnd.write_append, Rule.write_toToml]
        rfl

/-- The text of a table, with whatever text behind it, gives the lines of the table
and those behind it. -/
theorem parse?_write_append (ending : LineEnd) (table : RuleTable) (rest : List Char) :
    Toml.parse? (ending.write table.toTomlChars ++ rest) =
      ((Toml.lines? rest).map (table.lines ++ ·)).bind Entries.ofLines? := by
  rw [Toml.parse?_eq, dropByteOrderMark_write_append, lines?_toTomlChars]

/-- A table is read back from its text, whatever ends the lines. -/
theorem ofToml_write (ending : LineEnd) (table : RuleTable) :
    ofToml (String.ofList (ending.write table.toTomlChars)) = .ok table := by
  have parsed := parse?_write_append ending table []
  rw [List.append_nil, Toml.lines?_nil, Option.map_some, Option.bind_some,
    List.append_nil] at parsed
  rcases exists_ofLines?_lines table with ⟨entries, document, holds⟩
  rw [ofToml, Toml.readText, String.toList_ofList, parsed, document]
  simp only [holds]
  rfl

theorem toToml_eq_write (table : RuleTable) :
    table.toToml = String.ofList (LineEnd.feed.write table.toTomlChars) := by
  rw [LineEnd.write_feed]
  rfl

/-- Writing a table and reading the text gives the same rules in the same
order, for all texts that a rule can hold. -/
theorem ofToml_toToml (table : RuleTable) : ofToml table.toToml = .ok table := by
  have written := ofToml_write .feed table
  rwa [LineEnd.write_feed] at written

end RuleTable

end DeviceFlags
