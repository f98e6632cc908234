import DeviceFlags.Proofs.RuleTable.RoundTrip

/-!
# Rule files one behind the other

The texts of two tables, one behind the other, are one document.  What it says
depends on the first table alone: behind a rule a new rule begins, or the key of
a table without rules lands among the keys of the last rule, where nobody asks
for it.  Behind a table without rules, though, the key is there already.
-/

namespace DeviceFlags

open Toml (Entries Value LineEnd Line)

namespace RuleTable

theorem parse?_append (first second : RuleTable) :
    Toml.parse? (first.toTomlChars ++ second.toTomlChars) =
      Entries.ofLines? (first.lines ++ second.lines) := by
  have later := lines?_toTomlChars .feed second []
  have both := parse?_write_append .feed first second.toTomlChars
  rw [LineEnd.write_feed] at later both
  rw [List.append_nil, Toml.lines?_nil, Option.map_some, List.append_nil] at later
  rw [both, later, Option.map_some, Option.bind_some]

/-! ## Behind rules -/

/-- The key of a table without rules lands in the table of the rule before it. -/
theorem ofLines?_concat_empty (earlier : List Rule) (last : Rule) :
    Entries.ofLines? ((earlier ++ [last]).flatMap Rule.lines ++ [.assignment emptyAssignment]) =
      some [("rule", .tables (earlier.map Rule.entries)
        (last.entries ++ [("rule", .array [])]))] := by
  have split : (earlier ++ [last]).flatMap Rule.lines ++ [.assignment emptyAssignment] =
      earlier.flatMap Rule.lines ++ (last.lines ++ [.assignment emptyAssignment]) := by
    simp
  have lastSection : (Toml.sections (last.lines ++ [.assignment emptyAssignment])).2 =
      [⟨.element Rule.key, last.assignments ++ [emptyAssignment]⟩] := rfl
  have added := foldlM_addSection [] earlier
  rw [Entries.ofLines?, split, sections_lines_append earlier rfl, lastSection]
  simp only [Entries.assignAll, List.foldlM_nil, Option.pure_def, Option.bind_eq_bind,
    Option.bind_some, List.foldlM_append]
  rw [show ([] : Entries) = documentOf [] from rfl, added, List.nil_append, Option.bind_some,
    List.foldlM_cons, addSection_element earlier rfl]
  rfl

theorem ofEntries_of_lines {first : RuleTable} (nonempty : first.isEmpty = false)
    (second : RuleTable) :
    ∃ entries, Entries.ofLines? (first.lines ++ second.lines) = some entries ∧
      ofEntries entries = .ok (first ++ second) := by
  rw [lines_of_nonempty nonempty]
  cases empty : second.isEmpty with
  | true =>
      have noRules : second.rules = [] := List.isEmpty_iff.1 empty
      have same : first ++ second = first := by
        rcases first with ⟨rules⟩
        exact congrArg RuleTable.mk ((congrArg (rules ++ ·) noRules).trans (List.append_nil rules))
      rcases List.eq_nil_or_concat first.rules with none | ⟨earlier, last, rules⟩
      · rw [isEmpty, none] at nonempty
        contradiction
      · rw [List.concat_eq_append] at rules
        rw [lines_of_isEmpty empty, same, rules, ofLines?_concat_empty]
        refine ⟨_, rfl, ?_⟩
        rw [ofEntries_tables earlier rfl, ← rules]
  | false =>
      rw [lines_of_nonempty empty, ← List.flatMap_append, ofLines?_lines]
      exact ⟨_, rfl, ofEntries_documentOf (first.rules ++ second.rules)⟩

/-! ## Behind a table without rules -/

theorem ofLines?_empty_append (second : RuleTable) :
    Entries.ofLines? (.assignment emptyAssignment :: second.lines) = none := by
  cases empty : second.isEmpty with
  | true =>
      rw [lines_of_isEmpty empty]
      rfl
  | false =>
      rcases second with ⟨_ | ⟨rule, rules⟩⟩
      · cases empty
      · rw [lines_of_nonempty empty, Entries.ofLines?, Toml.sections, sections_lines]
        rfl

/-- The texts of two tables, one behind the other, are read as the rules of both,
even if the second has none.  If the first has none, they are no document. -/
theorem ofToml_append (first second : RuleTable) :
    ofToml (first.toToml ++ second.toToml) =
      if first.isEmpty then .error .malformed else .ok (first ++ second) := by
  have text : (first.toToml ++ second.toToml).toList =
      first.toTomlChars ++ second.toTomlChars := by
    simp [toToml]
  rw [ofToml, Toml.readText, text, parse?_append]
  cases empty : first.isEmpty with
  | true =>
      rw [lines_of_isEmpty empty, List.singleton_append, ofLines?_empty_append]
      rfl
  | false =>
      rcases ofEntries_of_lines empty second with ⟨entries, document, rules⟩
      rw [document]
      simp only [rules]
      rfl

end RuleTable

end DeviceFlags
