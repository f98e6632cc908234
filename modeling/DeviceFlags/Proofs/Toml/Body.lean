import DeviceFlags.Proofs.Toml.Front
import DeviceFlags.Proofs.Toml.Lines

/-!
# Documents before they are put together

The lines of a document, sorted into the assignments of its own and the sections
behind them.  All values in them have been read where they stand in the text.
-/

namespace DeviceFlags.Toml

/-- What is written of a table: the assignments of its own, and the sections
behind them. -/
structure Body where
  assignments : List Assignment
  sections : List Section

namespace Body

/-- What the lines of a document say. -/
def ofLines (lines : List Line) : Body :=
  ⟨(Toml.sections lines).1, (Toml.sections lines).2⟩

/-- The entries that result. -/
def entries? (body : Body) : Option Entries := do
  let entries ← Entries.assignAll [] body.assignments
  body.sections.foldlM Entries.addSection entries

/-- What is written of a table gives the table. -/
def Gives (body : Body) (entries : Entries) : Prop :=
  body.entries? = some entries

end Body

/-- The text of a document, line by line. -/
def body? (text : List Char) : Option Body :=
  (lines? (dropByteOrderMark text)).map Body.ofLines

theorem parse?_eq_entries? (text : List Char) : parse? text = (body? text).bind Body.entries? := by
  rw [parse?_eq, body?]
  cases lines? (dropByteOrderMark text) <;> rfl

theorem exists_body_of_parse? {text : List Char} {entries : Entries}
    (valid : parse? text = some entries) : ∃ body, body? text = some body ∧ body.Gives entries := by
  rw [parse?_eq_entries?] at valid
  exact Option.bind_eq_some_iff.1 valid

/-! ## Where the values come from -/

theorem Assignment.exists_of_read {reader : Reader Value} {text rest : List Char}
    {assignment : Assignment} (read : Assignment.read reader text = some (assignment, rest)) :
    ∃ front behind, front <:+ text ∧ reader front = some (assignment.value, behind) := by
  rcases Option.bind_eq_some_iff.1 read with ⟨⟨key, text₁⟩, keyRead, read⟩
  rcases Option.bind_eq_some_iff.1 read with ⟨text₂, mark, read⟩
  rcases Option.bind_eq_some_iff.1 read with ⟨⟨value, text₃⟩, valueRead, ⟨⟩⟩
  have within : skipSpace text₂ <:+ text :=
    (suffix_skipSpace text₂).trans
      ((suffix_of_expect mark).trans (takesFront_keyPath _ _ _ keyRead))
  exact ⟨_, _, within, valueRead⟩

/-- The value of an assignment has been read where it stands in a text. -/
def Assignment.IsReadIn (text : List Char) (assignment : Assignment) : Prop :=
  ∃ front behind, front <:+ text ∧ Value.read front = some (assignment.value, behind)

theorem Line.isReadIn_of_read {text rest : List Char} {assignment : Assignment}
    (read : Line.read text = some (some (.assignment assignment), rest)) :
    assignment.IsReadIn text := by
  rcases Option.bind_eq_some_iff.1 read with ⟨⟨line, behind⟩, content, read⟩
  rcases Option.bind_eq_some_iff.1 read with ⟨behind', -, ⟨⟩⟩
  unfold Line.content at content
  split at content
  case h_5 =>
    rcases Option.map_eq_some_iff.1 content with ⟨⟨header, _⟩, _, impossible⟩
    cases impossible
  case h_6 =>
    rcases Option.map_eq_some_iff.1 content with ⟨⟨same, _⟩, assignmentRead, ⟨⟩⟩
    rcases Assignment.exists_of_read assignmentRead with ⟨front, behind', within, valueRead⟩
    exact ⟨front, behind', within.trans (suffix_skipSpace text), valueRead⟩
  all_goals cases content

theorem isReadIn_of_lines? {text : List Char} {lines : List Line}
    (read : lines? text = some lines) {assignment : Assignment}
    (member : .assignment assignment ∈ lines) : assignment.IsReadIn text := by
  rcases Option.map_eq_some_iff.1 read with ⟨all, allRead, rfl⟩
  rcases List.mem_filterMap.1 member with ⟨line, among, rfl⟩
  rcases Reader.exists_of_mem_all? allRead among with ⟨front, behind, lineRead, within⟩
  rcases Line.isReadIn_of_read lineRead with ⟨front', behind', withinLine, valueRead⟩
  exact ⟨front', behind', withinLine.trans (within takesFront_lineRead), valueRead⟩

/-- The assignments of a document and of its sections are those of its lines. -/
theorem mem_lines_of_sections (lines : List Line) :
    (∀ assignment ∈ (sections lines).1, .assignment assignment ∈ lines) ∧
      ∀ added ∈ (sections lines).2, ∀ assignment ∈ added.assignments,
        .assignment assignment ∈ lines := by
  induction lines with
  | nil => simp [sections]
  | cons line rest ih =>
      cases line with
      | assignment first =>
          simp only [sections]
          grind
      | header header =>
          simp only [sections]
          grind

section IsReadIn

variable {text : List Char} {body : Body} (written : body? text = some body)
include written

/-- The lines of a document, and where their values stand. -/
theorem exists_lines_of_body? :
    ∃ lines, body = Body.ofLines lines ∧
      ∀ assignment, .assignment assignment ∈ lines → assignment.IsReadIn text := by
  rcases Option.map_eq_some_iff.1 written with ⟨lines, read, same⟩
  refine ⟨lines, same.symm, ?_⟩
  intro assignment member
  rcases isReadIn_of_lines? read member with ⟨front, behind, within, valueRead⟩
  exact ⟨front, behind, within.trans (suffix_dropByteOrderMark text), valueRead⟩

theorem body_assignments_isReadIn :
    ∀ assignment ∈ body.assignments, assignment.IsReadIn text := by
  rcases exists_lines_of_body? written with ⟨lines, same, read⟩
  subst same
  intro assignment member
  exact read assignment ((mem_lines_of_sections lines).1 assignment member)

theorem body_sections_isReadIn :
    ∀ added ∈ body.sections, ∀ assignment ∈ added.assignments, assignment.IsReadIn text := by
  rcases exists_lines_of_body? written with ⟨lines, same, read⟩
  subst same
  intro added among assignment member
  exact read assignment ((mem_lines_of_sections lines).2 added among assignment member)

end IsReadIn

end DeviceFlags.Toml
