import DeviceFlags.Proofs.FirstOccurrence
import DeviceFlags.Proofs.Toml.Body
import DeviceFlags.Proofs.Toml.Entries
import Mathlib.Data.List.Induction

/-!
# The order of keys

A document names a key at its top in several ways: with a value, as the first
part of a dotted key, in the header of a table inside it, or in a header of its
own.  A header of its own puts a table behind all other keys, also one that an
inner header has named before.  So the keys of a document are in the order in
which its lines name them, where what names a table before its own header does
not count.
-/

namespace DeviceFlags.Toml

/-! ## Naming a key -/

/-- The part of a key that is looked up first. -/
def KeyPath.head (key : KeyPath) : String :=
  key.parents.headD key.name

/-- How a line names a key of a document. -/
inductive Mention where
  /-- With a value, or on the way to a table inside it. -/
  | names (key : String)
  /-- As a table, with a header of its own. -/
  | opens (key : String)
  deriving DecidableEq, Repr

namespace Mention

/-- The key that is named. -/
def key : Mention → String
  | names key => key
  | opens key => key

/-- The keys after one more line.  A key that was not there is put behind all
others, and so is one whose table is opened. -/
def note (keys : List String) : Mention → List String
  | names key => if key ∈ keys then keys else keys ++ [key]
  | opens key => keys.filter (· != key) ++ [key]

theorem note_names_cons {name key : String} (other : name ≠ key) (keys : List String) :
    note (name :: keys) (.names key) = name :: note keys (.names key) := by
  simp only [note, List.mem_cons, Ne.symm other, false_or]
  split <;> rfl

theorem note_of_notMem {keys : List String} {mention : Mention} (new : mention.key ∉ keys) :
    note keys mention = keys ++ [mention.key] := by
  cases mention with
  | names key => exact if_neg new
  | opens key =>
      have others : keys.filter (· != key) = keys := by
        rw [List.filter_eq_self]
        rintro name member
        rw [bne_iff_ne]
        rintro rfl
        exact new member
      rw [note, others]
      rfl

theorem nodup_note {keys : List String} (distinct : keys.Nodup) (mention : Mention) :
    (note keys mention).Nodup := by
  cases mention with
  | names key =>
      rw [note]
      split
      case isTrue => exact distinct
      case isFalse new =>
        rw [← List.concat_eq_append]
        exact List.Nodup.concat new distinct
  | opens key =>
      rw [note, ← List.concat_eq_append]
      exact List.Nodup.concat (by simp) (distinct.filter _)

/-- The lines that give the keys their places: all but those that name a table
before a header of its own. -/
def settled : List Mention → List Mention
  | [] => []
  | mention :: later =>
      if opens mention.key ∈ later then settled later else mention :: settled later

theorem settled_append_names (earlier : List Mention) (key : String) :
    settled (earlier ++ [names key]) = settled earlier ++ [names key] := by
  induction earlier with
  | nil => rfl
  | cons mention rest ih =>
      rw [List.cons_append, settled, settled, ih]
      simp only [List.mem_append, List.mem_singleton, reduceCtorEq, or_false]
      split <;> rfl

theorem settled_append_opens (earlier : List Mention) (key : String) :
    settled (earlier ++ [opens key]) =
      (settled earlier).filter (fun mention => mention.key != key) ++ [opens key] := by
  induction earlier with
  | nil => rfl
  | cons mention rest ih =>
      rw [List.cons_append, settled, settled, ih]
      by_cases same : mention.key = key
      · rw [if_pos (by simp [same])]
        split
        case isTrue => rfl
        case isFalse => rw [List.filter_cons_of_neg (by simp [same])]
      · simp only [List.mem_append, List.mem_singleton, opens.injEq, same, or_false]
        split
        case isTrue => rfl
        case isFalse => rw [List.filter_cons_of_pos (by simpa using same), List.cons_append]

theorem foldl_note_eq_eraseDups (mentions : List Mention) :
    mentions.foldl note [] = ((settled mentions).map key).eraseDups := by
  induction mentions using List.reverseRecOn with
  | nil => rfl
  | append_singleton earlier last ih =>
      rw [List.foldl_append, List.foldl_cons, List.foldl_nil, ih]
      cases last with
      | names key =>
          rw [settled_append_names, List.map_append, List.eraseDups_append]
          by_cases known : key ∈ (settled earlier).map Mention.key
          · rw [note, if_pos (List.mem_eraseDups.2 known)]
            simp_all [List.removeAll, Mention.key]
          · rw [note, if_neg (mt List.mem_eraseDups.1 known)]
            simp_all [List.removeAll, Mention.key, List.eraseDups_cons]
      | opens key =>
          have others : ((settled earlier).map Mention.key).filter (· != key) =
            ((settled earlier).filter fun mention => mention.key != key).map Mention.key := by
            rw [List.filter_map]
            rfl
          rw [settled_append_opens, List.map_append, List.eraseDups_append, note,
            ← eraseDups_filter, others]
          simp [List.removeAll, List.eraseDups_cons, Mention.key]

end Mention

/-- The way in which an assignment names the first part of its key. -/
def Assignment.mention (assignment : Assignment) : Mention :=
  .names assignment.key.head

/-- The way in which a section names the first part of the key in its header. -/
def Section.mention (added : Section) : Mention :=
  match added.header with
  | .table ⟨[], name⟩ => .opens name
  | .table key => .names key.head
  | .element key => .names key.head

/-! ## One step after another -/

namespace Entries

variable {entries result : Entries} {key name : String}

theorem keys_change {edit : Option Value → Option Value}
    (changed : entries.change key edit = some result) :
    result.keys = Mention.note entries.keys (.names key) := by
  induction entries generalizing result with
  | nil =>
      rcases Option.map_eq_some_iff.1 changed with ⟨value, _, rfl⟩
      rfl
  | cons entry rest ih =>
      rcases entry with ⟨name, value⟩
      rw [change] at changed
      split at changed
      case isTrue same =>
        subst same
        rcases Option.map_eq_some_iff.1 changed with ⟨value', _, rfl⟩
        exact (if_pos List.mem_cons_self).symm
      case isFalse other =>
        rcases Option.map_eq_some_iff.1 changed with ⟨rest', behind, rfl⟩
        rw [keys_cons, keys_cons, ih behind, Mention.note_names_cons other]

theorem keys_add {value : Value} (added : Entries.add name value entries = some result) :
    result.keys = Mention.note entries.keys (.names name) := by
  rcases add_eq_some_iff.1 added with ⟨absent, rfl⟩
  rw [Mention.note_of_notMem (find?_eq_none_iff.1 absent), keys_append]
  rfl

theorem keys_assign {assignment : Assignment}
    (assigned : entries.assign assignment.key.name assignment.value assignment.key.parents =
      some result) :
    result.keys = Mention.note entries.keys assignment.mention := by
  rcases assignment with ⟨⟨parents, name⟩, value⟩
  cases parents with
  | nil => exact keys_add assigned
  | cons parent beyond =>
      simp only [assign] at assigned
      exact keys_change assigned

theorem keys_within {edit : Entries → Option Entries} {parent : String} {beyond : List String}
    (changed : entries.within edit (parent :: beyond) = some result) :
    result.keys = Mention.note entries.keys (.names parent) := by
  rw [within] at changed
  exact keys_change changed

theorem keys_openTable {assignments : List Assignment}
    (opened : entries.openTable name assignments = some result) :
    result.keys = Mention.note entries.keys (.opens name) := by
  rcases openTable_eq_some_iff.1 opened with ⟨before, inner, -, -, rfl⟩
  rw [keys_append, keys_erase]
  rfl

theorem keys_openElement {assignments : List Assignment}
    (opened : entries.openElement name assignments = some result) :
    result.keys = Mention.note entries.keys (.names name) := by
  rcases Option.bind_eq_some_iff.1 opened with ⟨inner, -, changed⟩
  exact keys_change changed

theorem keys_addSection {added : Section} (done : entries.addSection added = some result) :
    result.keys = Mention.note entries.keys added.mention := by
  rcases added with ⟨header, assignments⟩
  cases header with
  | table key =>
      rcases key with ⟨parents, name⟩
      cases parents with
      | nil => exact keys_openTable done
      | cons parent beyond => exact keys_within done
  | element key =>
      rcases key with ⟨parents, name⟩
      cases parents with
      | nil => exact keys_openElement done
      | cons parent beyond => exact keys_within done

/-- What each step does to the keys, a run does one after another. -/
theorem keys_foldlM {α : Type} {step : Entries → α → Option Entries} {mention : α → Mention}
    (each : ∀ entries item result, step entries item = some result →
      Entries.keys result = Mention.note (Entries.keys entries) (mention item))
    {items : List α} (done : items.foldlM step entries = some result) :
    result.keys = (items.map mention).foldl Mention.note entries.keys := by
  induction items generalizing entries with
  | nil =>
      cases done
      rfl
  | cons item rest ih =>
      rw [List.foldlM_cons] at done
      rcases Option.bind_eq_some_iff.1 done with ⟨middle, first, later⟩
      rw [ih later, each _ _ _ first]
      rfl

theorem keys_assignAll {assignments : List Assignment}
    (assigned : entries.assignAll assignments = some result) :
    result.keys = (assignments.map Assignment.mention).foldl Mention.note entries.keys := by
  apply keys_foldlM _ assigned
  intro entries assignment result
  exact keys_assign

theorem keys_addSections {sections : List Section}
    (added : sections.foldlM addSection entries = some result) :
    result.keys = (sections.map Section.mention).foldl Mention.note entries.keys := by
  apply keys_foldlM _ added
  intro entries next result
  exact keys_addSection

end Entries

/-! ## Documents -/

namespace Body

/-- All the ways in which keys are named, line by line. -/
def mentions (body : Body) : List Mention :=
  body.assignments.map Assignment.mention ++ body.sections.map Section.mention

/-- The keys, in the order in which they are written. -/
def keyOrder (body : Body) : List String :=
  ((Mention.settled body.mentions).map Mention.key).eraseDups

theorem keys_eq_keyOrder {body : Body} {entries : Entries} (gives : body.Gives entries) :
    entries.keys = body.keyOrder := by
  rcases Option.bind_eq_some_iff.1 gives with ⟨first, assigned, added⟩
  rw [Entries.keys_addSections added, Entries.keys_assignAll assigned, keyOrder,
    ← Mention.foldl_note_eq_eraseDups, mentions, List.foldl_append]
  rfl

end Body

end DeviceFlags.Toml
