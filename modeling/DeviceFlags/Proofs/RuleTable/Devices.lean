import DeviceFlags.Proofs.FirstOccurrence
import DeviceFlags.Proofs.RuleTable.Repetition

/-!
# The devices of a table

The devices that a table names are those for which it has flags, each once and
in the order of their first rules.  They part the rules among them: each rule
gives its flag to one of them.
-/

namespace DeviceFlags.RuleTable

variable {table : RuleTable} {device : String}

theorem mem_devices : device ∈ table.devices ↔ device ∈ table.rules.map (·.device) :=
  List.mem_eraseDups

theorem mem_devices_iff_resolve : device ∈ table.devices ↔ table.resolve device ≠ [] := by
  rw [mem_devices, List.mem_map, ne_eq, resolve, List.map_eq_nil_iff, List.filter_eq_nil_iff]
  simp [Rule.appliesTo]

theorem length_devices (table : RuleTable) :
    table.devices.length = (table.rules.map (·.device)).toFinset.card := by
  rw [← List.toFinset_card_of_nodup table.nodup_devices]
  congr 1
  apply Finset.ext
  intro device
  rw [List.mem_toFinset, List.mem_toFinset, mem_devices]

/-! ## How many flags there are -/

theorem length_resolve (table : RuleTable) (device : String) :
    (table.resolve device).length = (table.rules.map (·.device)).count device := by
  rw [resolve, List.length_map, List.count_eq_countP, List.countP_map,
    List.countP_eq_length_filter]
  rfl

theorem sum_length_resolve (table : RuleTable) :
    (table.devices.map fun device => (table.resolve device).length).sum = table.size := by
  have each : (fun device => (table.resolve device).length) =
      fun device => (table.rules.map (·.device)).count device :=
    funext table.length_resolve
  rw [each, sum_count_devices fun _ => mem_devices.2, List.length_map]
  rfl

/-! ## In the order of the first rules -/

/-- The position of the first rule for a device. -/
def firstRule? (table : RuleTable) (device : String) : Option Nat :=
  table.rules.findIdx? (·.appliesTo device)

theorem firstRule?_eq_some_iff {position : Nat} :
    table.firstRule? device = some position ↔
      device ∈ table.devices ∧ (table.rules.map (·.device)).idxOf device = position := by
  have first : (table.rules.map (·.device)).idxOf device =
      table.rules.findIdx (·.appliesTo device) :=
    List.findIdx_map ..
  rw [firstRule?, List.findIdx?_eq_some_iff_findIdx_eq, mem_devices, ← List.idxOf_lt_length_iff,
    List.length_map, first]
  constructor
  · intro found
    rcases found with ⟨bound, rfl⟩
    exact ⟨bound, rfl⟩
  · intro found
    rcases found with ⟨bound, rfl⟩
    exact ⟨bound, rfl⟩

theorem getElem?_devices_eq_some_iff {position : Nat} :
    table.devices[position]? = some device ↔
      device ∈ table.devices ∧ table.devices.idxOf device = position :=
  getElem?_eq_some_iff_idxOf table.nodup_devices

theorem devices_ordered (table : RuleTable) (first second : String) :
    (∃ i j : Nat, i < j ∧ table.devices[i]? = some first ∧ table.devices[j]? = some second) ↔
      ∃ i j : Nat, i < j ∧ table.firstRule? first = some i ∧ table.firstRule? second = some j := by
  simp only [getElem?_devices_eq_some_iff, firstRule?_eq_some_iff]
  have same : table.devices.idxOf first < table.devices.idxOf second ↔
      (table.rules.map (·.device)).idxOf first < (table.rules.map (·.device)).idxOf second :=
    idxOf_eraseDups_lt_iff
  constructor
  · intro positions
    rcases positions with ⟨_, _, less, ⟨known, rfl⟩, known', rfl⟩
    exact ⟨_, _, same.1 less, ⟨known, rfl⟩, known', rfl⟩
  · intro positions
    rcases positions with ⟨_, _, less, ⟨known, rfl⟩, known', rfl⟩
    exact ⟨_, _, same.2 less, ⟨known, rfl⟩, known', rfl⟩

/-! ## One table behind another -/

theorem devices_append (first second : RuleTable) :
    (first ++ second).devices =
      first.devices ++ second.devices.filter (· ∉ first.devices) := by
  have others : (second.rules.map (·.device)).removeAll (first.rules.map (·.device)) =
      (second.rules.map (·.device)).filter (· ∉ first.devices) := by
    apply List.filter_congr
    intro device _
    simp only [List.elem_eq_contains, List.contains_eq_mem, mem_devices, decide_not]
  rw [devices, rules_append, List.map_append, List.eraseDups_append, others, eraseDups_filter]
  rfl

/-- The devices of a table are those that get a flag, each once, one before
another exactly if its first rule is before that of the other.  Together they
get as many flags as there are rules.  Another table behind it adds its own
devices as far as they are new, in its own order. -/
theorem devices_support (table : RuleTable) :
    (∀ device, device ∈ table.devices ↔ table.resolve device ≠ []) ∧
      table.devices.Nodup ∧
      (∀ first second,
        (∃ i j : Nat, i < j ∧ table.devices[i]? = some first ∧ table.devices[j]? = some second) ↔
          ∃ i j : Nat, i < j ∧ table.firstRule? first = some i ∧ table.firstRule? second = some j) ∧
      (table.devices.map fun device => (table.resolve device).length).sum = table.size ∧
      ∀ later : RuleTable, (table ++ later).devices =
        table.devices ++ later.devices.filter (· ∉ table.devices) := by
  exact ⟨fun _ => mem_devices_iff_resolve, table.nodup_devices, table.devices_ordered,
    table.sum_length_resolve, table.devices_append⟩

end DeviceFlags.RuleTable
