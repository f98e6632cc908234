/-!
# Rule tables

A rule gives one compiler flag to one device, named exactly.  A table is an
ordered list of rules.  Resolving a device picks the flags of its rules in
table order: nothing is merged, dropped or sorted, since the order of compiler
arguments has a meaning.
-/

namespace DeviceFlags

/-- A flag for one device. -/
structure Rule where
  device : String
  flag : String
  deriving DecidableEq, Repr

/-- An ordered list of rules. -/
structure RuleTable where
  rules : List Rule
  deriving DecidableEq, Repr

/-- Whether a rule applies to a device.  Names are compared exactly. -/
def Rule.appliesTo (rule : Rule) (device : String) : Bool :=
  rule.device == device

namespace RuleTable

instance : EmptyCollection RuleTable where
  emptyCollection := ⟨[]⟩

/-- The rules of the second table follow those of the first. -/
instance : Append RuleTable where
  append first second := ⟨first.rules ++ second.rules⟩

@[simp] theorem rules_empty : (∅ : RuleTable).rules = [] := rfl

@[simp] theorem rules_append (first second : RuleTable) :
    (first ++ second).rules = first.rules ++ second.rules := rfl

/-- The rules that hold without any file. -/
def builtin : RuleTable where
  rules :=
    [⟨"chinatsp_s203_p_8q", "-DCHINATSP_S203_P_8Q=\"chinatsp_s203_p_8q\""⟩,
     ⟨"chinatsp_f202_p_8q", "-DCHINATSP_F202_P_8Q=\"chinatsp_f202_p_8q\""⟩]

/-- The number of rules. -/
def size (table : RuleTable) : Nat :=
  table.rules.length

/-- Whether the table has no rule. -/
def isEmpty (table : RuleTable) : Bool :=
  table.rules.isEmpty

@[simp] theorem size_append (first second : RuleTable) :
    (first ++ second).size = first.size + second.size := by
  simp [size]

/-- Adds a rule after all others. -/
def push (table : RuleTable) (rule : Rule) : RuleTable :=
  ⟨table.rules ++ [rule]⟩

@[simp] theorem rules_push (table : RuleTable) (rule : Rule) :
    (table.push rule).rules = table.rules ++ [rule] := rfl

/-- For each rule whether it applies to the device. -/
def applicability (table : RuleTable) (device : String) : List Bool :=
  table.rules.map (·.appliesTo device)

/-- The flags of a device, in table order. -/
def resolve (table : RuleTable) (device : String) : List String :=
  (table.rules.filter (·.appliesTo device)).map (·.flag)

@[simp] theorem resolve_empty (device : String) : (∅ : RuleTable).resolve device = [] := rfl

@[simp] theorem resolve_append (first second : RuleTable) (device : String) :
    (first ++ second).resolve device = first.resolve device ++ second.resolve device := by
  simp [resolve]

theorem mem_resolve {table : RuleTable} {device flag : String} :
    flag ∈ table.resolve device ↔ ⟨device, flag⟩ ∈ table.rules := by
  simp only [resolve, List.mem_map, List.mem_filter, Rule.appliesTo, beq_iff_eq]
  constructor
  · rintro ⟨⟨_, _⟩, ⟨member, rfl⟩, rfl⟩
    exact member
  · intro member
    exact ⟨_, ⟨member, rfl⟩, rfl⟩

/-- The distinct devices, in the order of their first rules. -/
def devices (table : RuleTable) : List String :=
  (table.rules.map (·.device)).eraseDups

end RuleTable

end DeviceFlags
