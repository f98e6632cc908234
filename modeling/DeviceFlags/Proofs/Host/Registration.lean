import DeviceFlags.Proofs.Host.Registry

/-!
# Registrations and the registry that they make

A registry is told from the factories that were offered to it, one after another:
a name has the one that was offered first, and the offers behind it are refused.
-/

namespace DeviceFlags

/-- A factory that was offered to a registry under a name, and whether it was
accepted. -/
structure Registration where
  name : String
  factory : Factory
  accepted : Bool

/-- A registry is what its registrations made of it.  The first registration of
a name gives the factory and is accepted, and the others are not. -/
structure Registry.Records (registry : Registry) (history : List Registration) : Prop where
  ascending : registry.names.Pairwise (· < ·)
  lookup_eq : ∀ name,
    registry.factories.lookup name = (history.find? (·.name = name)).map (·.factory)
  first_accepted : ∀ name entry, history.find? (·.name = name) = some entry →
    entry.accepted = true
  later_refused : history.Pairwise fun earlier later =>
    earlier.name = later.name → later.accepted = false

namespace Registry.Records

variable {registry : Registry} {history : List Registration}

theorem empty : (∅ : Registry).Records [] where
  ascending := .nil
  lookup_eq _ := rfl
  first_accepted _ _ found := nomatch found
  later_refused := .nil

theorem mem_names_iff (records : registry.Records history) {name : String} :
    name ∈ registry.names ↔ ∃ entry ∈ history, entry.name = name := by
  rw [mem_names_iff_lookup, records.lookup_eq, ← Option.isSome_iff_exists, Option.isSome_map,
    List.find?_isSome]
  simp only [decide_eq_true_eq]

theorem offer (records : registry.Records history) {name : String} {accepted : Bool}
    (factory : Factory) (decided : accepted = true ↔ name ∉ registry.names) :
    (registry.offer name factory).Records (history ++ [⟨name, factory, accepted⟩]) where
  ascending := ascending_offer records.ascending name factory
  lookup_eq other := by
    rw [lookup_offer, records.lookup_eq, List.find?_append, Option.map_or]
    by_cases same : name = other
    · simp [same]
    · simp [same, Ne.symm same]
  first_accepted other entry found := by
    rw [List.find?_append, Option.or_eq_some_iff] at found
    rcases found with early | ⟨none, last⟩
    · exact records.first_accepted other entry early
    · rw [List.find?_singleton] at last
      split at last
      next same =>
        cases last
        rw [decide_eq_true_eq] at same
        subst same
        rw [decided, records.mem_names_iff]
        rintro ⟨earlier, member, equal⟩
        exact List.find?_eq_none.1 none earlier member (decide_eq_true equal)
      next => cases last
  later_refused := by
    rw [List.pairwise_append]
    refine ⟨records.later_refused, List.pairwise_singleton _ _, ?_⟩
    intro earlier member later last same
    rw [List.mem_singleton] at last
    subst last
    rw [Bool.eq_false_iff]
    intro wasAccepted
    exact decided.1 wasAccepted (records.mem_names_iff.2 ⟨earlier, member, same⟩)

/-- The names are those of the registrations that were accepted. -/
theorem mem_names_iff_accepted (records : registry.Records history) {name : String} :
    name ∈ registry.names ↔ ∃ entry ∈ history, entry.name = name ∧ entry.accepted = true := by
  constructor
  · intro taken
    rw [mem_names_iff_lookup, records.lookup_eq] at taken
    rcases taken with ⟨factory, found⟩
    rcases Option.map_eq_some_iff.1 found with ⟨entry, first, -⟩
    have named := List.find?_some first
    rw [decide_eq_true_eq] at named
    exact ⟨entry, List.mem_of_find?_eq_some first, named,
      records.first_accepted name entry first⟩
  · rintro ⟨entry, member, same, -⟩
    exact records.mem_names_iff.2 ⟨entry, member, same⟩

/-- The first registration of a name gives its factory. -/
theorem exists_first (records : registry.Records history) {name : String}
    (taken : name ∈ registry.names) :
    ∃ before first later, history = before ++ first :: later ∧ first.name = name ∧
      first.accepted = true ∧ (∀ entry ∈ before, entry.name ≠ name) ∧
      (∀ entry ∈ later, entry.name = name → entry.accepted = false) ∧
      registry.factories.lookup name = some first.factory := by
  rw [mem_names_iff_lookup, records.lookup_eq] at taken
  rcases taken with ⟨factory, found⟩
  rcases Option.map_eq_some_iff.1 found with ⟨first, isFirst, rfl⟩
  have accepted := records.first_accepted name first isFirst
  have lookup := records.lookup_eq name
  rw [isFirst] at lookup
  rcases List.find?_eq_some_iff_append.1 isFirst with ⟨named, before, later, split, others⟩
  rw [decide_eq_true_eq] at named
  refine ⟨before, first, later, split, named, accepted, ?_, ?_, lookup⟩
  · intro entry member same
    have other := others entry member
    rw [decide_eq_true same] at other
    cases other
  · intro entry member same
    have refused := records.later_refused
    rw [split, List.pairwise_append, List.pairwise_cons] at refused
    rcases refused with ⟨-, ⟨refusedLater, -⟩, -⟩
    exact refusedLater entry member (named.trans same.symm)

end Registry.Records

end DeviceFlags
