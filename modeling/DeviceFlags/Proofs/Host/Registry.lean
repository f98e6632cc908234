import DeviceFlags.Host.Registry

/-!
# Registering factories

The names of a registry stay in ascending order when a factory is registered.  A
name that is taken keeps its factory, and all others keep theirs.
-/

namespace DeviceFlags.Registry

variable {name : String} {factory : Factory}

/-! ## Putting an entry in its place -/

section Insert

variable {factories : List (String × Factory)}

theorem mem_insert {entry : String × Factory} :
    entry ∈ insert name factory factories ↔ entry = (name, factory) ∨ entry ∈ factories := by
  induction factories with
  | nil => simp [insert]
  | cons head rest ih =>
      rcases head with ⟨other, otherFactory⟩
      rw [insert]
      split
      · rw [List.mem_cons]
      · rw [List.mem_cons, ih, List.mem_cons]
        exact or_left_comm

theorem mem_map_insert {other : String} :
    other ∈ (insert name factory factories).map (·.1) ↔
      other = name ∨ other ∈ factories.map (·.1) := by
  simp only [List.mem_map, mem_insert]
  constructor
  · rintro ⟨entry, rfl | member, rfl⟩
    · exact .inl rfl
    · exact .inr ⟨entry, member, rfl⟩
  · rintro (rfl | ⟨entry, member, rfl⟩)
    · exact ⟨_, .inl rfl, rfl⟩
    · exact ⟨entry, .inr member, rfl⟩

theorem ascending_insert (ascending : (factories.map (·.1)).Pairwise (· < ·))
    (fresh : name ∉ factories.map (·.1)) :
    ((insert name factory factories).map (·.1)).Pairwise (· < ·) := by
  induction factories with
  | nil => exact List.pairwise_singleton _ _
  | cons head rest ih =>
      rcases head with ⟨other, otherFactory⟩
      rw [List.map_cons, List.pairwise_cons] at ascending
      rw [List.map_cons, List.mem_cons, not_or] at fresh
      rw [insert]
      split
      next before =>
        simp only [List.map_cons, List.pairwise_cons]
        refine ⟨List.forall_mem_cons.2 ⟨before, ?_⟩, ascending⟩
        intro later member
        exact String.lt_trans before (ascending.1 later member)
      next notBefore =>
        -- The name is not there, so the head is strictly in front of it.
        have behind : other < name := by
          apply String.not_le.1
          intro le
          exact fresh.1 (String.le_antisymm le (String.not_lt.1 notBefore))
        rw [List.map_cons, List.pairwise_cons]
        refine ⟨?_, ih ascending.2 fresh.2⟩
        intro later member
        rcases mem_map_insert.1 member with rfl | among
        · exact behind
        · exact ascending.1 later among

theorem lookup_insert (fresh : name ∉ factories.map (·.1)) (other : String) :
    (insert name factory factories).lookup other =
      if other = name then some factory else factories.lookup other := by
  induction factories with
  | nil =>
      by_cases same : other = name
      · simp [insert, same]
      · simp [insert, List.lookup_cons, beq_eq_false_iff_ne.2 same, same]
  | cons head rest ih =>
      rcases head with ⟨first, firstFactory⟩
      rw [List.map_cons, List.mem_cons, not_or] at fresh
      rw [insert]
      split
      · by_cases same : other = name
        · simp [same]
        · simp [List.lookup_cons, beq_eq_false_iff_ne.2 same, same]
      · rw [List.lookup_cons, List.lookup_cons, ih fresh.2]
        by_cases equal : other = first
        · subst equal
          simp [Ne.symm fresh.1]
        · simp [beq_eq_false_iff_ne.2 equal]

end Insert

/-! ## Offering a factory -/

/-- A registry to which a factory was offered under a name.  If the name is taken,
the registry is as it was. -/
def offer (registry : Registry) (name : String) (factory : Factory) : Registry :=
  (registry.register? name factory).getD registry

variable {registry : Registry}

theorem contains_eq (registry : Registry) (name : String) :
    registry.contains name = decide (name ∈ registry.names) :=
  List.contains_eq_mem name registry.names

theorem register?_of_mem (taken : name ∈ registry.names) (factory : Factory) :
    registry.register? name factory = none := by
  rw [register?, contains_eq, decide_eq_true taken]
  rfl

theorem register?_of_notMem (fresh : name ∉ registry.names) (factory : Factory) :
    registry.register? name factory = some (registry.offer name factory) := by
  rw [offer, register?, contains_eq, decide_eq_false fresh]
  rfl

theorem offer_of_mem (taken : name ∈ registry.names) (factory : Factory) :
    registry.offer name factory = registry := by
  rw [offer, register?_of_mem taken, Option.getD_none]

theorem factories_offer_of_notMem (fresh : name ∉ registry.names) (factory : Factory) :
    (registry.offer name factory).factories = insert name factory registry.factories := by
  rw [offer, register?, contains_eq, decide_eq_false fresh]
  rfl

theorem mem_names_offer {other : String} :
    other ∈ (registry.offer name factory).names ↔ other = name ∨ other ∈ registry.names := by
  by_cases taken : name ∈ registry.names
  · rw [offer_of_mem taken]
    constructor
    · exact .inr
    · rintro (rfl | member)
      · exact taken
      · exact member
  · rw [names, factories_offer_of_notMem taken]
    exact mem_map_insert

theorem ascending_offer (ascending : registry.names.Pairwise (· < ·)) (name : String)
    (factory : Factory) : (registry.offer name factory).names.Pairwise (· < ·) := by
  by_cases taken : name ∈ registry.names
  · rwa [offer_of_mem taken]
  · rw [names, factories_offer_of_notMem taken]
    exact ascending_insert ascending taken

theorem mem_names_iff_lookup :
    name ∈ registry.names ↔ ∃ factory, registry.factories.lookup name = some factory := by
  rw [← Option.isSome_iff_exists, List.lookup_isSome_iff, names, List.mem_map]
  constructor
  · rintro ⟨entry, member, rfl⟩
    exact ⟨entry, member, beq_self_eq_true _⟩
  · rintro ⟨entry, member, same⟩
    exact ⟨entry, member, (eq_of_beq same).symm⟩

theorem lookup_eq_none (unknown : name ∉ registry.names) :
    registry.factories.lookup name = none := by
  rw [Option.eq_none_iff_forall_ne_some]
  intro factory found
  exact unknown (mem_names_iff_lookup.2 ⟨factory, found⟩)

/-- A registration gives a factory to a name that has none. -/
theorem lookup_offer (registry : Registry) (name : String) (factory : Factory) (other : String) :
    (registry.offer name factory).factories.lookup other =
      (registry.factories.lookup other).or (if other = name then some factory else none) := by
  by_cases taken : name ∈ registry.names
  · rw [offer_of_mem taken]
    by_cases same : other = name
    · subst same
      rcases mem_names_iff_lookup.1 taken with ⟨first, found⟩
      rw [found, Option.some_or]
    · rw [if_neg same, Option.or_none]
  · rw [factories_offer_of_notMem taken, lookup_insert taken]
    by_cases same : other = name
    · subst same
      rw [lookup_eq_none taken, if_pos rfl, Option.none_or]
    · rw [if_neg same, if_neg same, Option.or_none]

/-- A registry has the factory of a name make a module, and renames it. -/
theorem create?_of_lookup (known : registry.factories.lookup name = some factory)
    (moduleName : String) :
    registry.create? name moduleName = some { factory.made with name := moduleName } := by
  rw [create?, known]
  rfl

theorem create?_of_notMem (unknown : name ∉ registry.names) (moduleName : String) :
    registry.create? name moduleName = none := by
  rw [create?, lookup_eq_none unknown, Option.map_none]

end DeviceFlags.Registry
