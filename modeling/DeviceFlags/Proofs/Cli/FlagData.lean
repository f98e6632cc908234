import DeviceFlags.Cli.Run
import DeviceFlags.Proofs.Blueprint.Fragment
import DeviceFlags.Proofs.Json.RoundTrip

/-!
# Flags for other programs

A fragment of the build language and a JSON text tell the flags that they are
written for, in their order and whatever they hold: what a flag has in common
with the text around it is escaped.
-/

namespace DeviceFlags

namespace Blueprint

theorem toList_render (flags : List String) : (render ⟨flags⟩).toList = fragment flags :=
  String.toList_ofList

theorem inverts_property_render :
    Toml.Reader.Inverts property fun flags => (render ⟨flags⟩).toList := by
  simp only [toList_render]
  exact inverts_property

theorem render_injective : Function.Injective fun flags => render ⟨flags⟩ := by
  intro flags others same
  have read := inverts_property_render.reads flags []
  have other := inverts_property_render.reads others []
  simp only at same
  rw [same, other] at read
  cases read
  rfl

end Blueprint

namespace Json

theorem toValue_ofStrings (texts : List String) :
    toValue (ofStrings texts) = .array (texts.map .string) := by
  simp [ofStrings, toValue]

theorem read?_render (json : Json) : read? json.render.toList = some json.toValue := by
  have read := read?_print json (List.forall_mem_nil _)
  rw [List.append_nil] at read
  rw [render, String.toList_ofList, read]

end Json

namespace Cli.Format

theorem render_blueprint (flags : List String) :
    Format.blueprint.render flags = (Blueprint.render ⟨flags⟩).toList ++ ['\n'] := by
  rw [Blueprint.toList_render]
  rfl

/-- The property with the flags is read off a text exactly if the text begins with
the fragment for these flags.  So a fragment is used up and gives its flags again,
and two lists of flags never have the same one, alone or as what a command
writes. -/
theorem fragment_tells_flags :
    (∀ text flags rest, Blueprint.property text = some (flags, rest) ↔
        text = (Blueprint.render ⟨flags⟩).toList ++ rest) ∧
      (∀ flags, Blueprint.property (Blueprint.render ⟨flags⟩).toList = some (flags, [])) ∧
      (∀ flags, Blueprint.property (Format.blueprint.render flags) = some (flags, ['\n'])) ∧
      Function.Injective (fun flags => Blueprint.render ⟨flags⟩) ∧
      Function.Injective fun flags => Format.blueprint.render flags := by
  have reads := Blueprint.inverts_property_render.reads
  refine ⟨Blueprint.inverts_property_render, ?alone, ?written, Blueprint.render_injective,
    ?injective⟩
  case alone =>
    intro flags
    have read := reads flags []
    rw [List.append_nil] at read
    exact read
  case written =>
    intro flags
    rw [render_blueprint]
    exact reads flags ['\n']
  case injective =>
    intro flags others same
    simp only [render_blueprint, List.append_left_inj, String.toList_inj] at same
    exact Blueprint.render_injective same

/-- Flags that hold the ends of lines and of the list are told apart from the
flags that they imitate. -/
theorem fragment_tells_flags_imitating :
    let flags := ["", "a\",\n    \"b", "],", "\\\\\""]
    Blueprint.property (Blueprint.render ⟨flags⟩).toList = some (flags, []) ∧
      Blueprint.render ⟨["a\",\n    \"b"]⟩ ≠ Blueprint.render ⟨["a", "b"]⟩ := by
  intro flags
  rcases fragment_tells_flags with ⟨-, reads, -, injective, -⟩
  refine ⟨reads flags, ?_⟩
  intro same
  exact absurd (injective same) (by decide)

/-- Written as JSON, flags are one line, and the value of this line is the array
of these flags.  The JSON text of flags is an array as well, and that of
properties is an object with this array as the only member. -/
theorem json_tells_flags (flags : List String) :
    (∃ line, Format.json.render flags = line ++ ['\n'] ∧ ∀ c ∈ line, 0x20 ≤ c.toNat) ∧
      Json.read? (Format.json.render flags) = some (.array (flags.map .string)) ∧
      Json.read? (Flags.toJson ⟨flags⟩).render.toList = some (.array (flags.map .string)) ∧
      Json.read? (Properties.toJson ⟨flags⟩).render.toList =
        some (.object [("cflags", .array (flags.map .string))]) := by
  have array := Json.toValue_ofStrings flags
  refine ⟨?line, ?value, ?plain, ?object⟩
  case line => exact ⟨_, rfl, Json.seen_of_mem_print (Json.ofStrings flags)⟩
  case value =>
    rw [← array]
    exact Json.read?_print (Json.ofStrings flags) (List.forall_mem_singleton.2 rfl)
  case plain => rw [Json.read?_render, Flags.toJson, array]
  case object =>
    rw [Json.read?_render, Properties.toJson, Json.toValue, List.map_singleton, array]

end Cli.Format

end DeviceFlags
