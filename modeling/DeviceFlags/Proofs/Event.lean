import DeviceFlags.Event

/-!
# Successes and failures with events

The result of work in two parts, and the events on the way.
-/

namespace DeviceFlags

namespace Logged

variable {α β ε ε' told : Type} {first : Logged told (Except ε α)}
  {next : α → Logged told (Except ε β)}

theorem value_andThen_of_error {error : ε} (failed : first.value = .error error) :
    (first.andThen next).value = .error error := by
  rw [andThen, failed]

theorem value_andThen_of_ok {value : α} (succeeded : first.value = .ok value) :
    (first.andThen next).value = (next value).value := by
  rw [andThen, succeeded]

theorem value_andThen_ok_iff {result : β} :
    (first.andThen next).value = .ok result ↔
      ∃ value, first.value = .ok value ∧ (next value).value = .ok result := by
  cases outcome : first.value with
  | error error =>
      rw [value_andThen_of_error outcome]
      constructor
      · intro impossible
        cases impossible
      · intro holds
        rcases holds with ⟨value, impossible, -⟩
        cases impossible
  | ok value =>
      rw [value_andThen_of_ok outcome]
      constructor
      · intro succeeded
        exact ⟨value, rfl, succeeded⟩
      · intro holds
        rcases holds with ⟨same, equal, succeeded⟩
        cases equal
        exact succeeded

theorem value_mapError_ok_iff {image : ε → ε'} {value : α} :
    (first.mapError image).value = .ok value ↔ first.value = .ok value := by
  unfold mapError
  cases first.value with
  | error error => exact ⟨nofun, nofun⟩
  | ok same => exact ⟨fun equal => by cases equal; rfl, fun equal => by cases equal; rfl⟩

theorem value_mapError_of_error {image : ε → ε'} {error : ε} (failed : first.value = .error error) :
    (first.mapError image).value = .error (image error) := by
  rw [mapError, failed]
  rfl

theorem events_andThen_of_error {error : ε} (failed : first.value = .error error) :
    (first.andThen next).events = first.events := by
  rw [andThen, failed]

theorem events_andThen_of_ok {value : α} (succeeded : first.value = .ok value) :
    (first.andThen next).events = first.events ++ (next value).events := by
  rw [andThen, succeeded]

end Logged

end DeviceFlags
