import DeviceFlags.Toml.Reader

/-!
# Repeated reading

What a repetition reads, when one round of it is known.  A reader that leaves the
end of its text gives a repetition that does, and each item has been read from an
end of the text.  A reader that undoes a printer and accepts nothing else gives a
repetition of which the same is true.
-/

namespace DeviceFlags.Toml.Reader

variable {α ι : Type} {reader : Reader α} {text rest : List Char} {value : α}

theorem after_of_ne {mark : Char} (other : text.head? ≠ some mark) :
    after mark reader text = none := by
  cases text with
  | nil => rfl
  | cons c rest =>
      have different : c ≠ mark := by simpa using other
      rw [after, if_neg different]

theorem after_cons (mark : Char) (rest : List Char) :
    after mark reader (mark :: rest) = reader rest := by
  rw [after, if_pos rfl]

/-! ## Until the text is used up -/

theorem all?_nil : all? reader [] = some [] := by
  rw [all?]
  rfl

theorem all?_cons (reads : reader text = some (value, rest)) (shorter : rest.length < text.length) :
    all? reader text = (all? reader rest).map (value :: ·) := by
  have nonempty : text.isEmpty = false := by
    cases text with
    | nil => simp at shorter
    | cons _ _ => rfl
  rw [all?, nonempty, reads]
  simp only [if_pos shorter, Bool.false_eq_true, if_false]

/-! ## As often as possible -/

theorem many_of_none (fails : reader text = none) : many reader text = ([], text) := by
  rw [many, fails]

theorem many_of_not_shorter (reads : reader text = some (value, rest))
    (longer : ¬ rest.length < text.length) : many reader text = ([], text) := by
  rw [many, reads]
  exact if_neg longer

theorem many_cons (reads : reader text = some (value, rest)) (shorter : rest.length < text.length) :
    many reader text = (value :: (many reader rest).1, (many reader rest).2) := by
  rw [many, reads]
  exact if_pos shorter

section FlatMap

variable {image : ι → List Char} {items : List ι}

theorem fits_flatMap (fits : List Char → Prop)
    (stays : ∀ item ∈ items, ∀ rest, fits rest → fits (image item ++ rest)) (ends : fits rest) :
    fits (items.flatMap image ++ rest) := by
  induction items with
  | nil => exact ends
  | cons item items ih =>
      rw [List.forall_mem_cons] at stays
      rw [List.flatMap_cons, List.append_assoc]
      exact stays.1 _ (ih stays.2)

/-- Texts in a row are read one by one, if each is read in front of whatever may
come behind it. -/
theorem many_flatMap (fits : List Char → Prop) {value : ι → α}
    (nonempty : ∀ item ∈ items, image item ≠ [])
    (reads : ∀ item ∈ items, ∀ rest, fits rest →
      reader (image item ++ rest) = some (value item, rest))
    (stays : ∀ item ∈ items, ∀ rest, fits rest → fits (image item ++ rest))
    (ends : fits rest) (fails : reader rest = none) :
    many reader (items.flatMap image ++ rest) = (items.map value, rest) := by
  induction items with
  | nil => exact many_of_none fails
  | cons item items ih =>
      rw [List.forall_mem_cons] at nonempty reads stays
      have positive := List.length_pos_iff.2 nonempty.1
      have shorter (behind : List Char) : behind.length < (image item ++ behind).length := by
        rw [List.length_append]
        omega
      have first := reads.1 _ (fits_flatMap fits stays.2 ends)
      rw [List.flatMap_cons, List.append_assoc, many_cons first (shorter _),
        ih nonempty.2 reads.2 stays.2]
      rfl

end FlatMap

/-! ## What is left -/

/-- A reader takes what it reads off the front: what it leaves is the end of the
text. -/
def TakesFront (reader : Reader α) : Prop :=
  ∀ text value rest, reader text = some (value, rest) → rest <:+ text

section TakesFront

variable (takes : TakesFront reader)
include takes

theorem takesFront_map {β : Type} (image : α → β) : TakesFront (Reader.map image reader) := by
  intro text value rest read
  rcases Option.map_eq_some_iff.1 read with ⟨⟨found, behind⟩, foundRead, same⟩
  cases same
  exact takes _ _ _ foundRead

theorem takesFront_between {skip : List Char → List Char} (skips : ∀ text, skip text <:+ text) :
    TakesFront (between skip reader) := by
  intro text value rest read
  rcases Option.map_eq_some_iff.1 read with ⟨⟨found, behind⟩, foundRead, same⟩
  cases same
  exact (skips behind).trans ((takes _ _ _ foundRead).trans (skips text))

theorem takesFront_after (mark : Char) : TakesFront (after mark reader) := by
  intro text value rest read
  cases text with
  | nil => cases read
  | cons c behind =>
      rw [after] at read
      split at read
      case isTrue => exact (takes _ _ _ read).trans (List.suffix_cons c behind)
      case isFalse => cases read

theorem suffix_many (text : List Char) : (many reader text).2 <:+ text := by
  induction text using many.induct reader with
  | case1 text fails =>
      simp only [many_of_none fails, List.suffix_refl]
  | case2 text first behind reads shorter ih =>
      rw [many_cons reads shorter]
      exact ih.trans (takes _ _ _ reads)
  | case3 text first behind reads longer =>
      simp only [many_of_not_shorter reads longer, List.suffix_refl]

theorem suffix_separated (mark : Char) (text : List Char) :
    (separated mark reader text).2 <:+ text := by
  rw [separated]
  split
  case h_1 => exact List.suffix_refl text
  case h_2 first behind reads =>
    exact (suffix_many (takesFront_after takes mark) behind).trans (takes _ _ _ reads)

end TakesFront

/-! ## Where the items come from -/

theorem exists_of_mem_many (member : value ∈ (many reader text).1) :
    ∃ front behind, reader front = some (value, behind) ∧ (TakesFront reader → front <:+ text) := by
  induction text using many.induct reader with
  | case1 text fails =>
      rw [many_of_none fails] at member
      simp at member
  | case2 text first behind reads shorter ih =>
      rw [many_cons reads shorter] at member
      rcases List.mem_cons.1 member with rfl | later
      · exact ⟨text, behind, reads, fun _ => List.suffix_refl text⟩
      · rcases ih later with ⟨front, behind', read, within⟩
        exact ⟨front, behind', read, fun takes => (within takes).trans (takes _ _ _ reads)⟩
  | case3 text first behind reads longer =>
      rw [many_of_not_shorter reads longer] at member
      simp at member

theorem exists_of_mem_separated {mark : Char} (member : value ∈ (separated mark reader text).1) :
    ∃ front behind, reader front = some (value, behind) ∧ (TakesFront reader → front <:+ text) := by
  rw [separated] at member
  split at member
  case h_1 => simp at member
  case h_2 first behind reads =>
    rcases List.mem_cons.1 member with rfl | later
    · exact ⟨text, behind, reads, fun _ => List.suffix_refl text⟩
    · rcases exists_of_mem_many later with ⟨front, behind', read, within⟩
      cases front with
      | nil => simp [after] at read
      | cons c rest =>
          rw [after] at read
          split at read
          case isTrue =>
            refine ⟨rest, behind', read, ?_⟩
            intro takes
            exact (List.suffix_cons c rest).trans
              ((within (takesFront_after takes mark)).trans (takes _ _ _ reads))
          case isFalse => simp at read

theorem exists_of_mem_all? {values : List α} (read : all? reader text = some values)
    (member : value ∈ values) :
    ∃ front behind, reader front = some (value, behind) ∧ (TakesFront reader → front <:+ text) := by
  induction text using all?.induct reader generalizing values with
  | case1 text empty =>
      rw [all?, if_pos empty] at read
      cases read
      simp at member
  | case2 text nonempty fails =>
      rw [all?, if_neg nonempty, fails] at read
      simp at read
  | case3 text nonempty first behind reads shorter ih =>
      rw [all?_cons reads shorter] at read
      rcases Option.map_eq_some_iff.1 read with ⟨others, later, rfl⟩
      rcases List.mem_cons.1 member with rfl | among
      · exact ⟨text, behind, reads, fun _ => List.suffix_refl text⟩
      · rcases ih later among with ⟨front, behind', read, within⟩
        exact ⟨front, behind', read, fun takes => (within takes).trans (takes _ _ _ reads)⟩
  | case4 text nonempty first behind reads longer =>
      rw [all?, if_neg nonempty, reads] at read
      simp [longer] at read

/-! ## Readers that undo a printer -/

/-- A reader takes a value off a text exactly if the text begins as a printer
writes the value. -/
def Inverts (reader : Reader α) (image : α → List Char) : Prop :=
  ∀ text value rest, reader text = some (value, rest) ↔ text = image value ++ rest

namespace Inverts

variable {image : α → List Char} (inverts : Inverts reader image)
include inverts

theorem reads (value : α) (rest : List Char) : reader (image value ++ rest) = some (value, rest) :=
  (inverts _ value rest).2 rfl

theorem eq_of_reads (read : reader text = some (value, rest)) : text = image value ++ rest :=
  (inverts text value rest).1 read

theorem eq_flatMap_of_many (nonempty : ∀ value, image value ≠ []) {values : List α}
    (read : many reader text = (values, rest)) :
    text = values.flatMap image ++ rest ∧ reader rest = none := by
  induction text using many.induct reader generalizing values with
  | case1 text fails =>
      rw [many_of_none fails] at read
      cases read
      exact ⟨rfl, fails⟩
  | case2 text value behind first shorter ih =>
      rw [many_cons first shorter] at read
      cases read
      rcases ih rfl with ⟨same, fails⟩
      refine ⟨?_, fails⟩
      rw [inverts.eq_of_reads first, List.flatMap_cons, List.append_assoc, ← same]
  | case3 text value behind first longer =>
      -- What is written of a value is not empty, so a round always uses something up.
      have positive := List.length_pos_iff.2 (nonempty value)
      have written := congrArg List.length (inverts.eq_of_reads first)
      rw [List.length_append] at written
      omega

/-- What a repetition reads is written as its values are one after the other, and
it goes as far as possible. -/
theorem many_eq_iff (nonempty : ∀ value, image value ≠ []) {values : List α} :
    many reader text = (values, rest) ↔
      text = values.flatMap image ++ rest ∧ reader rest = none := by
  constructor
  · exact inverts.eq_flatMap_of_many nonempty
  · intro written
    rcases written with ⟨rfl, fails⟩
    have read : many reader (values.flatMap image ++ rest) = (values.map id, rest) :=
      many_flatMap (fun _ => True) (fun value _ => nonempty value)
        (fun value _ rest _ => inverts.reads value rest) (fun _ _ _ _ => trivial) trivial fails
    rw [read, List.map_id]

end Inverts

end DeviceFlags.Toml.Reader
