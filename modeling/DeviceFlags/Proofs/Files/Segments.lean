import DeviceFlags.Files.Path
import Mathlib.Data.List.Infix

/-!
# Going up in a text

A text is read as the segments between its slashes.  Going up takes segments from
the end, as many as lead nowhere and one that leads somewhere.
-/

namespace DeviceFlags

namespace Path

/-! ## Segments of a text -/

theorem splitOn_cons (c : Char) (rest : List Char) :
    (c :: rest).splitOn '/' =
      if c = '/' then [] :: rest.splitOn '/' else (rest.splitOn '/').modifyHead (c :: ·) := by
  simp only [List.splitOn, List.splitOnP_cons_eq_if_modifyHead, beq_iff_eq]

theorem split_eq_splitOn (text : List Char) : split text = text.splitOn '/' := by
  induction text with
  | nil => rfl
  | cons c rest ih =>
      rw [split, ih, splitOn_cons]
      cases pieces : rest.splitOn '/' with
      | nil => exact absurd pieces (List.splitOnP_ne_nil _ _)
      | cons segment others => rfl

theorem unsplit_eq_intercalate (segments : List (List Char)) :
    unsplit segments = ['/'].intercalate segments := by
  induction segments with
  | nil => rfl
  | cons segment rest ih =>
      cases rest with
      | nil => exact (List.append_nil segment).symm
      | cons next rest =>
          rw [unsplit, ih, List.intercalate_cons_cons, List.append_assoc, List.singleton_append]

theorem unsplit_split (text : List Char) : unsplit (split text) = text := by
  rw [split_eq_splitOn, unsplit_eq_intercalate]
  exact List.intercalate_splitOn '/'

theorem split_ne_nil (text : List Char) : split text ≠ [] := by
  rw [split_eq_splitOn]
  exact List.splitOnP_ne_nil _ _

variable {segments others : List (List Char)}

theorem split_unsplit (apart : ∀ segment ∈ segments, '/' ∉ segment) (nonempty : segments ≠ []) :
    split (unsplit segments) = segments := by
  rw [split_eq_splitOn, unsplit_eq_intercalate]
  exact List.splitOn_intercalate '/' apart nonempty

theorem slash_notMem_split (text : List Char) : ∀ segment ∈ split text, '/' ∉ segment := by
  induction text with
  | nil => simp [split]
  | cons c rest ih =>
      cases pieces : split rest with
      | nil => exact absurd pieces (split_ne_nil rest)
      | cons first others =>
          rw [pieces, List.forall_mem_cons] at ih
          rw [split, pieces]
          by_cases slash : c = '/'
          · simpa [slash] using ih
          · simpa [slash, Ne.symm slash] using ih

theorem unsplit_prefix (front : segments <+: others) : unsplit segments <+: unsplit others := by
  induction segments generalizing others with
  | nil => exact List.nil_prefix
  | cons segment rest ih =>
      rcases front with ⟨back, rfl⟩
      cases rest with
      | nil =>
          cases back with
          | nil => exact List.prefix_refl _
          | cons next back => exact List.prefix_append _ _
      | cons next rest =>
          have tail := ih (List.prefix_append (next :: rest) back)
          exact (List.prefix_append_right_inj segment).2
            ((List.prefix_append_right_inj ['/']).2 tail)

/-- The segments of a text that lead somewhere. -/
def steps (text : List Char) : List (List Char) :=
  (split text).filter (!isIdle ·)

theorem steps_unsplit (apart : ∀ segment ∈ segments, '/' ∉ segment) :
    steps (unsplit segments) = segments.filter (!isIdle ·) := by
  cases segments with
  | nil => rfl
  | cons segment rest => rw [steps, split_unsplit apart (List.cons_ne_nil _ _)]

/-! ## Going up, segment by segment

Segments stand in reverse order here, as in `above`. -/

variable {way : List (List Char)}

theorem suffix_of_mem_above (member : way ∈ above segments) : way <:+ segments := by
  induction segments with
  | nil => cases member
  | cons segment rest ih =>
      rw [above] at member
      split at member
      · exact (ih member).trans (List.suffix_cons _ _)
      · rcases List.mem_cons.1 member with rfl | member
        · exact (List.dropWhile_suffix _).trans (List.suffix_cons _ _)
        · exact (ih member).trans (List.suffix_cons _ _)

theorem above_dropWhile (segments : List (List Char)) :
    above (segments.dropWhile isIdle) = above segments := by
  induction segments with
  | nil => rfl
  | cons segment rest ih =>
      by_cases idle : isIdle segment = true
      · rw [List.dropWhile_cons_of_pos idle, ih, above, if_pos idle]
      · rw [List.dropWhile_cons_of_neg idle]

/-- The ways to the directories above one of the directories are the rest. -/
theorem above_of_eq_append {before after : List (List (List Char))}
    (chain : above segments = before ++ way :: after) : above way = after := by
  induction segments generalizing before with
  | nil => simp [above] at chain
  | cons segment rest ih =>
      rw [above] at chain
      split at chain
      · exact ih chain
      · cases before with
        | nil =>
            rcases List.cons.inj chain with ⟨rfl, rfl⟩
            exact above_dropWhile rest
        | cons first before => exact ih (List.cons.inj chain).2

theorem filter_dropWhile (segments : List (List Char)) :
    (segments.dropWhile isIdle).filter (!isIdle ·) = segments.filter (!isIdle ·) := by
  induction segments with
  | nil => rfl
  | cons segment rest ih =>
      by_cases idle : isIdle segment = true
      · rw [List.dropWhile_cons_of_pos idle, ih, List.filter_cons_of_neg (by simp [idle])]
      · rw [List.dropWhile_cons_of_neg idle]

/-- Each way up has one segment less that leads somewhere. -/
theorem cons_map_filter_above (segments : List (List Char)) :
    segments.filter (!isIdle ·) :: (above segments).map (·.filter (!isIdle ·)) =
      (segments.filter (!isIdle ·)).tails := by
  induction segments with
  | nil => rfl
  | cons segment rest ih =>
      by_cases idle : isIdle segment = true
      · rw [above, if_pos idle, List.filter_cons_of_neg (by simp [idle]), ih]
      · rw [above, if_neg idle, List.filter_cons_of_pos (by simp [idle]), List.tails_cons, ← ih,
          List.map_cons, filter_dropWhile]

/-- If every segment leads somewhere, each way up has just one less. -/
theorem above_of_solid (solid : ∀ segment ∈ segments, isIdle segment = false) :
    segments :: above segments = segments.tails := by
  induction segments with
  | nil => rfl
  | cons segment rest ih =>
      rw [List.forall_mem_cons] at solid
      have kept : rest.dropWhile isIdle = rest := by
        cases rest with
        | nil => rfl
        | cons next rest =>
            exact List.dropWhile_cons_of_neg (by simp [solid.2 next List.mem_cons_self])
      rw [above, if_neg (by simp [solid.1]), kept, ih solid.2, List.tails_cons]

/-! ## Going up, text by text -/

variable {text upper : List Char}

theorem reverse_prefix_of_mem_above (member : way ∈ above (split text).reverse) :
    way.reverse <+: split text := by
  rw [← List.reverse_suffix, List.reverse_reverse]
  exact suffix_of_mem_above member

theorem slash_notMem_of_mem_above (member : way ∈ above (split text).reverse) :
    ∀ segment ∈ way.reverse, '/' ∉ segment := by
  intro segment within
  exact slash_notMem_split text segment ((reverse_prefix_of_mem_above member).subset within)

theorem prefix_of_mem_parentTexts (member : upper ∈ parentTexts text) : upper <+: text := by
  rcases List.mem_map.1 member with ⟨way, among, rfl⟩
  have whole := unsplit_prefix (reverse_prefix_of_mem_above among)
  rwa [unsplit_split] at whole

theorem above_split_unsplit (apart : ∀ segment ∈ way.reverse, '/' ∉ segment) :
    above (split (unsplit way.reverse)).reverse = above way := by
  by_cases empty : way = []
  · subst empty
    rfl
  · rw [split_unsplit apart (by simpa using empty), List.reverse_reverse]

/-- The directories above one of the directories above a text are the rest. -/
theorem parentTexts_of_eq_append {before after : List (List Char)}
    (chain : parentTexts text = before ++ upper :: after) : parentTexts upper = after := by
  rcases List.map_eq_append_iff.1 chain with ⟨nearer, others, ways, -, chained⟩
  rcases List.map_eq_cons_iff.1 chained with ⟨way, farther, rfl, rfl, rfl⟩
  have member : way ∈ above (split text).reverse := by simp [ways]
  rw [parentTexts, above_split_unsplit (slash_notMem_of_mem_above member),
    above_of_eq_append ways]

/-- A text and those above it have fewer and fewer steps. -/
theorem steps_cons_map_parentTexts (text : List Char) :
    steps text :: (parentTexts text).map steps = (steps text).inits.reverse := by
  have fewer : (parentTexts text).map steps =
      ((above (split text).reverse).map (·.filter (!isIdle ·))).map List.reverse := by
    rw [parentTexts, List.map_map, List.map_map]
    apply List.map_congr_left
    intro way member
    exact (steps_unsplit (slash_notMem_of_mem_above member)).trans List.filter_reverse
  have whole : steps text = ((split text).reverse.filter (!isIdle ·)).reverse := by
    rw [List.filter_reverse, List.reverse_reverse]
    rfl
  rw [fewer, whole, ← List.map_cons, cons_map_filter_above, List.inits_reverse,
    List.reverse_reverse]

end Path

end DeviceFlags
