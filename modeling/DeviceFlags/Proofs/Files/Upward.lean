import DeviceFlags.Proofs.Files.Segments

/-!
# The directories above a path

A path is read as a list of parts.  Going up takes one part away from the end,
so the parts of the directories above a path are the shorter and shorter fronts
of its own, and their texts are fronts of its text.
-/

namespace DeviceFlags

/-- A part of a path.  Segments that lead nowhere are no parts. -/
inductive Component where
  /-- The slash in front of an absolute path. -/
  | root
  /-- A single point in front of a relative path. -/
  | here
  /-- A name, or the two points that lead to the directory above. -/
  | segment (characters : List Char)
  deriving DecidableEq, Repr

namespace Path

variable {text upper : List Char}

/-! ## The ways to begin a path -/

/-- A text that begins with a segment that leads somewhere, if with any. -/
def IsPlain (text : List Char) : Prop :=
  text ≠ [] → ∀ segment ∈ (split text).head?, isIdle segment = false

theorem isPlain_of_mem_parentTexts (plain : IsPlain text) (member : upper ∈ parentTexts text) :
    IsPlain upper := by
  rcases List.mem_map.1 member with ⟨way, among, rfl⟩
  intro nonempty segment first
  have front := reverse_prefix_of_mem_above among
  have some : way.reverse ≠ [] := by
    intro empty
    exact nonempty (by rw [empty]; rfl)
  rw [split_unsplit (slash_notMem_of_mem_above among) some] at first
  apply plain
  · intro empty
    exact nonempty (List.prefix_nil.1 (empty ▸ prefix_of_mem_parentTexts member))
  · rcases front with ⟨back, whole⟩
    rw [← whole, List.head?_append, first]
    rfl

theorem head?_split_cons {c : Char} (ne : c ≠ '/') (rest : List Char) :
    ∃ segment, (split (c :: rest)).head? = some (c :: segment) ∧
      (split rest).head? = some segment := by
  rw [split_eq_splitOn, splitOn_cons, if_neg ne, split_eq_splitOn]
  cases pieces : rest.splitOn '/' with
  | nil => exact absurd pieces (List.splitOnP_ne_nil _ _)
  | cons segment others => exact ⟨segment, rfl, rfl⟩

theorem IsPlain.ne_slash (plain : IsPlain text) (body : List Char) : text ≠ '/' :: body := by
  rintro rfl
  have solid := plain (List.cons_ne_nil _ _) [] (by rw [split_eq_splitOn, splitOn_cons]; rfl)
  cases solid

theorem IsPlain.ne_point (plain : IsPlain text) : text ≠ ['.'] := by
  rintro rfl
  have solid := plain (List.cons_ne_nil _ _) ['.'] rfl
  cases solid

theorem IsPlain.ne_point_slash (plain : IsPlain text) (body : List Char) :
    text ≠ '.' :: '/' :: body := by
  rintro rfl
  have solid := plain (List.cons_ne_nil _ _) ['.']
    (by rw [split_eq_splitOn, splitOn_cons, splitOn_cons]; rfl)
  cases solid

/-- How a path begins. -/
inductive Beginning : Path → Prop where
  | root (body : List Char) : Beginning ⟨String.ofList ('/' :: body)⟩
  | here : Beginning ⟨String.ofList ['.']⟩
  | below (body : List Char) : Beginning ⟨String.ofList ('.' :: '/' :: body)⟩
  | plain {text : List Char} (plain : IsPlain text) : Beginning ⟨String.ofList text⟩

theorem beginning_ofList (text : List Char) : Beginning ⟨String.ofList text⟩ := by
  cases text with
  | nil => exact .plain fun nonempty => absurd rfl nonempty
  | cons c rest =>
      by_cases slash : c = '/'
      · subst slash
        exact .root rest
      by_cases point : c = '.'
      · subst point
        cases rest with
        | nil => exact .here
        | cons d rest =>
            by_cases slash : d = '/'
            · subst slash
              exact .below rest
            · apply Beginning.plain
              intro _ segment first
              rcases head?_split_cons (c := '.') (by decide) (d :: rest) with ⟨inner, head, next⟩
              rcases head?_split_cons slash rest with ⟨tail, head', -⟩
              rw [head'] at next
              rw [head, ← Option.some.inj next] at first
              cases first
              rfl
      · apply Beginning.plain
        intro _ segment first
        rcases head?_split_cons slash rest with ⟨inner, head, -⟩
        rw [head] at first
        cases first
        simp [isIdle, point]

theorem beginning (path : Path) : Beginning path := by
  have whole := beginning_ofList path.text.toList
  rwa [String.ofList_toList] at whole

/-- The path below a single point, which stands alone if nothing follows. -/
def hereText (text : List Char) : List Char :=
  if text = [] then ['.'] else '.' :: '/' :: text

/-! ## Parts of a path -/

/-- The parts of a path. -/
def components (path : Path) : List Component :=
  match path.text.toList with
  | '/' :: body => .root :: (steps body).map .segment
  | ['.'] => [.here]
  | '.' :: '/' :: body => .here :: (steps body).map .segment
  | body => (steps body).map .segment

theorem components_root (body : List Char) :
    components ⟨String.ofList ('/' :: body)⟩ = .root :: (steps body).map .segment := by
  simp only [components, String.toList_ofList]

theorem components_below (body : List Char) :
    components ⟨String.ofList ('.' :: '/' :: body)⟩ = .here :: (steps body).map .segment := by
  simp only [components, String.toList_ofList]

theorem components_hereText (text : List Char) :
    components ⟨String.ofList (hereText text)⟩ = .here :: (steps text).map .segment := by
  by_cases empty : text = []
  · subst empty
    rfl
  · rw [hereText, if_neg empty, components_below]

theorem components_plain (plain : IsPlain text) :
    components ⟨String.ofList text⟩ = (steps text).map .segment := by
  simp only [components, String.toList_ofList]
  split
  · exact absurd rfl (plain.ne_slash _)
  · exact absurd rfl plain.ne_point
  · exact absurd rfl (plain.ne_point_slash _)
  · rfl

/-! ## The directories above a path -/

theorem parents_root (body : List Char) :
    parents ⟨String.ofList ('/' :: body)⟩ =
      (parentTexts body).map fun upper => ⟨String.ofList ('/' :: upper)⟩ := by
  simp only [parents, String.toList_ofList, List.map_map]
  rfl

theorem parents_below (body : List Char) :
    parents ⟨String.ofList ('.' :: '/' :: body)⟩ =
      ((parentTexts body).map fun upper => ⟨String.ofList (hereText upper)⟩) ++ [⟨""⟩] := by
  simp only [parents, String.toList_ofList, List.map_append, List.map_map]
  rfl

theorem parents_hereText (text : List Char) :
    parents ⟨String.ofList (hereText text)⟩ =
      ((parentTexts text).map fun upper => ⟨String.ofList (hereText upper)⟩) ++ [⟨""⟩] := by
  by_cases empty : text = []
  · subst empty
    rfl
  · rw [hereText, if_neg empty, parents_below]

theorem parents_plain (plain : IsPlain text) :
    parents ⟨String.ofList text⟩ =
      (parentTexts text).map fun upper => ⟨String.ofList upper⟩ := by
  simp only [parents, String.toList_ofList]
  split
  · exact absurd rfl (plain.ne_slash _)
  · exact absurd rfl plain.ne_point
  · exact absurd rfl (plain.ne_point_slash _)
  · rfl

/-- Whether a path begins with a slash. -/
def isAbsolute (path : Path) : Bool :=
  path.text.toList.head? == some '/'

/-- The fronts of the parts of a path, from all of them on.  An absolute path
keeps its root. -/
def fronts (path : Path) : List (List Component) :=
  if path.isAbsolute then path.components.inits.reverse.dropLast
  else path.components.inits.reverse

theorem cons_map_components_parentTexts (text : List Char) (below : List Char → Path)
    (first : List Component)
    (parts : ∀ upper ∈ parentTexts text,
      (below upper).components = first ++ (steps upper).map .segment) :
    (first ++ (steps text).map .segment) :: ((parentTexts text).map below).map components =
      ((steps text).map Component.segment).inits.reverse.map (first ++ ·) := by
  have each : ((parentTexts text).map below).map components =
      ((parentTexts text).map steps).map fun steps => first ++ steps.map .segment := by
    rw [List.map_map, List.map_map]
    exact List.map_congr_left parts
  rw [each, List.map_inits, ← List.map_reverse, ← steps_cons_map_parentTexts]
  simp only [List.map_cons, List.map_map]
  rfl

/-- Going up, a path loses one part after another from its end. -/
theorem map_components_upward (path : Path) : path.upward.map components = path.fronts := by
  cases path.beginning with
  | root body =>
      have absolute : isAbsolute ⟨String.ofList ('/' :: body)⟩ = true := by
        rw [isAbsolute, String.toList_ofList]
        rfl
      rw [upward, parents_root, List.map_cons, fronts, if_pos absolute, components_root,
        List.inits_cons, List.reverse_cons, List.dropLast_concat, ← List.map_reverse]
      exact cons_map_components_parentTexts body _ [.root] fun upper _ => components_root upper
  | here => rfl
  | below body =>
      have relative : ¬ isAbsolute ⟨String.ofList ('.' :: '/' :: body)⟩ = true := by
        rw [isAbsolute, String.toList_ofList, List.head?_cons]
        decide
      have chain := cons_map_components_parentTexts body
        (fun upper => ⟨String.ofList (hereText upper)⟩) [.here]
        fun upper _ => components_hereText upper
      rw [upward, parents_below, List.map_cons, fronts, if_neg relative, components_below,
        List.inits_cons, List.reverse_cons, ← List.map_reverse, List.map_append, ← List.cons_append]
      exact congrArg (· ++ [[]]) chain
  | @plain text plain =>
      have relative : ¬ isAbsolute ⟨String.ofList text⟩ = true := by
        rw [isAbsolute, String.toList_ofList]
        cases text with
        | nil => decide
        | cons c rest =>
            intro slash
            exact plain.ne_slash rest (congrArg (· :: rest) (Option.some.inj (beq_iff_eq.1 slash)))
      have chain := cons_map_components_parentTexts text (fun upper => ⟨String.ofList upper⟩) []
        fun upper member => components_plain (isPlain_of_mem_parentTexts plain member)
      rw [upward, parents_plain plain, List.map_cons, fronts, if_neg relative,
        components_plain plain]
      exact chain.trans (List.map_id _)

theorem parents_of_map {below : List Char → Path} {before after : List Path} {directory : Path}
    (tail : List Path)
    (up : ∀ upper ∈ parentTexts text, (below upper).parents = (parentTexts upper).map below ++ tail)
    (chain : (parentTexts text).map below = before ++ directory :: after) :
    directory.parents = after ++ tail := by
  rcases List.map_eq_append_iff.1 chain with ⟨nearer, others, texts, -, chained⟩
  rcases List.map_eq_cons_iff.1 chained with ⟨upper, farther, rfl, rfl, rfl⟩
  have member : upper ∈ parentTexts text := by simp [texts]
  rw [up upper member, parentTexts_of_eq_append texts]

theorem parents_of_hereTexts (text : List Char) {before after : List Path} {directory : Path}
    (chain : ((parentTexts text).map fun upper => ⟨String.ofList (hereText upper)⟩) ++ [⟨""⟩] =
      before ++ directory :: after) : directory.parents = after := by
  rcases List.eq_nil_or_concat after with rfl | ⟨nearer, last, rfl⟩
  · cases (List.append_inj' chain rfl).2
    rfl
  · rw [List.concat_eq_append, ← List.cons_append, ← List.append_assoc] at chain
    rw [List.concat_eq_append]
    rcases List.append_inj' chain rfl with ⟨texts, same⟩
    cases same
    exact parents_of_map [⟨""⟩] (fun upper _ => parents_hereText upper) texts

/-- The directories above one of the directories above a path are the rest. -/
theorem parents_of_eq_append {path directory : Path} {before after : List Path}
    (chain : path.parents = before ++ directory :: after) : directory.parents = after := by
  cases path.beginning with
  | root body =>
      rw [parents_root] at chain
      have rest := parents_of_map []
        (fun upper _ => (parents_root upper).trans (List.append_nil _).symm) chain
      exact rest.trans (List.append_nil after)
  | here => exact parents_of_hereTexts [] chain
  | below body =>
      rw [parents_below] at chain
      exact parents_of_hereTexts body chain
  | @plain text plain =>
      rw [parents_plain plain] at chain
      have rest := parents_of_map [] (fun upper member =>
        (parents_plain (isPlain_of_mem_parentTexts plain member)).trans
          (List.append_nil _).symm) chain
      exact rest.trans (List.append_nil after)

/-- The chain from any of its directories on is the rest of the chain. -/
theorem upward_of_eq_append {path directory : Path} {before after : List Path}
    (chain : path.upward = before ++ directory :: after) :
    directory.upward = directory :: after := by
  cases before with
  | nil =>
      rcases List.cons.inj chain with ⟨rfl, rfl⟩
      rfl
  | cons first before =>
      rw [upward, parents_of_eq_append (List.cons.inj chain).2]

theorem hereText_prefix {body : List Char} (front : upper <+: body) :
    hereText upper <+: '.' :: '/' :: body := by
  rw [hereText]
  split
  · exact List.prefix_append ['.'] ('/' :: body)
  · exact (List.prefix_append_right_inj ['.', '/']).2 front

/-- The text of a directory above a path is a front of that of the path. -/
theorem prefix_of_mem_upward {path directory : Path} (member : directory ∈ path.upward) :
    directory.text.toList <+: path.text.toList := by
  rcases List.mem_cons.1 member with rfl | member
  · exact List.prefix_refl _
  cases path.beginning with
  | root body =>
      rw [parents_root] at member
      rcases List.mem_map.1 member with ⟨upper, among, rfl⟩
      simpa using prefix_of_mem_parentTexts among
  | here =>
      rcases List.mem_singleton.1 member with rfl
      exact List.nil_prefix
  | below body =>
      rw [parents_below, List.mem_append, List.mem_singleton] at member
      rcases member with member | rfl
      · rcases List.mem_map.1 member with ⟨upper, among, rfl⟩
        simpa using hereText_prefix (prefix_of_mem_parentTexts among)
      · exact List.nil_prefix
  | @plain text plain =>
      rw [parents_plain plain] at member
      rcases List.mem_map.1 member with ⟨upper, among, rfl⟩
      simpa using prefix_of_mem_parentTexts among

/-! ## Paths made of names -/

/-- A name that leads somewhere.  Every name of a file or a directory is one, and
so are the two points for the directory above. -/
structure IsSegment (name : String) : Prop where
  nonempty : name ≠ ""
  ne_here : name ≠ "."
  noSlash : '/' ∉ name.toList

/-- The path made of some names, from the root or from where it is used. -/
def ofNames (absolute : Bool) (names : List String) : Path :=
  ⟨String.ofList ((if absolute then ['/'] else []) ++ unsplit (names.map String.toList))⟩

variable {names : List String}

theorem IsSegment.isIdle_eq {name : String} (isSegment : IsSegment name) :
    isIdle name.toList = false := by
  have nonempty : name.toList ≠ [] := fun empty => isSegment.nonempty (String.toList_inj.1 empty)
  have ne_here : name.toList ≠ ['.'] := fun point => isSegment.ne_here (String.toList_inj.1 point)
  simp [isIdle, nonempty, ne_here]

/-- The texts above a text made of names are made of fewer and fewer of them. -/
theorem cons_parentTexts_of_segments (areSegments : ∀ name ∈ names, IsSegment name) :
    unsplit (names.map String.toList) :: parentTexts (unsplit (names.map String.toList)) =
      names.inits.reverse.map fun front => unsplit (front.map String.toList) := by
  have apart : ∀ segment ∈ (names.map String.toList).reverse.reverse, '/' ∉ segment := by
    simpa using fun name member => (areSegments name member).noSlash
  have solid : ∀ segment ∈ (names.map String.toList).reverse, isIdle segment = false := by
    simpa using fun name member => (areSegments name member).isIdle_eq
  have up := above_split_unsplit apart
  rw [List.reverse_reverse] at up
  calc unsplit (names.map String.toList) :: parentTexts (unsplit (names.map String.toList))
    _ = ((names.map String.toList).reverse :: above (names.map String.toList).reverse).map
          fun way => unsplit way.reverse := by
        rw [parentTexts, up, List.map_cons, List.reverse_reverse]
    _ = ((names.map String.toList).inits.map List.reverse).reverse.map
          fun way => unsplit way.reverse := by
        rw [above_of_solid solid, List.tails_reverse]
    _ = names.inits.reverse.map fun front => unsplit (front.map String.toList) := by
        rw [List.map_inits, ← List.map_reverse, ← List.map_reverse, List.map_map, List.map_map]
        apply List.map_congr_left
        intro front _
        simp only [Function.comp_apply, List.reverse_reverse]

theorem isPlain_of_segments (areSegments : ∀ name ∈ names, IsSegment name) :
    IsPlain (unsplit (names.map String.toList)) := by
  cases names with
  | nil => exact fun nonempty => absurd rfl nonempty
  | cons name rest =>
      intro _ segment first
      have apart : ∀ segment ∈ (name :: rest).map String.toList, '/' ∉ segment := by
        simpa using fun name member => (areSegments name (List.mem_cons.2 member)).noSlash
      rw [split_unsplit apart (List.cons_ne_nil _ _)] at first
      cases first
      exact (areSegments name List.mem_cons_self).isIdle_eq

/-- The chain of a path made of names ends at the root or at the empty path, and
leaves out one name at a time. -/
theorem upward_ofNames (absolute : Bool) (areSegments : ∀ name ∈ names, IsSegment name) :
    (ofNames absolute names).upward = names.inits.reverse.map (ofNames absolute) := by
  have chain := cons_parentTexts_of_segments areSegments
  cases absolute with
  | true =>
      have fronts := congrArg (List.map fun text => (⟨String.ofList ('/' :: text)⟩ : Path)) chain
      rw [List.map_cons, List.map_map, ← parents_root] at fronts
      exact fronts
  | false =>
      have fronts := congrArg (List.map fun text => (⟨String.ofList text⟩ : Path)) chain
      rw [List.map_cons, List.map_map, ← parents_plain (isPlain_of_segments areSegments)] at fronts
      exact fronts

end Path

end DeviceFlags
