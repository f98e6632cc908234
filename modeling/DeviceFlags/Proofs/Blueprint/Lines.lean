import DeviceFlags.Blueprint
import DeviceFlags.Text.Lines

/-!
# The lines of a fragment

A fragment is one line, or one line for each flag between two others.  This
holds as long as no flag holds a line feed, since escaping leaves line feeds as
they are.
-/

namespace DeviceFlags.Blueprint

/-- The line of a flag without its end. -/
def flagBody (flag : String) : List Char :=
  "    \"".toList ++ escape flag.toList ++ "\",".toList

/-- The lines of the property of a list of flags. -/
def fragmentLines (flags : List String) : List (List Char) :=
  if flags.isEmpty then ["cflags: [],".toList]
  else "cflags: [".toList :: flags.map flagBody ++ ["],".toList]

theorem flagLine_eq (flag : String) : flagLine flag = flagBody flag ++ ['\n'] := by
  unfold flagLine flagBody
  exact (List.append_assoc _ "\",".toList ['\n']).symm

theorem newline_notMem_escape {text : List Char} (within : '\n' ∉ text) :
    '\n' ∉ escape text := by
  intro member
  rw [escape, List.mem_flatMap] at member
  rcases member with ⟨c, among, found⟩
  have ne : '\n' ≠ c := by
    intro equal
    exact within (equal ▸ among)
  unfold escapeChar at found
  split at found
  · exact absurd found (by decide)
  · split at found
    · exact absurd found (by decide)
    · exact ne (List.mem_singleton.1 found)

theorem newline_notMem_flagBody {flag : String} (within : '\n' ∉ flag.toList) :
    '\n' ∉ flagBody flag := by
  unfold flagBody
  rw [List.mem_append, List.mem_append, not_or, not_or]
  exact ⟨⟨by decide, newline_notMem_escape within⟩, by decide⟩

theorem getLast?_flagBody (flag : String) : (flagBody flag).getLast? = some ',' := by
  unfold flagBody
  rw [List.getLast?_append]
  rfl

variable {flags : List String}

theorem of_mem_fragmentLines {line : List Char} (member : line ∈ fragmentLines flags) :
    line = "cflags: [],".toList ∨ line = "cflags: [".toList ∨ line = "],".toList ∨
      ∃ flag ∈ flags, line = flagBody flag := by
  unfold fragmentLines at member
  split at member
  · exact .inl (List.mem_singleton.1 member)
  · rw [List.cons_append, List.mem_cons, List.mem_append, List.mem_map] at member
    rcases member with first | ⟨flag, among, same⟩ | last
    · exact .inr (.inl first)
    · exact .inr (.inr (.inr ⟨flag, among, same.symm⟩))
    · exact .inr (.inr (.inl (List.mem_singleton.1 last)))

theorem newline_notMem_fragmentLines (within : ∀ flag ∈ flags, '\n' ∉ flag.toList) :
    ∀ line ∈ fragmentLines flags, '\n' ∉ line := by
  intro line member
  rcases of_mem_fragmentLines member with rfl | rfl | rfl | ⟨flag, among, rfl⟩
  · decide
  · decide
  · decide
  · exact newline_notMem_flagBody (within flag among)

theorem getLast?_fragmentLines (flags : List String) :
    ∀ line ∈ fragmentLines flags, line.getLast? ≠ some '\r' := by
  intro line member
  rcases of_mem_fragmentLines member with rfl | rfl | rfl | ⟨flag, among, rfl⟩
  · decide
  · decide
  · decide
  · rw [getLast?_flagBody]
    decide

theorem fragmentLines_cons (flag : String) (rest : List String) :
    fragmentLines (flag :: rest) =
      "cflags: [".toList :: (flag :: rest).map flagBody ++ ["],".toList] :=
  rfl

theorem fragment_cons (flag : String) (rest : List String) :
    fragment (flag :: rest) =
      "cflags: [".toList ++ '\n' :: (flag :: rest).flatMap flagLine ++ "],".toList :=
  rfl

/-- A fragment is its lines, with a line feed behind each but the last. -/
theorem fragment_eq_flatMap (flags : List String) :
    ∃ lines last, fragmentLines flags = lines ++ [last] ∧ last ≠ [] ∧
      fragment flags = lines.flatMap (· ++ ['\n']) ++ last := by
  cases flags with
  | nil => exact ⟨[], "cflags: [],".toList, rfl, by decide, by decide⟩
  | cons flag rest =>
      have body : (flag :: rest).flatMap flagLine =
          ((flag :: rest).map flagBody).flatMap (· ++ ['\n']) := by
        rw [List.flatMap_map, funext flagLine_eq]
      refine ⟨_, _, fragmentLines_cons flag rest, by decide, ?_⟩
      rw [fragment_cons, body, List.flatMap_cons, List.append_assoc _ ['\n'],
        List.singleton_append]

/-- A fragment with a line feed behind it is its lines with their ends. -/
theorem fragment_append_newline (flags : List String) :
    fragment flags ++ ['\n'] = (fragmentLines flags).flatMap (· ++ ['\n']) := by
  rcases fragment_eq_flatMap flags with ⟨lines, last, split, -, joined⟩
  rw [joined, split, List.flatMap_append, List.append_assoc, List.flatMap_singleton]

theorem lines_fragment (within : ∀ flag ∈ flags, '\n' ∉ flag.toList) :
    Text.lines (fragment flags) = fragmentLines flags := by
  rcases fragment_eq_flatMap flags with ⟨lines, last, split, nonempty, joined⟩
  have newlines := newline_notMem_fragmentLines within
  have ends := getLast?_fragmentLines flags
  rw [split, List.forall_mem_append, List.forall_mem_singleton] at newlines ends
  rw [joined, split, Text.lines_flatMap newlines.1 ends.1 newlines.2 nonempty]

theorem ofList_flatMap_line (lines : List (List Char)) :
    String.ofList (lines.flatMap (· ++ ['\n'])) =
      String.join ((lines.map String.ofList).map fun line => line ++ "\n") := by
  apply String.toList_inj.1
  have feed : "\n".toList = ['\n'] := rfl
  simp only [String.toList_ofList, String.toList_join, List.flatMap_map, String.toList_append,
    feed]

/-- A module is its name and the lines of its fragment, each indented. -/
theorem ofList_moduleText (within : ∀ flag ∈ flags, '\n' ∉ flag.toList)
    (device type name : String) :
    String.ofList (moduleText device type name ⟨flags⟩) =
      "// device: " ++ device ++ "\n" ++ (type ++ " \x7b\n") ++
        ("    name: \"" ++ name ++ "\",\n") ++
        String.join (((fragmentLines flags).map String.ofList).map
          fun line => "    " ++ line ++ "\n") ++
        "\x7d\n" := by
  apply String.toList_inj.1
  have inner : innerLine = fun text => "    ".toList ++ (text ++ ['\n']) := rfl
  have feed : "\n".toList = ['\n'] := rfl
  have opened : " \x7b\n".toList = [' ', '{', '\n'] := rfl
  have indented : "    name: \"".toList = "    ".toList ++ "name: \"".toList := rfl
  have ended : "\",\n".toList = "\",".toList ++ ['\n'] := rfl
  have closed : "\x7d\n".toList = ['}', '\n'] := rfl
  simp only [moduleText, line, inner, lines_fragment within, String.toList_ofList,
    String.toList_join, String.toList_append, List.flatMap_map, List.append_assoc,
    List.cons_append, List.nil_append, feed, opened, indented, ended, closed]

end DeviceFlags.Blueprint
