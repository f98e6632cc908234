import DeviceFlags.Cli.Run
import DeviceFlags.Proofs.EffectiveTable
import DeviceFlags.Proofs.RuleTable.RoundTrip
import DeviceFlags.Text.Lines

/-!
# Flags as a text

Written as a text, each flag has a line of its own.  The flags of an effective
table hold no white space and are not empty, so the text can be split at white
space, as a shell does it, and gives the same flags again.
-/

namespace DeviceFlags

theorem RuleTable.isWord_resolve {table : RuleTable}
    (usable : ∀ rule ∈ table.rules, rule.IsUsable) (device : String) :
    ∀ flag ∈ table.resolve device, Text.IsWord flag.toList := by
  intro flag member
  have rule := usable _ (mem_resolve.1 member)
  exact Text.isWord_toList rule.flag_ne rule.noBlank

namespace Cli.Format

theorem render_text (flags : List String) :
    Format.text.render flags = (flags.map String.toList).flatMap (· ++ ['\n']) := by
  rw [List.flatMap_map]
  rfl

variable {flags : List String}

theorem words_render_text (areWords : ∀ flag ∈ flags, Text.IsWord flag.toList) :
    Text.words (Format.text.render flags) = flags.map String.toList := by
  rw [render_text]
  exact Text.words_flatMap_newline (List.forall_mem_map.2 areWords)

theorem lines_render_text (areWords : ∀ flag ∈ flags, Text.IsWord flag.toList) :
    Text.lines (Format.text.render flags) = flags.map String.toList := by
  rw [render_text]
  apply Text.lines_flatMap_newline
  · exact List.forall_mem_map.2 fun flag member => (areWords flag member).newline_notMem
  · exact List.forall_mem_map.2 fun flag member => (areWords flag member).getLast?_ne

theorem count_newline_render_text (areWords : ∀ flag ∈ flags, Text.IsWord flag.toList) :
    (Format.text.render flags).count '\n' = flags.length := by
  have within : ∀ line ∈ flags.map String.toList, '\n' ∉ line :=
    List.forall_mem_map.2 fun flag member => (areWords flag member).newline_notMem
  rw [render_text, Text.count_newline_flatMap within, List.length_map]

theorem eq_of_render_text_eq {others : List String}
    (areWords : ∀ flag ∈ flags, Text.IsWord flag.toList)
    (areOthers : ∀ flag ∈ others, Text.IsWord flag.toList)
    (same : Format.text.render others = Format.text.render flags) : others = flags := by
  have words := congrArg Text.words same
  rw [words_render_text areOthers, words_render_text areWords] at words
  exact (List.map_inj_right fun _ _ => String.toList_injective).1 words

/-- The text of the flags that an effective table has for a device has these
flags for its words, in their order and with repetitions.  Each is a line, no
line is empty, and there is no other line feed.  So the text tells the flags. -/
theorem text_tells_flags {files : FileSystem} {project : Option Path} {includeBuiltin : Bool}
    {extra : List Path} {table : RuleTable}
    (built : (EffectiveTable.build files project includeBuiltin extra).value = .ok table)
    (device : String) :
    let flags := table.resolve device
    let text := Format.text.render flags
    (Text.words text).map String.ofList = flags ∧
      text.count '\n' = flags.length ∧
      (Text.lines text).map String.ofList = flags ∧
      (∀ line ∈ Text.lines text, line ≠ []) ∧
      ∀ otherFiles otherProject otherInclude otherExtra otherTable otherDevice,
        (EffectiveTable.build otherFiles otherProject otherInclude otherExtra).value =
            .ok otherTable →
          Format.text.render (otherTable.resolve otherDevice) = text →
            otherTable.resolve otherDevice = flags := by
  intro flags text
  have areWords := table.isWord_resolve (EffectiveTable.build_usable built) device
  have back : (flags.map String.toList).map String.ofList = flags := by
    simp
  refine ⟨?words, count_newline_render_text areWords, ?lines, ?nonempty, ?tells⟩
  case words => rw [words_render_text areWords, back]
  case lines => rw [lines_render_text areWords, back]
  case nonempty =>
    rw [lines_render_text areWords]
    exact List.forall_mem_map.2 fun flag member => (areWords flag member).nonempty
  case tells =>
    intro _ _ _ _ otherTable otherDevice otherBuilt same
    have areOthers := otherTable.isWord_resolve (EffectiveTable.build_usable otherBuilt) otherDevice
    exact eq_of_render_text_eq areWords areOthers same

/-- A file that repeats a rule: the repetition is in the text as well. -/
theorem text_tells_repeated_flags :
    let table : RuleTable := ⟨[⟨"board", "-DA=1"⟩, ⟨"other", "-DB"⟩, ⟨"board", "-DA=1"⟩]⟩
    let path : Path := ⟨"extra.rules.toml"⟩
    let files := FileSystem.ofEntries [(path, .file table.toToml.toUTF8)]
    (EffectiveTable.build files none false [path]).value = .ok table ∧
      (Text.words "-DA=1\n-DA=1\n".toList).map String.ofList = ["-DA=1", "-DA=1"] := by
  intro table path files
  have found : files.HoldsText path table.toToml :=
    FileSystem.holdsText_ofEntries path table.toToml
  have decoded : RuleTable.ofToml table.toToml = .ok table := by
    rw [RuleTable.toToml_eq_write, RuleTable.ofToml_write]
  have gives : RuleFile.Gives files path (.ok table) := .usable found decoded (by decide)
  have built : (EffectiveTable.build files none false [path]).value = .ok table :=
    EffectiveTable.extend_value_ok_iff.2 ⟨[table], .cons gives .nil, rfl⟩
  exact ⟨built, (text_tells_flags built "board").1⟩

end Cli.Format

end DeviceFlags
