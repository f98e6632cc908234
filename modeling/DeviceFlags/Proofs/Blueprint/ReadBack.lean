import DeviceFlags.Proofs.Blueprint.Lines
import DeviceFlags.Proofs.Blueprint.Reader

/-!
# Reading a module back

A module is printed as its name, its flags and the device that it is built for.
The flags are escaped, so they are read back whatever they hold.  The name and
the device are not: the text is read back as what was printed exactly if the
name holds nothing to protect and the device stays on its line.
-/

namespace DeviceFlags.Blueprint

open Toml (Reader)

/-! ## Tokens of a text -/

theorem tokens?_nil : tokens? [] = some [] := by
  rw [tokens?, Reader.all?_nil]
  rfl

variable {text rest : List Char}

theorem tokens?_of_token {found : Option Token} (reads : token text = some (found, rest))
    (shorter : rest.length < text.length) :
    tokens? text = (tokens? rest).map (found.toList ++ ·) := by
  rw [tokens?, tokens?, Reader.all?_cons reads shorter, Option.map_map, Option.map_map]
  cases found <;> rfl

theorem tokens?_of_none {c : Char} (fails : token (c :: rest) = none) :
    tokens? (c :: rest) = none := by
  rw [tokens?, Reader.all?, fails]
  rfl

theorem tokens?_comment (text : List Char) :
    tokens? ('/' :: '/' :: text) =
      (tokens? (text.dropWhile (· ≠ '\n'))).map
        (.comment (String.ofList (text.takeWhile (· ≠ '\n'))) :: ·) := by
  have reads : token ('/' :: '/' :: text) =
      some (some (.comment (String.ofList (text.takeWhile (· ≠ '\n')))),
        text.dropWhile (· ≠ '\n')) := rfl
  apply tokens?_of_token reads
  have shorter : (text.dropWhile (· ≠ '\n')).length ≤ text.length :=
    (List.dropWhile_suffix _).length_le
  simp only [List.length_cons]
  omega

theorem token_quote (text : List Char) :
    token ('"' :: text) = literal.map (fun value => some (.string (String.ofList value))) text :=
  rfl

theorem tokens?_string {value : List Char} (reads : literal text = some (value, rest)) :
    tokens? ('"' :: text) = (tokens? rest).map (.string (String.ofList value) :: ·) := by
  have token : token ('"' :: text) = some (some (.string (String.ofList value)), rest) := by
    rw [token_quote, Reader.map, reads]
    rfl
  apply tokens?_of_token token
  rw [literal_eq_some_iff.1 reads]
  simp only [List.length_cons, List.length_append]
  omega

theorem tokens?_string_of_none (fails : literal text = none) : tokens? ('"' :: text) = none := by
  apply tokens?_of_none
  rw [token_quote, Reader.map, fails]
  rfl

theorem isWhitespace_of_isWordChar {c : Char} (isWord : isWordChar c = true) :
    c.isWhitespace = false := by
  rw [Bool.eq_false_iff]
  intro blank
  simp only [Char.isWhitespace, Bool.or_eq_true, decide_eq_true_eq] at blank
  rcases blank with ((rfl | rfl) | rfl) | rfl <;> contradiction

/-- A word that can name a type or a property. -/
structure IsName (text : String) : Prop where
  nonempty : text.toList ≠ []
  letters : text.toList.all isWordChar = true

theorem tokens?_word {word : String} {d : Char} (isName : IsName word)
    (ends : isWordChar d = false) (rest : List Char) :
    tokens? (word.toList ++ d :: rest) = (tokens? (d :: rest)).map (.word word :: ·) := by
  have letters := isName.letters
  cases split : word.toList with
  | nil => exact absurd split isName.nonempty
  | cons c more =>
      rw [split, List.all_eq_true, List.forall_mem_cons] at letters
      have take : (more ++ d :: rest).takeWhile isWordChar = more := by
        rw [List.takeWhile_append_of_pos letters.2, List.takeWhile_cons, ends]
        exact List.append_nil more
      have drop : (more ++ d :: rest).dropWhile isWordChar = d :: rest := by
        rw [List.dropWhile_append_of_pos letters.2, List.dropWhile_cons, ends]
        rfl
      have whole : String.ofList (c :: more) = word := by rw [← split, String.ofList_toList]
      have reads : token (c :: (more ++ d :: rest)) = some (some (.word word), d :: rest) := by
        rw [token, isWhitespace_of_isWordChar letters.1, letters.1, take, drop, whole]
        rfl
      apply tokens?_of_token reads
      simp only [List.length_cons, List.length_append]
      omega

/-! ## Texts that stand for tokens -/

/-- A text stands for some tokens, whatever comes behind it. -/
def Lexes (text : List Char) (tokens : List Token) : Prop :=
  ∀ rest, tokens? (text ++ rest) = (tokens? rest).map (tokens ++ ·)

namespace Lexes

theorem nil : Lexes [] [] := by
  intro rest
  exact Option.map_id'.symm

theorem append {first second : List Char} {tokens others : List Token} (front : Lexes first tokens)
    (back : Lexes second others) : Lexes (first ++ second) (tokens ++ others) := by
  intro rest
  rw [List.append_assoc, front, back, Option.map_map]
  congr 1
  funext later
  exact (List.append_assoc tokens others later).symm

theorem flatMap {α : Type} {values : List α} {image : α → List Char} {tokens : α → List Token}
    (each : ∀ value ∈ values, Lexes (image value) (tokens value)) :
    Lexes (values.flatMap image) (values.flatMap tokens) := by
  induction values with
  | nil => exact nil
  | cons value rest ih =>
      rw [List.forall_mem_cons] at each
      rw [List.flatMap_cons, List.flatMap_cons]
      exact each.1.append (ih each.2)

theorem blank {c : Char} (isBlank : c.isWhitespace = true) : Lexes [c] [] := by
  intro rest
  have reads : token (c :: rest) = some (none, rest) := if_pos isBlank
  exact tokens?_of_token reads (Nat.lt_succ_self _)

theorem space : Lexes [' '] [] :=
  blank rfl

theorem indent : Lexes "    ".toList [] :=
  ((space.append space).append space).append space

theorem feed : Lexes ['\n'] [] :=
  blank rfl

theorem mark {c : Char} {mark : Mark}
    (reads : ∀ rest, token (c :: rest) = some (some (.mark mark), rest)) :
    Lexes [c] [.mark mark] := by
  intro rest
  exact tokens?_of_token (reads rest) (Nat.lt_succ_self _)

/-- A word ends before the next character that cannot stand in a word. -/
theorem word {text : String} {d : Char} {tokens : List Token} (isName : IsName text)
    (ends : isWordChar d = false) (next : Lexes [d] tokens) :
    Lexes (text.toList ++ [d]) (.word text :: tokens) := by
  intro rest
  have behind := next rest
  rw [List.singleton_append] at behind
  rw [List.append_assoc, List.singleton_append, tokens?_word isName ends, behind, Option.map_map]
  rfl

theorem comma : Lexes [','] [.mark .comma] :=
  mark fun _ => rfl

/-- The name of a property with the colon behind it. -/
theorem label {text : String} (isName : IsName text) :
    Lexes (text.toList ++ [':'] ++ [' ']) [.word text, .mark .colon] :=
  (word isName rfl (mark fun _ => rfl)).append space

theorem string (value : String) :
    Lexes ('"' :: (escape value.toList ++ ['"'])) [.string value] := by
  intro rest
  have reads : literal (escape value.toList ++ '"' :: rest) = some (value.toList, rest) :=
    literal_eq_some_iff.2 rfl
  rw [List.cons_append, List.append_assoc, List.singleton_append, tokens?_string reads,
    String.ofList_toList]
  rfl

theorem comment {text : String} (within : '\n' ∉ text.toList) :
    Lexes ('/' :: '/' :: (text.toList ++ ['\n'])) [.comment text] := by
  intro rest
  have other : ∀ c ∈ text.toList, decide (c ≠ '\n') = true := by
    intro c member
    rw [decide_eq_true_eq]
    rintro rfl
    exact within member
  have take : (text.toList ++ '\n' :: rest).takeWhile (· ≠ '\n') = text.toList := by
    rw [List.takeWhile_append_of_pos other, List.takeWhile_cons]
    exact List.append_nil _
  have drop : (text.toList ++ '\n' :: rest).dropWhile (· ≠ '\n') = '\n' :: rest := by
    rw [List.dropWhile_append_of_pos other, List.dropWhile_cons]
    rfl
  have ended : tokens? ('\n' :: rest) = tokens? rest := (feed rest).trans Option.map_id'
  rw [List.cons_append, List.cons_append, List.append_assoc, List.singleton_append,
    tokens?_comment, take, drop, ended, String.ofList_toList]
  rfl

theorem innerLine {text : List Char} {tokens : List Token} (lexes : Lexes text tokens) :
    Lexes (innerLine text) tokens := by
  have whole := indent.append (lexes.append feed)
  rwa [List.append_nil] at whole

end Lexes

/-! ## The tokens of a module -/

/-- The text of a module up to the quote in front of its name. -/
def opening (device type : String) : List Char :=
  line ("// device: ".toList ++ device.toList) ++ line (type.toList ++ [' ', '\x7b']) ++
    "    name: ".toList

/-- The text of a module from the quote behind its name on. -/
def closing (flags : List String) : List Char :=
  ",\n".toList ++ (Text.lines (fragment flags)).flatMap innerLine ++ line ['\x7d']

theorem moduleText_eq (device type name : String) (flags : List String) :
    moduleText device type name ⟨flags⟩ =
      opening device type ++ '"' :: (name.toList ++ '"' :: closing flags) := by
  have indented : "    name: ".toList = "    ".toList ++ "name: ".toList := rfl
  have quoted : "name: \"".toList = "name: ".toList ++ ['"'] := rfl
  have comma : "\",".toList = ['"', ','] := rfl
  have ended : ",\n".toList = [',', '\n'] := rfl
  have inner : innerLine = fun text => "    ".toList ++ (text ++ ['\n']) := rfl
  simp only [moduleText, opening, closing, line, inner, indented, quoted, comma, ended,
    List.append_assoc, List.cons_append, List.nil_append]

/-- The tokens in front of the name. -/
def openingTokens (device type : String) : List Token :=
  [.comment (" device: " ++ device), .word type, .mark .openBrace, .word "name", .mark .colon]

/-- The tokens of a flag. -/
def flagTokens (flag : String) : List Token :=
  [.string flag, .mark .comma]

/-- The tokens of the property of a list of flags. -/
def listTokens (flags : List String) : List Token :=
  [.word "cflags", .mark .colon, .mark .openBracket] ++ flags.flatMap flagTokens ++
    [.mark .closeBracket, .mark .comma]

/-- The tokens behind the name. -/
def closingTokens (flags : List String) : List Token :=
  .mark .comma :: (listTokens flags ++ [.mark .closeBrace])

variable {device type name : String} {flags : List String}

theorem lexes_opening (within : '\n' ∉ device.toList) (isName : IsName type) :
    Lexes (opening device type) (openingTokens device type) := by
  have onLine : '\n' ∉ (" device: " ++ device).toList := by
    rw [String.toList_append, List.mem_append, not_or]
    exact ⟨by decide, within⟩
  have named : Lexes (type.toList ++ [' ']) [.word type] := .word isName rfl .space
  have brace : Lexes ['\x7b'] [.mark .openBrace] := .mark fun _ => rfl
  have label : Lexes ("name".toList ++ [':'] ++ [' ']) [.word "name", .mark .colon] :=
    .label ⟨by decide, by decide⟩
  have whole := (((Lexes.comment onLine).append (named.append (brace.append .feed))).append
    Lexes.indent).append label
  have parts : "    name: ".toList = "    ".toList ++ ("name".toList ++ ([':'] ++ [' '])) := rfl
  have slashes : "// device: ".toList = '/' :: '/' :: " device: ".toList := rfl
  simp only [opening, parts, slashes, String.toList_append, List.append_assoc, List.cons_append,
    List.nil_append, line] at whole ⊢
  exact whole

theorem lexes_flagBody (flag : String) : Lexes (flagBody flag) (flagTokens flag) := by
  have whole := Lexes.indent.append ((Lexes.string flag).append .comma)
  have opened : "    \"".toList = "    ".toList ++ ['"'] := rfl
  have ended : "\",".toList = ['"', ','] := rfl
  unfold flagBody
  simp only [opened, ended, List.append_assoc, List.cons_append, List.nil_append] at whole ⊢
  exact whole

theorem lexes_fragment (within : ∀ flag ∈ flags, '\n' ∉ flag.toList) :
    Lexes ((Text.lines (fragment flags)).flatMap innerLine) (listTokens flags) := by
  have label : Lexes ("cflags".toList ++ [':'] ++ [' ']) [.word "cflags", .mark .colon] :=
    .label ⟨by decide, by decide⟩
  have bracket : Lexes ['['] [.mark .openBracket] := .mark fun _ => rfl
  have first : Lexes "cflags: [".toList [.word "cflags", .mark .colon, .mark .openBracket] :=
    label.append bracket
  have closed : Lexes [']'] [.mark .closeBracket] := .mark fun _ => rfl
  have last : Lexes "],".toList [.mark .closeBracket, .mark .comma] := closed.append .comma
  rw [lines_fragment within]
  cases flags with
  | nil =>
      have whole := (first.append last).innerLine
      rw [fragmentLines, List.isEmpty_nil, if_pos rfl, List.flatMap_singleton]
      exact whole
  | cons flag rest =>
      have each : ∀ value ∈ flag :: rest, Lexes (innerLine (flagBody value)) (flagTokens value) :=
        fun value _ => (lexes_flagBody value).innerLine
      have whole := first.innerLine.append ((Lexes.flatMap each).append last.innerLine)
      rw [fragmentLines_cons, List.flatMap_append, List.flatMap_cons, List.flatMap_map,
        List.flatMap_singleton, List.append_assoc, listTokens, List.append_assoc]
      exact whole

theorem lexes_closing (within : ∀ flag ∈ flags, '\n' ∉ flag.toList) :
    Lexes (closing flags) (closingTokens flags) := by
  have brace : Lexes ['\x7d'] [.mark .closeBrace] := .mark fun _ => rfl
  exact ((Lexes.comma.append .feed).append (lexes_fragment within)).append (brace.append .feed)

/-! ## The items of a module -/

/-- What a module says: the device that it is built for, its name and its flags. -/
def moduleItems (device type name : String) (flags : List String) : List Item :=
  [.comment (" device: " ++ device),
    .block type [("name", .text name), ("cflags", .texts flags)]]

theorem items?_flags (properties : List (String × Value)) (values flags : List String)
    (rest : List Token) :
    items? (.within type properties name values) (flags.flatMap flagTokens ++ rest) =
      items? (.within type properties name (values ++ flags)) rest := by
  induction flags generalizing values with
  | nil => rw [List.append_nil, List.flatMap_nil, List.nil_append]
  | cons flag more ih =>
      have first : items? (.within type properties name values)
          (flagTokens flag ++ (more.flatMap flagTokens ++ rest)) =
          items? (.within type properties name (values ++ [flag]))
            (more.flatMap flagTokens ++ rest) := rfl
      rw [List.flatMap_cons, List.append_assoc, first, ih, List.append_assoc,
        List.singleton_append]

/-- What has been read of the module that a place is in. -/
def Place.held? : Place → Option (String × List (String × Value))
  | .outside => none
  | .inside type properties => some (type, properties)
  | .within type properties _ _ => some (type, properties)

/-- A property that has been read stays in its module. -/
theorem exists_block_of_held {place : Place} {tokens : List Token} {items : List Item}
    {properties : List (String × Value)} (held : place.held? = some (type, properties))
    (reads : items? place tokens = some items) :
    ∃ more others, items = .block type (properties ++ more) :: others := by
  fun_induction items? place tokens generalizing properties items with
  | case1 => cases held
  | case2 => cases held
  | case3 => cases held
  | case4 type before rest ih =>
      rcases Option.map_eq_some_iff.1 reads with ⟨others, -, rfl⟩
      cases held
      exact ⟨[], others, by rw [List.append_nil]⟩
  | case5 type before name value rest ih =>
      cases held
      rcases ih rfl reads with ⟨more, others, rfl⟩
      exact ⟨_, others, by rw [List.append_assoc]⟩
  | case6 type before name rest ih =>
      cases held
      exact ih rfl reads
  | case7 type before name values value rest ih =>
      cases held
      exact ih rfl reads
  | case8 type before name values rest ih =>
      cases held
      rcases ih rfl reads with ⟨more, others, rfl⟩
      exact ⟨_, others, by rw [List.append_assoc]⟩
  | case9 => cases reads

/-- A string is read as a property only with the comma behind it. -/
theorem exists_block_of_string {value : String} {rest : List Token} {items : List Item}
    {properties : List (String × Value)}
    (reads : items? (.inside type properties)
      (.word name :: .mark .colon :: .string value :: rest) = some items) :
    ∃ more others, items = .block type (properties ++ (name, .text value) :: more) :: others := by
  cases rest with
  | nil => cases reads
  | cons token rest =>
      cases token with
      | mark mark =>
          cases mark with
          | comma =>
              have behind : items? (.inside type (properties ++ [(name, .text value)])) rest =
                  some items := reads
              rcases exists_block_of_held rfl behind with ⟨more, others, rfl⟩
              exact ⟨more, others, by rw [List.append_assoc, List.singleton_append]⟩
          | _ => cases reads
      | _ => cases reads

theorem items?_module (device type name : String) (flags : List String) :
    items? .outside (openingTokens device type ++ .string name :: closingTokens flags) =
      some (moduleItems device type name flags) := by
  have inner : items? (.within type [("name", .text name)] "cflags" [])
      (flags.flatMap flagTokens ++ [.mark .closeBracket, .mark .comma, .mark .closeBrace]) =
      some [.block type [("name", .text name), ("cflags", .texts flags)]] := by
    rw [items?_flags]
    rfl
  have listed : closingTokens flags =
      .mark .comma :: .word "cflags" :: .mark .colon :: .mark .openBracket ::
        (flags.flatMap flagTokens ++ [.mark .closeBracket, .mark .comma, .mark .closeBrace]) := by
    simp only [closingTokens, listTokens, List.append_assoc, List.cons_append, List.nil_append]
  have outer : items? .outside (openingTokens device type ++ .string name :: closingTokens flags) =
      (items? (.within type [("name", .text name)] "cflags" [])
        (flags.flatMap flagTokens ++ [.mark .closeBracket, .mark .comma, .mark .closeBrace])).map
        (.comment (" device: " ++ device) :: ·) := by
    rw [listed]
    rfl
  rw [outer, inner]
  rfl

theorem read?_moduleText (inLine : '\n' ∉ device.toList)
    (within : ∀ flag ∈ flags, '\n' ∉ flag.toList) (isName : IsName type)
    (noQuote : '"' ∉ name.toList) (noBackslash : '\\' ∉ name.toList) :
    read? (moduleText device type name ⟨flags⟩) = some (moduleItems device type name flags) := by
  have quoted := Lexes.string name
  rw [escape_eq_self noQuote noBackslash] at quoted
  have whole := ((lexes_opening inLine isName).append (quoted.append (lexes_closing within))) []
  have tokens : tokens? (moduleText device type name ⟨flags⟩) =
      some (openingTokens device type ++ .string name :: closingTokens flags) := by
    rw [moduleText_eq]
    simpa [tokens?_nil] using whole
  rw [read?, tokens, Option.bind_some, items?_module]

/-- A device is read back only if it stays on its line. -/
theorem newline_notMem_of_read? {others : List Item}
    (reads : read? (moduleText device type name ⟨flags⟩) =
      some (.comment (" device: " ++ device) :: others)) :
    '\n' ∉ device.toList := by
  have starts : ∃ text, moduleText device type name ⟨flags⟩ = '/' :: '/' :: text := ⟨_, rfl⟩
  rcases starts with ⟨text, starts⟩
  rw [read?, starts, tokens?_comment] at reads
  rcases Option.bind_eq_some_iff.1 reads with ⟨_, lexed, said⟩
  rcases Option.map_eq_some_iff.1 lexed with ⟨tokens, -, rfl⟩
  rcases Option.map_eq_some_iff.1 said with ⟨items, -, same⟩
  injection same with first
  injection first with comment
  intro member
  have among : '\n' ∈ text.takeWhile (· ≠ '\n') := by
    rw [← String.toList_ofList (l := text.takeWhile (· ≠ '\n')), comment, String.toList_append]
    exact List.mem_append_right _ member
  have other := List.all_eq_true.1 List.all_takeWhile _ among
  exact of_decide_eq_true other rfl

/-- A name is read back only if it holds nothing to protect. -/
theorem notMem_of_read? (inLine : '\n' ∉ device.toList) (isName : IsName type) {others : List Item}
    {properties : List (String × Value)}
    (reads : read? (moduleText device type name ⟨flags⟩) =
      some (.comment (" device: " ++ device) ::
        .block type (("name", .text name) :: properties) :: others)) :
    '"' ∉ name.toList ∧ '\\' ∉ name.toList := by
  rw [read?, moduleText_eq, lexes_opening inLine isName] at reads
  rcases Option.bind_eq_some_iff.1 reads with ⟨_, whole, said⟩
  rcases Option.map_eq_some_iff.1 whole with ⟨behind, lexed, rfl⟩
  cases result : literal (name.toList ++ '"' :: closing flags) with
  | none =>
      rw [tokens?_string_of_none result] at lexed
      cases lexed
  | some pair =>
      rcases pair with ⟨value, rest⟩
      rw [tokens?_string result] at lexed
      rcases Option.map_eq_some_iff.1 lexed with ⟨tokens, -, rfl⟩
      -- The comment and the opening of the module are read whatever comes behind them.
      have opened : (items? (.inside type [])
          (.word "name" :: .mark .colon :: .string (String.ofList value) :: tokens)).map
          (.comment (" device: " ++ device) :: ·) =
          some (.comment (" device: " ++ device) ::
            .block type (("name", .text name) :: properties) :: others) := said
      rcases Option.map_eq_some_iff.1 opened with ⟨items, inner, same⟩
      rcases exists_block_of_string inner with ⟨more, later, rfl⟩
      cases same
      have written := literal_eq_some_iff.1 result
      rw [String.toList_ofList] at written ⊢
      exact notMem_of_append_quote_eq written

/-- A module is read back as what it says exactly if its device stays on its
line and its name holds nothing to protect. -/
theorem read?_moduleText_iff (within : ∀ flag ∈ flags, '\n' ∉ flag.toList)
    (isName : IsName type) :
    read? (moduleText device type name ⟨flags⟩) = some (moduleItems device type name flags) ↔
      '\n' ∉ device.toList ∧ '"' ∉ name.toList ∧ '\\' ∉ name.toList := by
  constructor
  · intro reads
    have inLine := newline_notMem_of_read? reads
    exact ⟨inLine, notMem_of_read? inLine isName reads⟩
  · rintro ⟨inLine, noQuote, noBackslash⟩
    exact read?_moduleText inLine within isName noQuote noBackslash

end DeviceFlags.Blueprint
