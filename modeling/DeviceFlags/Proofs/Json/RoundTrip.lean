import DeviceFlags.Proofs.Json.Reader
import DeviceFlags.Text.Hex
import DeviceFlags.Proofs.Toml.Reader
import DeviceFlags.Proofs.Toml.StringLiteral.Escape
import Mathlib.Data.List.TakeWhile

/-!
# Reading back what is printed

A printed value is read back as itself, whatever its strings hold.  It holds no
character below U+0020, so it is one line.
-/

namespace DeviceFlags.Json

open Toml (Reader expect)

variable {α ι : Type}

theorem expect_cons (c : Char) (rest : List Char) : expect c (c :: rest) = some rest := by
  rw [expect, if_pos rfl]

/-- A text that no blank begins. -/
def Solid (text : List Char) : Prop :=
  skipBlanks text = text

theorem solid_cons {c : Char} (other : isBlank c = false) (rest : List Char) :
    Solid (c :: rest) := by
  rw [Solid, skipBlanks, List.dropWhile_cons, other]
  rfl

/-! ## Strings -/

theorem codeUnit_padded {value : Nat} (small : value < 0x10000) (rest : List Char) :
    codeUnit (Text.Hex.padded Text.Hex.lowerDigit 4 value ++ rest) = some (value, rest) := by
  rw [codeUnit, if_pos (Text.Hex.le_length_padded_append _ _ _ _),
    Text.Hex.number?_take_padded Text.Hex.value?_lowerDigit small, Text.Hex.drop_padded]
  rfl

theorem named_padded {c : Char} (small : c.toNat < 0x10000) (rest : List Char) :
    named (Text.Hex.padded Text.Hex.lowerDigit 4 c.toNat ++ rest) = some (c, rest) := by
  simp only [named, codeUnit_padded small, Option.bind_eq_bind, Option.bind_some,
    Toml.StringLiteral.scalar?_toNat]
  rfl

theorem character_escapeChar (c : Char) (rest : List Char) :
    character (escapeChar c ++ rest) = some (c, rest) := by
  unfold escapeChar
  split
  case isTrue equal =>
    subst equal
    rfl
  case isFalse quote =>
  split
  case isTrue equal =>
    subst equal
    rfl
  case isFalse backslash =>
  split
  case isTrue equal =>
    obtain rfl : c = '\x08' := Char.toNat_inj.1 equal
    rfl
  case isFalse =>
  split
  case isTrue equal =>
    obtain rfl : c = '\x0c' := Char.toNat_inj.1 equal
    rfl
  case isFalse =>
  split
  case isTrue equal =>
    subst equal
    rfl
  case isFalse =>
  split
  case isTrue equal =>
    subst equal
    rfl
  case isFalse =>
  split
  case isTrue equal =>
    subst equal
    rfl
  case isFalse =>
  split
  case isTrue control => exact named_padded (by omega) rest
  case isFalse seen =>
    have plain : ¬(c = '"' ∨ c.toNat < 0x20) := not_or.2 ⟨quote, seen⟩
    rw [List.singleton_append, character, if_neg backslash, if_neg plain]

theorem escapeChar_ne_nil (c : Char) : escapeChar c ≠ [] := by
  unfold escapeChar
  repeat' split
  all_goals simp

theorem quoted_literal (text : String) (rest : List Char) :
    quoted (literal text ++ rest) = some (text, rest) := by
  have many : Reader.many character (text.toList.flatMap escapeChar ++ '"' :: rest) =
      (text.toList.map id, '"' :: rest) :=
    Reader.many_flatMap (fun _ => True) (fun c _ => escapeChar_ne_nil c)
      (fun c _ rest _ => character_escapeChar c rest) (fun _ _ _ _ => trivial) trivial rfl
  have split : literal text ++ rest = '"' :: (text.toList.flatMap escapeChar ++ '"' :: rest) := by
    simp [literal]
  simp only [quoted, split, expect_cons, many, Option.bind_eq_bind, Option.bind_some, List.map_id,
    String.ofList_toList]
  rfl

/-! ## Commas -/

/-- Texts with commas between them. -/
def joined (image : ι → List Char) : List ι → List Char
  | [] => []
  | first :: others => image first ++ others.flatMap fun item => ',' :: image item

theorem joined_cons_cons (image : ι → List Char) (first second : ι) (others : List ι) :
    joined image (first :: second :: others) =
      image first ++ ',' :: joined image (second :: others) := by
  simp only [joined, List.flatMap_cons, List.cons_append]

/-- The text of a member of an object. -/
def printMember (member : String × Json) : List Char :=
  literal member.1 ++ ':' :: print member.2

theorem printElements_eq_joined (elements : List Json) :
    printElements elements = joined print elements := by
  induction elements with
  | nil => rfl
  | cons first others ih =>
      cases others with
      | nil => simp [printElements, joined]
      | cons second others => rw [printElements, ih, joined_cons_cons]

theorem printMembers_eq_joined (members : List (String × Json)) :
    printMembers members = joined printMember members := by
  induction members with
  | nil => rfl
  | cons first others ih =>
      cases others with
      | nil => simp [printMembers, joined, printMember]
      | cons second others => rw [printMembers, ih, joined_cons_cons, printMember]

theorem forall_mem_joined {P : Char → Prop} {image : ι → List Char} {items : List ι}
    (comma : P ',') (inside : ∀ item ∈ items, ∀ c ∈ image item, P c) :
    ∀ c ∈ joined image items, P c := by
  cases items with
  | nil => exact List.forall_mem_nil P
  | cons first others =>
      rw [List.forall_mem_cons] at inside
      rw [joined, List.forall_mem_append, List.forall_mem_flatMap]
      refine ⟨inside.1, ?_⟩
      intro item among
      exact List.forall_mem_cons.2 ⟨comma, inside.2 item among⟩

theorem length_le_joined (image : ι → List Char) {items : List ι} {item : ι}
    (member : item ∈ items) : (image item).length ≤ (joined image items).length := by
  induction items with
  | nil => cases member
  | cons first others ih =>
      cases others with
      | nil =>
          rw [List.mem_singleton.1 member]
          simp [joined]
      | cons second others =>
          rw [joined_cons_cons, List.length_append, List.length_cons]
          rcases List.mem_cons.1 member with rfl | among
          · omega
          · have := ih among
            omega

/-- A text that is read as a value in front of anything, and that no blank
begins. -/
structure Returns (reader : Reader α) (image : List Char) (value : α) : Prop where
  reads : ∀ rest, reader (image ++ rest) = some (value, rest)
  solid : ∀ rest, Solid (image ++ rest)

theorem Returns.between {reader : Reader α} {image rest : List Char} {value : α}
    (returns : Returns reader image value) (behind : Solid rest) :
    Reader.between skipBlanks reader (image ++ rest) = some (value, rest) := by
  have same : (value, skipBlanks rest) = (value, rest) := congrArg (value, ·) behind
  rw [Reader.between, returns.solid, returns.reads]
  exact congrArg some same

variable {reader : Reader α} {image : ι → List Char} {value : ι → α} {items : List ι}

theorem many_after_comma (returns : ∀ item ∈ items, Returns reader (image item) (value item))
    {rest : List Char} (ends : Solid rest) (other : rest.head? ≠ some ',') :
    Reader.many (Reader.after ',' (Reader.between skipBlanks reader))
        ((items.flatMap fun item => ',' :: image item) ++ rest) = (items.map value, rest) ∧
      Solid ((items.flatMap fun item => ',' :: image item) ++ rest) := by
  have stays : ∀ item ∈ items, ∀ rest, Solid rest → Solid (',' :: image item ++ rest) := by
    intro item _ rest _
    exact solid_cons rfl _
  refine ⟨?many, Reader.fits_flatMap Solid stays ends⟩
  case many =>
    apply Reader.many_flatMap Solid _ _ stays ends (Reader.after_of_ne other)
    · intro item _
      exact List.cons_ne_nil _ _
    · intro item member rest behind
      rw [List.cons_append, Reader.after_cons, (returns item member).between behind]

theorem separated_joined (returns : ∀ item ∈ items, Returns reader (image item) (value item))
    {rest : List Char} (ends : Solid rest) (other : rest.head? ≠ some ',')
    (fails : reader rest = none) :
    Reader.separated ',' (Reader.between skipBlanks reader) (joined image items ++ rest) =
      (items.map value, rest) := by
  cases items with
  | nil =>
      have none : Reader.between skipBlanks reader rest = none := by
        rw [Reader.between, ends, fails]
        rfl
      rw [joined, List.nil_append, Reader.separated, none]
      rfl
  | cons first items =>
      rw [List.forall_mem_cons] at returns
      rcases many_after_comma returns.2 ends other with ⟨many, behind⟩
      rw [joined, List.append_assoc, Reader.separated, returns.1.between behind]
      simp only [many, List.map_cons]

theorem listed_joined (returns : ∀ item ∈ items, Returns reader (image item) (value item))
    {close : Char} (solid : isBlank close = false) (other : close ≠ ',')
    (fails : ∀ rest, reader (close :: rest) = none) (rest : List Char) :
    listed close reader (joined image items ++ close :: rest) = some (items.map value, rest) := by
  have closed : skipBlanks (close :: rest) = close :: rest := solid_cons solid rest
  have separated := separated_joined returns closed (by simpa using other) (fails rest)
  simp only [listed, separated, closed, expect_cons, Option.bind_eq_bind, Option.bind_some]
  rfl

/-! ## Values -/

/-- A value of the printed fragment among all values. -/
def toValue : Json → Value
  | .string text => .string text
  | .array elements => .array (elements.map toValue)
  | .object members => .object (members.map fun member => (member.1, toValue member.2))
decreasing_by
  · have smaller := List.sizeOf_lt_of_mem ‹_›
    simp only [array.sizeOf_spec]
    omega
  · have smaller := List.sizeOf_lt_of_mem ‹_ ∈ members›
    cases member
    simp only [object.sizeOf_spec, Prod.mk.sizeOf_spec] at smaller ⊢
    omega

/-- Induction over a value: an array by its elements, an object by what its
members have for values. -/
@[induction_eliminator]
theorem induct {motive : Json → Prop} (string : ∀ text, motive (.string text))
    (array : ∀ elements, (∀ element ∈ elements, motive element) → motive (.array elements))
    (object : ∀ members, (∀ member ∈ members, motive member.2) → motive (.object members))
    (json : Json) : motive json := by
  refine @Json.rec motive (fun elements => ∀ element ∈ elements, motive element)
    (fun members => ∀ member ∈ members, motive member.2) (fun member => motive member.2)
    string array object ?noElement ?elements ?noMember ?members ?member json
  case noElement => exact fun _ absurd => nomatch absurd
  case elements => exact fun _ _ first others => List.forall_mem_cons.2 ⟨first, others⟩
  case noMember => exact fun _ absurd => nomatch absurd
  case members => exact fun _ _ first others => List.forall_mem_cons.2 ⟨first, others⟩
  case member => exact fun _ _ value => value

theorem print_array (elements : List Json) :
    print (.array elements) = '[' :: joined print elements ++ [']'] := by
  rw [print, printElements_eq_joined]

theorem print_object (members : List (String × Json)) :
    print (.object members) = '{' :: joined printMember members ++ ['}'] := by
  rw [print, printMembers_eq_joined]

theorem solid_print (json : Json) (rest : List Char) : Solid (print json ++ rest) := by
  cases json <;> exact solid_cons rfl _

theorem length_print_pos (json : Json) : 0 < (print json).length := by
  cases json <;> simp [print, literal]

theorem valueWithin_closeBracket (depth : Nat) (rest : List Char) :
    valueWithin depth (']' :: rest) = none := by
  cases depth <;> rfl

theorem returns_member {depth : Nat} {member : String × Json}
    (returns : Returns (valueWithin depth) (print member.2) (toValue member.2)) :
    Returns (Json.member (valueWithin depth)) (printMember member)
      (member.1, toValue member.2) := by
  refine ⟨?reads, fun rest => solid_cons rfl _⟩
  case reads =>
    intro rest
    have colon : skipBlanks (':' :: (print member.2 ++ rest)) = ':' :: (print member.2 ++ rest) :=
      solid_cons rfl _
    have value : skipBlanks (print member.2 ++ rest) = print member.2 ++ rest := returns.solid rest
    rw [printMember, List.append_assoc, List.cons_append]
    simp only [Json.member, quoted_literal, colon, expect_cons, value, returns.reads,
      Option.bind_eq_bind, Option.bind_some]
    rfl

theorem returns_string (depth : Nat) (text : String) :
    Returns (valueWithin (depth + 1)) (print (.string text)) (toValue (.string text)) := by
  refine ⟨?reads, solid_print (.string text)⟩
  case reads =>
    intro rest
    have read : valueWithin (depth + 1) (literal text ++ rest) =
        quoted.map .string (literal text ++ rest) := rfl
    rw [print, read, Reader.map, quoted_literal, toValue]
    rfl

theorem returns_array {depth : Nat} {elements : List Json}
    (returns : ∀ element ∈ elements,
      Returns (valueWithin depth) (print element) (toValue element)) :
    Returns (valueWithin (depth + 1)) (print (.array elements)) (toValue (.array elements)) := by
  refine ⟨?reads, solid_print (.array elements)⟩
  case reads =>
    intro rest
    have inside := listed_joined returns rfl (by decide) (valueWithin_closeBracket depth) rest
    have read : valueWithin (depth + 1) ('[' :: (joined print elements ++ ']' :: rest)) =
        (listed ']' (valueWithin depth)).map .array (joined print elements ++ ']' :: rest) := rfl
    rw [print_array, toValue]
    simp only [List.append_assoc, List.cons_append, List.nil_append, read, Reader.map, inside]
    rfl

theorem returns_object {depth : Nat} {members : List (String × Json)}
    (returns : ∀ member ∈ members,
      Returns (valueWithin depth) (print member.2) (toValue member.2)) :
    Returns (valueWithin (depth + 1)) (print (.object members)) (toValue (.object members)) := by
  refine ⟨?reads, solid_print (.object members)⟩
  case reads =>
    intro rest
    have members_return : ∀ member ∈ members, Returns (Json.member (valueWithin depth))
        (printMember member) (member.1, toValue member.2) :=
      fun member among => returns_member (returns member among)
    have fails : ∀ rest, Json.member (valueWithin depth) ('}' :: rest) = none := fun _ => rfl
    have inside := listed_joined members_return rfl (by decide) fails rest
    have read : valueWithin (depth + 1) ('{' :: (joined printMember members ++ '}' :: rest)) =
        (listed '}' (Json.member (valueWithin depth))).map .object
          (joined printMember members ++ '}' :: rest) := rfl
    rw [print_object, toValue]
    simp only [List.append_assoc, List.cons_append, List.nil_append, read, Reader.map, inside]
    rfl

theorem length_lt_of_mem_array {elements : List Json} {element : Json}
    (member : element ∈ elements) : (print element).length < (print (.array elements)).length := by
  have inside := length_le_joined print member
  rw [print_array, List.length_append, List.length_cons]
  omega

theorem length_lt_of_mem_object {members : List (String × Json)} {member : String × Json}
    (among : member ∈ members) :
    (print member.2).length < (print (.object members)).length := by
  have inside := length_le_joined printMember among
  rw [printMember, List.length_append, List.length_cons] at inside
  rw [print_object, List.length_append, List.length_cons]
  omega

/-- A printed value is read back at any depth that its length does not exceed. -/
theorem returns_print (json : Json) {depth : Nat} (enough : (print json).length ≤ depth) :
    Returns (valueWithin depth) (print json) (toValue json) := by
  induction depth generalizing json with
  | zero => exact absurd enough (Nat.not_le_of_lt (length_print_pos json))
  | succ depth ih =>
      cases json with
      | string text => exact returns_string depth text
      | array elements =>
          apply returns_array
          intro element member
          have shorter := length_lt_of_mem_array member
          exact ih element (by omega)
      | object members =>
          apply returns_object
          intro member among
          have shorter := length_lt_of_mem_object among
          exact ih member.2 (by omega)

/-- Reading undoes printing, also with blanks behind what is printed. -/
theorem read?_print (json : Json) {behind : List Char} (blank : ∀ c ∈ behind, isBlank c = true) :
    read? (print json ++ behind) = some (toValue json) := by
  have enough : (print json).length ≤ (print json ++ behind).length := by
    rw [List.length_append]
    omega
  have solid : skipBlanks (print json ++ behind) = print json ++ behind := solid_print json behind
  have dropped : skipBlanks behind = [] := List.dropWhile_eq_nil_iff.2 blank
  rw [read?, Reader.between, solid, (returns_print json enough).reads]
  simp [dropped]

/-! ## One line -/

theorem seen_of_mem_padded {width value : Nat} :
    ∀ c ∈ Text.Hex.padded Text.Hex.lowerDigit width value, 0x20 ≤ c.toNat := by
  have digits : ∀ small < 16, 0x20 ≤ (Text.Hex.lowerDigit small).toNat := by decide
  intro c member
  rcases Text.Hex.mem_padded member with ⟨small, bound, rfl⟩
  exact digits small bound

theorem seen_of_mem_escaped {c : Char} (seen : 0x20 ≤ c.toNat) :
    ∀ d ∈ ['\\', c], 0x20 ≤ d.toNat :=
  List.forall_mem_cons.2 ⟨by decide, List.forall_mem_singleton.2 seen⟩

theorem seen_of_mem_escapeChar (c : Char) : ∀ d ∈ escapeChar c, 0x20 ≤ d.toNat := by
  unfold escapeChar
  -- Before the last two forms each is a backslash with a letter.
  iterate 7
    split
    case isTrue => exact seen_of_mem_escaped (by decide)
  split
  case isTrue =>
    exact List.forall_mem_append.2 ⟨seen_of_mem_escaped (by decide), seen_of_mem_padded⟩
  case isFalse seen => exact List.forall_mem_singleton.2 (Nat.le_of_not_lt seen)

theorem seen_of_mem_literal (text : String) : ∀ c ∈ literal text, 0x20 ≤ c.toNat := by
  rw [literal, List.forall_mem_append, List.forall_mem_cons, List.forall_mem_flatMap,
    List.forall_mem_singleton]
  exact ⟨⟨by decide, fun c _ => seen_of_mem_escapeChar c⟩, by decide⟩

/-- Nothing that is printed ends a line or is another control below U+0020. -/
theorem seen_of_mem_print (json : Json) : ∀ c ∈ print json, 0x20 ≤ c.toNat := by
  induction json with
  | string text => exact seen_of_mem_literal text
  | array elements ih =>
      rw [print_array, List.forall_mem_append, List.forall_mem_cons, List.forall_mem_singleton]
      exact ⟨⟨by decide, forall_mem_joined (by decide) ih⟩, by decide⟩
  | object members ih =>
      have inside : ∀ member ∈ members, ∀ c ∈ printMember member, 0x20 ≤ c.toNat := by
        intro member among
        rw [printMember, List.forall_mem_append, List.forall_mem_cons]
        exact ⟨seen_of_mem_literal member.1, by decide, ih member among⟩
      rw [print_object, List.forall_mem_append, List.forall_mem_cons, List.forall_mem_singleton]
      exact ⟨⟨by decide, forall_mem_joined (by decide) inside⟩, by decide⟩

end DeviceFlags.Json
