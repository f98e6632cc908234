import DeviceFlags.Blueprint
import DeviceFlags.Proofs.Toml.Lines

/-!
# Reading the build language

The part of the build language that reports are written in.  A text is a row of
comments and modules.  A comment ends with its line.  A module is a type with
properties between braces, and a property is a string or a list of strings.  A
string ends at the first double quote that no backslash protects; a backslash
protects a double quote or another backslash, and nothing else.
-/

namespace DeviceFlags.Blueprint

open Toml (Reader)

/-! ## Words of a text -/

/-- A character with a meaning of its own. -/
inductive Mark where
  | openBrace
  | closeBrace
  | openBracket
  | closeBracket
  | colon
  | comma
  deriving DecidableEq, Repr

/-- What a text is made of, apart from blanks. -/
inductive Token where
  | comment (text : String)
  | word (text : String)
  | string (value : String)
  | mark (mark : Mark)
  deriving DecidableEq, Repr

/-- The mark that a character is. -/
def mark? (c : Char) : Option Mark :=
  if c = '\x7b' then some .openBrace
  else if c = '\x7d' then some .closeBrace
  else if c = '[' then some .openBracket
  else if c = ']' then some .closeBracket
  else if c = ':' then some .colon
  else if c = ',' then some .comma
  else none

/-- Whether a character may stand in the name of a type or a property. -/
def isWordChar (c : Char) : Bool :=
  c.isAlphanum || c == '_'

/-- A string behind its opening quote, up to and with the closing one. -/
def literal : Reader (List Char)
  | [] => none
  | '"' :: rest => some ([], rest)
  | ['\\'] => none
  | '\\' :: c :: rest =>
      if c = '\\' ∨ c = '"' then (literal rest).map fun (value, rest) => (c :: value, rest)
      else none
  | c :: rest => (literal rest).map fun (value, rest) => (c :: value, rest)

/-- A comment behind its first slash, up to the line feed. -/
def comment : Reader String
  | '/' :: rest =>
      some (String.ofList (rest.takeWhile (· ≠ '\n')), rest.dropWhile (· ≠ '\n'))
  | _ => none

/-- A token, or nothing for a blank. -/
def token : Reader (Option Token)
  | [] => none
  | c :: rest =>
      if c.isWhitespace then some (none, rest)
      else if isWordChar c then
        some (some (.word (String.ofList (c :: rest.takeWhile isWordChar))),
          rest.dropWhile isWordChar)
      else if c = '"' then literal.map (fun value => some (.string (String.ofList value))) rest
      else if c = '/' then comment.map (fun text => some (.comment text)) rest
      else (mark? c).map fun mark => (some (.mark mark), rest)

/-- The tokens of a text. -/
def tokens? (text : List Char) : Option (List Token) :=
  (Reader.all? token text).map (·.filterMap id)

/-! ## Comments and modules -/

/-- What a property can be. -/
inductive Value where
  | text (value : String)
  | texts (values : List String)
  deriving DecidableEq, Repr

/-- A comment, or a module with its properties in their order. -/
inductive Item where
  | comment (text : String)
  | block (type : String) (properties : List (String × Value))
  deriving DecidableEq, Repr

/-- How far the module has been read that the next token belongs to. -/
inductive Place where
  /-- Not in a module. -/
  | outside
  /-- Between two properties. -/
  | inside (type : String) (properties : List (String × Value))
  /-- In the list of a property. -/
  | within (type : String) (properties : List (String × Value)) (name : String)
      (values : List String)

/-- The comments and modules that some tokens form, from a place on. -/
def items? : Place → List Token → Option (List Item)
  | .outside, [] => some []
  | .outside, .comment text :: rest => (items? .outside rest).map (.comment text :: ·)
  | .outside, .word type :: .mark .openBrace :: rest => items? (.inside type []) rest
  | .inside type properties, .mark .closeBrace :: rest =>
      (items? .outside rest).map (.block type properties :: ·)
  | .inside type properties,
      .word name :: .mark .colon :: .string value :: .mark .comma :: rest =>
      items? (.inside type (properties ++ [(name, .text value)])) rest
  | .inside type properties, .word name :: .mark .colon :: .mark .openBracket :: rest =>
      items? (.within type properties name []) rest
  | .within type properties name values, .string value :: .mark .comma :: rest =>
      items? (.within type properties name (values ++ [value])) rest
  | .within type properties name values, .mark .closeBracket :: .mark .comma :: rest =>
      items? (.inside type (properties ++ [(name, .texts values)])) rest
  | _, _ => none

/-- The comments and modules of a text. -/
def read? (text : List Char) : Option (List Item) :=
  (tokens? text).bind (items? .outside)

/-! ## Strings -/

theorem escape_cons (c : Char) (text : List Char) :
    escape (c :: text) = escapeChar c ++ escape text :=
  List.flatMap_cons

theorem escapeChar_of_protected {c : Char} (named : c = '\\' ∨ c = '"') :
    escapeChar c = ['\\', c] := by
  rcases named with rfl | rfl <;> rfl

theorem escapeChar_of_ne {c : Char} (ne_quote : c ≠ '"') (ne_backslash : c ≠ '\\') :
    escapeChar c = [c] := by
  rw [escapeChar, if_neg ne_backslash, if_neg ne_quote]

theorem literal_cons_of_ne {c : Char} (ne_quote : c ≠ '"') (ne_backslash : c ≠ '\\')
    (text : List Char) :
    literal (c :: text) = (literal text).map fun (value, rest) => (c :: value, rest) := by
  rw [literal]
  · exact ne_quote
  · intro backslash _
    exact ne_backslash backslash
  · intro _ _ backslash _
    exact ne_backslash backslash

theorem literal_escape (value rest : List Char) :
    literal (escape value ++ '"' :: rest) = some (value, rest) := by
  induction value with
  | nil => rfl
  | cons c value ih =>
      rw [escape_cons, List.append_assoc]
      by_cases named : c = '\\' ∨ c = '"'
      · rw [escapeChar_of_protected named, List.cons_append, List.singleton_append, literal,
          if_pos named, ih]
        rfl
      · rw [not_or] at named
        rw [escapeChar_of_ne named.2 named.1, List.singleton_append,
          literal_cons_of_ne named.2 named.1, ih]
        rfl

theorem eq_escape_of_literal {text value rest : List Char}
    (reads : literal text = some (value, rest)) : text = escape value ++ '"' :: rest := by
  fun_induction literal text generalizing value with
  | case1 => cases reads
  | case2 => cases reads; rfl
  | case3 => cases reads
  | case4 c tail named ih =>
      rcases Option.map_eq_some_iff.1 reads with ⟨⟨inner, _⟩, read, same⟩
      cases same
      rw [ih read, escape_cons, escapeChar_of_protected named]
      rfl
  | case5 => cases reads
  | case6 c tail ne_quote alone behind ih =>
      have ne_backslash : c ≠ '\\' := by
        intro backslash
        cases tail with
        | nil => exact alone backslash rfl
        | cons d tail => exact behind d tail backslash rfl
      rcases Option.map_eq_some_iff.1 reads with ⟨⟨inner, _⟩, read, same⟩
      cases same
      rw [ih read, escape_cons, escapeChar_of_ne ne_quote ne_backslash]
      rfl

/-- Reading a string undoes escaping, and escaping is the only way to write it. -/
theorem literal_eq_some_iff {text value rest : List Char} :
    literal text = some (value, rest) ↔ text = escape value ++ '"' :: rest := by
  constructor
  · exact eq_escape_of_literal
  · rintro rfl
    exact literal_escape value rest

theorem ne_backslashes_append_escape (text first second : List Char) (count : Nat) :
    text ++ '"' :: first ≠ List.replicate (count + 1) '\\' ++ (escape text ++ second) := by
  induction text generalizing count with
  | nil =>
      intro equal
      cases (List.cons.inj equal).1
  | cons c text ih =>
      intro equal
      rw [List.replicate_succ, List.cons_append, List.cons_append] at equal
      rcases List.cons.inj equal with ⟨rfl, equal⟩
      apply ih (count + 1)
      rw [equal, escape_cons, escapeChar_of_protected (.inl rfl), List.replicate_succ',
        List.replicate_succ']
      simp only [List.append_assoc, List.cons_append, List.nil_append]

/-- A text that stands between quotes as it is, and yet is read as itself, holds
nothing to protect. -/
theorem notMem_of_append_quote_eq {text first second : List Char}
    (same : text ++ '"' :: first = escape text ++ '"' :: second) :
    '"' ∉ text ∧ '\\' ∉ text := by
  induction text with
  | nil => exact ⟨List.not_mem_nil, List.not_mem_nil⟩
  | cons c text ih =>
      rw [escape_cons] at same
      by_cases named : c = '\\' ∨ c = '"'
      · rw [escapeChar_of_protected named] at same
        rcases List.cons.inj same with ⟨rfl, same⟩
        exact absurd same (ne_backslashes_append_escape text first _ 0)
      · rw [not_or] at named
        rw [escapeChar_of_ne named.2 named.1] at same
        have rest := ih (List.cons.inj same).2
        simp [Ne.symm named.1, Ne.symm named.2, rest]

theorem escape_eq_self {text : List Char} (noQuote : '"' ∉ text) (noBackslash : '\\' ∉ text) :
    escape text = text := by
  induction text with
  | nil => rfl
  | cons c text ih =>
      rw [List.mem_cons, not_or] at noQuote noBackslash
      rw [escape_cons, escapeChar_of_ne (Ne.symm noQuote.1) (Ne.symm noBackslash.1),
        ih noQuote.2 noBackslash.2]
      rfl

end DeviceFlags.Blueprint
