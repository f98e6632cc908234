/-!
# Paths

A path is a text of segments with slashes between them.  It is kept as it was
written, since reports show it so.  Only two operations look inside: joining a
name, and going up to the enclosing directory.
-/

namespace DeviceFlags

/-- A path as it was written. -/
structure Path where
  text : String
  deriving DecidableEq, Repr

namespace Path

/-- The segments between the slashes of a text, at least one. -/
def split : List Char → List (List Char)
  | [] => [[]]
  | c :: rest =>
      match split rest with
      | [] => [[c]]
      | segment :: others =>
          if c = '/' then [] :: segment :: others else (c :: segment) :: others

/-- Segments with slashes between them. -/
def unsplit : List (List Char) → List Char
  | [] => []
  | [segment] => segment
  | segment :: next :: rest => segment ++ '/' :: unsplit (next :: rest)

/-- The path of an entry of the directory that a path names. -/
def join (directory : Path) (name : String) : Path :=
  match directory.text.toList.getLast? with
  | none => ⟨name⟩
  | some last => if last = '/' then ⟨directory.text ++ name⟩ else ⟨directory.text ++ "/" ++ name⟩

/-- Whether a segment leads nowhere: it is empty or a single point. -/
def isIdle (segment : List Char) : Bool :=
  segment == [] || segment == ['.']

/-- The ways to the directories above, for segments in reverse order: each has
one segment less that leads somewhere, and none at its end that does not. -/
def above : List (List Char) → List (List (List Char))
  | [] => []
  | segment :: rest =>
      if isIdle segment then above rest else rest.dropWhile isIdle :: above rest

/-- The texts of the directories above for the text of a path without a slash
or a single point in front. -/
def parentTexts (text : List Char) : List (List Char) :=
  (above (split text).reverse).map fun segments => unsplit segments.reverse

/-- The directories above a path, from the nearest on.  The chain of an
absolute path ends at the root, that of a relative one at the empty path. -/
def parents (path : Path) : List Path :=
  let texts :=
    match path.text.toList with
    | '/' :: body => (parentTexts body).map ('/' :: ·)
    | ['.'] => [[]]
    | '.' :: '/' :: body =>
        (parentTexts body).map (fun text => if text = [] then ['.'] else '.' :: '/' :: text) ++ [[]]
    | body => parentTexts body
  texts.map fun text => ⟨String.ofList text⟩

/-- A path and the directories above it. -/
def upward (path : Path) : List Path :=
  path :: path.parents

end Path

end DeviceFlags
