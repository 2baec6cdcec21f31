import TaskFabric.Text

/-! Patterns of paths. A name in braces is a placeholder: it stands for the rest of a segment, which
may be empty. A doubled brace stands for one brace. A placeholder ends its segment, so a path
matches a pattern in at most one way.
-/

namespace TaskFabric.Http

/-- A part of a pattern: a character that a path has to have, or a placeholder. -/
inductive Pattern.Part where
  | literal (c : Char)
  | placeholder
deriving DecidableEq

/-- What the paths that a node serves start with. -/
structure Pattern where
  parts : List Pattern.Part
deriving DecidableEq

namespace Pattern

/-- A character of a text, and whether it is a brace that was doubled. -/
structure Mark where
  char : Char
  doubled : Bool
deriving DecidableEq

/-- The marks of a text. Braces are paired from the left. -/
def marks : List Char → List Mark
  | '{' :: '{' :: rest => ⟨'{', true⟩ :: marks rest
  | '}' :: '}' :: rest => ⟨'}', true⟩ :: marks rest
  | c :: rest => ⟨c, false⟩ :: marks rest
  | [] => []

/-- Whether a mark opens a placeholder. -/
def Mark.opens (m : Mark) : Bool := m.char == '{' && !m.doubled

/-- Whether a mark closes a placeholder. -/
def Mark.closes (m : Mark) : Bool := m.char == '}' && !m.doubled

/-- Where a mark stands: outside of placeholders, at the first place of a name, further inside, or
right behind a placeholder.
-/
inductive Place where
  | outside
  | opened
  | inside
  | closed

/-- The parts of marks. A name has a first character, which is no brace that closes and no star;
stars and slashes do not follow either. Behind a placeholder its segment ends.
-/
def parts? : Place → List Mark → Option (List Part)
  | .outside, [] => some []
  | .closed, [] => some []
  | _, [] => none
  | .outside, m :: rest =>
      if m.opens then parts? .opened rest
      else if m.closes then none
      else (parts? .outside rest).map (.literal m.char :: ·)
  | .opened, m :: rest =>
      if m.char == '}' || m.char == '*' then none else parts? .inside rest
  | .inside, m :: rest =>
      if m.closes then (parts? .closed rest).map (.placeholder :: ·)
      else if m.char == '*' || m.char == '/' then none
      else parts? .inside rest
  | .closed, m :: rest =>
      if m.char == '/' then (parts? .outside rest).map (.literal '/' :: ·) else none

/-- The number of placeholders that is too great. -/
def placeholderLimit : Nat := 26

/-- Whether a segment starts with one of two characters that are reserved. -/
def isReserved (segment : List Char) : Bool :=
  segment.head?.any fun c => c == ':' || c == '*'

/-- The pattern of a text. -/
def parse? (text : String) : Option Pattern := do
  let parts ← parts? .outside (marks text.toList)
  if (Text.splitAt '/' text.toList).any isReserved || placeholderLimit ≤ parts.count .placeholder
  then none
  else return ⟨parts⟩

/-- The rest of a text behind the parts of a pattern. A placeholder takes all up to the next slash,
which has to come.
-/
def behindParts? : List Part → List Char → Option (List Char)
  | [], cs => some cs
  | .literal c :: parts, c' :: cs => if c = c' then behindParts? parts cs else none
  | .literal _ :: _, [] => none
  | .placeholder :: parts, cs =>
      match cs.dropWhile (· != '/') with
      | [] => none
      | rest => behindParts? parts rest

/-- The rest of a path behind a pattern that it starts with. -/
def behind? (p : Pattern) (path : String) : Option (List Char) := behindParts? p.parts path.toList

end Pattern

end TaskFabric.Http
