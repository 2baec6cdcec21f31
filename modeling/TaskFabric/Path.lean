import TaskFabric.Text

/-! Paths of files, as text. A path is a sequence of names between slashes; empty names say nothing,
a single dot stays in a directory, two dots lead to its parent. The sibling of a file with another
extension keeps the name up to its last dot, unless that dot is the first character.
-/

namespace TaskFabric

/-- A path, as it was written. -/
structure Path where
  text : String
deriving DecidableEq, Inhabited

namespace Path

/-- Whether a path starts at the root. -/
def isAbsolute (p : Path) : Bool := p.text.toList.head? == some '/'

/-- The names on the way. -/
def names (p : Path) : List String :=
  ((Text.splitAt '/' p.text.toList).map String.ofList).filter (· != "")

/-- Whether a name is no name of an entry but one or two dots. -/
def isDots (name : String) : Bool := name == "." || name == ".."

/-- Whether a path does not end with the name of an entry: it is the root, or it ends with dots. -/
def endsWithDots (p : Path) : Bool := p.names.getLast?.all isDots

/-- Whether a path ends with a slash, as only that of a directory may. -/
def endsWithSlash (p : Path) : Bool := p.text.toList.getLast? == some '/'

/-- A name up to its last dot, and what follows that dot, unless the dot is the first character of
the name.
-/
def splitExtension (name : List Char) : List Char × List Char :=
  match Text.splitAtLast? '.' name with
  | some ([], _) => (name, [])
  | some (before, behind) => (before, behind)
  | none => (name, [])

/-- The part of a text up to its last name, and that name, leaving out what says nothing at the
end.
-/
def splitName (cs : List Char) : List Char × List Char :=
  let trimmed := trim cs.length cs.reverse
  ((trimmed.dropWhile (· != '/')).reverse, (trimmed.takeWhile (· != '/')).reverse)
where
  /-- The reversed text without slashes, and dots behind slashes, at its front. -/
  trim : Nat → List Char → List Char
    | 0, cs => cs
    | fuel + 1, cs =>
        match cs with
        | '/' :: rest => trim fuel rest
        | '.' :: '/' :: rest => trim fuel ('/' :: rest)
        | cs => cs

/-- A path with an extension at its last name, in the place of the one that is there. A path that
does not end with the name of an entry stays as it is.
-/
def setExtension (cs extension : List Char) : List Char :=
  let (before, name) := splitName cs
  if name = [] ∨ name = ['.'] ∨ name = ['.', '.'] then cs
  else before ++ (splitExtension name).1 ++ '.' :: extension

/-- The sibling of a file with another extension. The old extension is cut off the end before the
new one is set, so a name of two dots and an extension loses its extension and gets none.
-/
def withExtension (p : Path) (extension : String) : Path :=
  let cs := p.text.toList
  let old := (splitExtension (splitName cs).2).2
  ⟨String.ofList (setExtension (cs.take (cs.length - old.length)) extension.toList)⟩

/-- The path of a name inside a directory. A name that starts at the root stays as it is. -/
def join (p : Path) (name : String) : Path :=
  if name.toList.head? = some '/' then ⟨name⟩
  else if p.text.toList.getLast? = some '/' then ⟨p.text ++ name⟩
  else ⟨p.text ++ "/" ++ name⟩

end Path

end TaskFabric
