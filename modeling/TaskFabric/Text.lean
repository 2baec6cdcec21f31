/-! Cutting texts at a mark: at its last occurrence, at every occurrence, and off the ends. -/

namespace TaskFabric.Text

/-- The parts of a text before and behind the last occurrence of a mark. -/
def splitAtLast? (mark : Char) : List Char → Option (List Char × List Char)
  | [] => none
  | c :: rest =>
      match splitAtLast? mark rest with
      | some (before, behind) => some (c :: before, behind)
      | none => if c = mark then some ([], rest) else none

/-- The parts of a text before and behind the first occurrence of a mark. -/
def splitAtFirst? (mark : Char) : List Char → Option (List Char × List Char)
  | [] => none
  | c :: rest =>
      if c = mark then some ([], rest)
      else (splitAtFirst? mark rest).map fun (before, behind) => (c :: before, behind)

/-- The parts of a text between the occurrences of a mark. -/
def splitAt (mark : Char) : List Char → List (List Char)
  | [] => [[]]
  | c :: rest =>
      if c = mark then
        [] :: splitAt mark rest
      else
        match splitAt mark rest with
        | part :: parts => (c :: part) :: parts
        | [] => [[c]]

/-- A text without the characters at its ends that satisfy a test. -/
def trim (drop : Char → Bool) (cs : List Char) : List Char :=
  ((cs.dropWhile drop).reverse.dropWhile drop).reverse

end TaskFabric.Text
