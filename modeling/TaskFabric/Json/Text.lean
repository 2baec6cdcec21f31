import TaskFabric.Json
import TaskFabric.Double.Text

/-! The text of a document: without any space on the wire, and with one member a line, two spaces a
level, in files. Both share the spelling of the leaves. In strings only quotation marks, backslashes
and characters below the space are escaped.
-/

namespace TaskFabric

/-- The text of a number. -/
def Number.chars : Number → List Char
  | .int (.ofNat n) _ => Nat.toDigits 10 n
  | .int (.negSucc n) _ => '-' :: Nat.toDigits 10 (n + 1)
  | .double value => value.text.toList

namespace Json

/-- The digit of a value below sixteen, in lower case. -/
def hexDigit (n : Nat) : Char := if n < 10 then Char.ofNat (48 + n) else Char.ofNat (87 + n)

/-- A character inside a string. -/
def escape (c : Char) : List Char :=
  if c = '"' then ['\\', '"']
  else if c = '\\' then ['\\', '\\']
  else if c = '\x08' then ['\\', 'b']
  else if c = '\x0c' then ['\\', 'f']
  else if c = '\n' then ['\\', 'n']
  else if c = '\r' then ['\\', 'r']
  else if c = '\t' then ['\\', 't']
  else if c.toNat < 32 then ['\\', 'u', '0', '0', hexDigit (c.toNat / 16), hexDigit (c.toNat % 16)]
  else [c]

/-- A string in quotation marks. -/
def quoted (s : String) : List Char := '"' :: s.toList.flatMap escape ++ ['"']

mutual

/-- The text of a document without spaces. -/
def chars : Json → List Char
  | .null => ['n', 'u', 'l', 'l']
  | .bool true => ['t', 'r', 'u', 'e']
  | .bool false => ['f', 'a', 'l', 's', 'e']
  | .num value => value.chars
  | .str value => quoted value
  | .arr [] => ['[', ']']
  | .arr (item :: rest) => '[' :: item.chars ++ itemsChars rest
  | .obj [] => ['{', '}']
  | .obj ((key, value) :: rest) => '{' :: quoted key ++ ':' :: value.chars ++ membersChars rest
  | .skipped => ['n', 'u', 'l', 'l']

/-- The items after the first one, and the end of their array. -/
def itemsChars : List Json → List Char
  | [] => [']']
  | item :: rest => ',' :: item.chars ++ itemsChars rest

/-- The members after the first one, and the end of their object. -/
def membersChars : List (String × Json) → List Char
  | [] => ['}']
  | (key, value) :: rest => ',' :: quoted key ++ ':' :: value.chars ++ membersChars rest

end

/-- The compact text of a document. -/
def compact (doc : Json) : String := String.ofList doc.chars

/-- A line break and the indentation of a level. -/
def lineBreak (level : Nat) : List Char := '\n' :: List.replicate (2 * level) ' '

mutual

/-- The text of a document inside `level` containers, one item or member a line. -/
def indentedChars (level : Nat) : Json → List Char
  | .arr (item :: rest) =>
      '[' :: lineBreak (level + 1) ++ item.indentedChars (level + 1)
        ++ indentedItems level rest
  | .obj ((key, value) :: rest) =>
      '{' :: lineBreak (level + 1) ++ quoted key ++ ':' :: ' ' :: value.indentedChars (level + 1)
        ++ indentedMembers level rest
  | leaf => leaf.chars

/-- The items after the first one, and the end of their array. -/
def indentedItems (level : Nat) : List Json → List Char
  | [] => lineBreak level ++ [']']
  | item :: rest =>
      ',' :: lineBreak (level + 1) ++ item.indentedChars (level + 1) ++ indentedItems level rest

/-- The members after the first one, and the end of their object. -/
def indentedMembers (level : Nat) : List (String × Json) → List Char
  | [] => lineBreak level ++ ['}']
  | (key, value) :: rest =>
      ',' :: lineBreak (level + 1) ++ quoted key ++ ':' :: ' ' :: value.indentedChars (level + 1)
        ++ indentedMembers level rest

end

/-- The indented text of a document, without a line break at its end. -/
def indented (doc : Json) : String := String.ofList (doc.indentedChars 0)

end Json

end TaskFabric
