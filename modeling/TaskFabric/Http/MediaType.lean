import TaskFabric.Text

/-! Media types of bodies: a type, a subtype, perhaps a suffix behind the last plus sign of the
subtype, and parameters, all without regard to case. Only their syntax is checked of parameters.
-/

namespace TaskFabric.Http

/-- A media type in lower case, without its parameters. -/
structure MediaType where
  type : List Char
  subtype : List Char
  suffix : Option (List Char)
deriving DecidableEq

namespace MediaType

/-- A character of a name: a letter, a digit, or one of fifteen marks. -/
def isToken (c : Char) : Bool :=
  c.isAlphanum
    || ['!', '#', '$', '%', '&', '\'', '*', '+', '-', '.', '^', '_', '\x60', '|', '~'].contains c

/-- A character of a value in quotation marks. -/
def isQuotable (c : Char) : Bool := 32 ≤ c.toNat && c.toNat < 127

/-- The text behind a value in quotation marks, given the text behind the first mark. The value is
not empty, so its first character may be a mark itself.
-/
def behindQuoted? : List Char → Option (List Char)
  | [] => none
  | first :: cs =>
      let value := cs.takeWhile (· != '"')
      match cs.dropWhile (· != '"') with
      | _ :: rest => if isQuotable first && value.all isQuotable then some rest else none
      | [] => none

/-- Whether a text consists of parameters, each a name, an equals sign and a value, with
semicolons between them.
-/
def validParameters : Nat → List Char → Bool
  | 0, _ => false
  | fuel + 1, cs =>
      match cs.dropWhile (· == ' ') with
      | [] => true
      | cs =>
          match cs.takeWhile isToken, cs.dropWhile isToken with
          | _ :: _, '=' :: '"' :: value =>
              match (behindQuoted? value).map fun rest => rest.dropWhile (· == ' ') with
              | some [] => true
              | some (';' :: rest) => validParameters fuel rest
              | _ => false
          | _ :: _, '=' :: value =>
              match value.takeWhile isToken, value.dropWhile isToken with
              | _, [] => true
              | _ :: _, ';' :: rest => validParameters fuel rest
              | _, _ => false
          | _, _ => false

/-- The media type of a text. -/
def parse? (text : String) : Option MediaType :=
  match Text.splitAtFirst? '/' (text.toList.map Char.toLower) with
  | none => none
  | some (type, behind) =>
      let name := behind.takeWhile isToken
      let valid :=
        !type.isEmpty && type.all isToken && !name.isEmpty
          && (match behind.dropWhile isToken with
              | [] => true
              | ';' :: parameters => validParameters (parameters.length + 1) parameters
              | _ => false)
      if valid then
        match Text.splitAtLast? '+' name with
        | some (subtype, suffix) =>
            if subtype.isEmpty then some ⟨type, name, none⟩ else some ⟨type, subtype, some suffix⟩
        | none => some ⟨type, name, none⟩
      else
        none

/-- Whether a media type stands for structured documents. -/
def isJson (m : MediaType) : Bool :=
  m.type == "application".toList
    && (m.subtype == "json".toList || m.suffix == some "json".toList)

end MediaType

end TaskFabric.Http
