import TaskFabric.Json
import TaskFabric.SortedMap

/-! Reading records and maps out of documents. A record is an object whose known members occur at
most once each, others being ignored, or an array of its fields in order of declaration. A record
with the fields of another one among its members has to be an object, and each of its members that
is not its own has to stand for a value.
-/

namespace TaskFabric.Json

/-- The member under a name, `some none` if there is none. A repeated member is refused. -/
def field? (name : String) (members : List (String × Json)) : Option (Option Json) :=
  match members.filter (·.1 == name) with
  | [] => some none
  | [member] => some (some member.2)
  | _ => none

/-- The fields of these names, in their order; a field is absent or has a document. -/
def fields? (names : List String) : Json → Option (List (Option Json))
  | .obj members => names.mapM (field? · members)
  | .arr items =>
      if items.length ≤ names.length then
        some (items.map some ++ List.replicate (names.length - items.length) none)
      else
        none
  | _ => none

/-- The fields of a record with its own names and with those of a record spread out in it. -/
def flattenedFields? (own spread : List String) : Json → Option (List (Option Json))
  | .obj members =>
      if members.all fun (key, value) => own.contains key || value.isReadable then
        (own ++ spread).mapM (field? · members)
      else
        none
  | _ => none

/-- Reads a field that has to be there. -/
def required {α : Type} (read? : Json → Option α) (field : Option Json) : Option α :=
  field.bind read?

/-- Reads a field that has a default. -/
def optional {α : Type} (default : α) (read? : Json → Option α) : Option Json → Option α
  | none => some default
  | some doc => read? doc

/-- Reads an array, item by item. -/
def list? {α : Type} (read? : Json → Option α) : Json → Option (List α)
  | .arr items => items.mapM read?
  | _ => none

/-- Reads an object as a map; of the members with one key the last one stays. -/
def map? {κ : Type} {α : Type} [Ord κ] [Std.TransOrd κ] [Std.LawfulEqOrd κ]
    (readKey? : String → Option κ) (read? : Json → Option α)
    : Json → Option (SortedMap κ α)
  | .obj members =>
      (members.mapM fun (key, value) =>
        (readKey? key).bind fun key => (read? value).map fun value => (key, value)).map
        SortedMap.ofList
  | _ => none

/-- The document of a map. -/
def ofMap {κ : Type} {α : Type} [Ord κ] (writeKey : κ → String) (write : α → Json)
    (m : SortedMap κ α)
    : Json :=
  .obj (m.toList.map fun (key, value) => (writeKey key, write value))

end TaskFabric.Json
