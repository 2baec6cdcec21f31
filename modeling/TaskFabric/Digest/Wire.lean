import TaskFabric.Card.Wire
import TaskFabric.Digest

/-! The wire form of views. A view is also spread out in messages and case files. -/

namespace TaskFabric.Digest

/-- The names of the fields of a view, in order of declaration. -/
def fieldNames : List String := ["cards", "timestamp"]

/-- The members of the document of a view. -/
def members (d : Digest) : List (String × Json) :=
  [("cards", Json.ofMap id Card.toJson d.cards), ("timestamp", .ofUInt64 d.timestamp)]

/-- The document of a view. -/
def toJson (d : Digest) : Json := .obj d.members

/-- The view of the fields of its document. -/
def ofFields? (cards timestamp : Option Json) : Option Digest := do
  return {
    cards := ← Json.optional ∅ (Json.map? some Card.ofJson?) cards,
    timestamp := ← Json.optional 0 Json.uint64? timestamp }

/-- The view of a document. -/
def ofJson? (doc : Json) : Option Digest :=
  match doc.fields? fieldNames with
  | some [cards, timestamp] => ofFields? cards timestamp
  | _ => none

end TaskFabric.Digest
