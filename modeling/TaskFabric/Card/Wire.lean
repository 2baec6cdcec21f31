import TaskFabric.Card
import TaskFabric.Json.Record

/-! The wire form of cards: an empty route is left out, and an absent one is empty. -/

namespace TaskFabric.Card

/-- The names of the fields of a card, in order of declaration. -/
def fieldNames : List String := ["ip", "port", "alive", "api", "seed"]

/-- The document of a card. -/
def toJson (c : Card) : Json :=
  .obj
    ([("ip", .str c.ip), ("port", .ofUInt16 c.port), ("alive", .bool c.alive)]
      ++ (if c.api.isEmpty then [] else [("api", .str c.api)])
      ++ [("seed", .bool c.seed)])

/-- The card of a document. -/
def ofJson? (doc : Json) : Option Card :=
  match doc.fields? fieldNames with
  | some [ip, port, alive, api, seed] => do
      return {
        ip := ← Json.required Json.text? ip,
        port := ← Json.required Json.uint16? port,
        alive := ← Json.required Json.bool? alive,
        api := ← Json.optional "" Json.text? api,
        seed := ← Json.optional false Json.bool? seed }
  | _ => none

end TaskFabric.Card
