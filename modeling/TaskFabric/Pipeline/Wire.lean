import TaskFabric.Json.Record
import TaskFabric.Pipeline

/-! The wire form of stages and pipelines. -/

namespace TaskFabric

namespace Stage

/-- The names of the fields of a stage, in order of declaration. -/
def fieldNames : List String := ["name", "consumable", "priority", "type"]

/-- The document of a stage. -/
def toJson (s : Stage) : Json :=
  .obj
    [("name", .str s.name),
      ("consumable", .str s.consumable),
      ("priority", .ofUInt8 s.priority.level),
      ("type", .ofUInt8 s.type.level)]

/-- The stage of a document. -/
def ofJson? (doc : Json) : Option Stage :=
  match doc.fields? fieldNames with
  | some [name, consumable, priority, type] => do
      return {
        name := ← Json.required Json.text? name,
        consumable := ← Json.required Json.text? consumable,
        priority := Priority.ofLevel (← Json.optional 0 Json.uint8? priority),
        type := TaskType.ofLevel (← Json.optional 0 Json.uint8? type) }
  | _ => none

end Stage

namespace Pipeline

/-- The document of a pipeline. -/
def toJson (p : Pipeline) : Json := .obj [("stages", .arr (p.stages.map Stage.toJson))]

/-- The pipeline of a document. -/
def ofJson? (doc : Json) : Option Pipeline :=
  match doc.fields? ["stages"] with
  | some [stages] => do return ⟨← Json.required (Json.list? Stage.ofJson?) stages⟩
  | _ => none

end Pipeline

end TaskFabric
