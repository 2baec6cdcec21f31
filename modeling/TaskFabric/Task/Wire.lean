import TaskFabric.Json.Parser
import TaskFabric.Json.Record
import TaskFabric.Task
import TaskFabric.Decimal

/-! The wire form of tasks and of batches. Every field of a task may be absent. A batch is an object
whose keys are indices in decimal notation without sign and leading zeros, and in a text they are
not escaped either.
-/

namespace TaskFabric

namespace Task

/-- The names of the fields of a task, in order of declaration. -/
def fieldNames : List String :=
  ["type", "priority", "consumable", "source", "result", "context", "stage"]

/-- The document of a list of payloads. -/
def payloadsToJson (values : List Value) : Json := .arr (values.map (·.doc))

/-- The document of a task. -/
def toJson (t : Task) : Json :=
  .obj
    [("type", .ofUInt8 t.type.level),
      ("priority", .ofUInt8 t.priority.level),
      ("consumable", .str t.consumable),
      ("source", payloadsToJson t.source),
      ("result", payloadsToJson t.result),
      ("context", Json.ofMap id Value.doc t.context),
      ("stage", .ofUInt64 t.stage)]

/-- The task of a document. -/
def ofJson? (doc : Json) : Option Task :=
  match doc.fields? fieldNames with
  | some [type, priority, consumable, source, result, context, stage] => do
      return {
        type := TaskType.ofLevel (← Json.optional 0 Json.uint8? type),
        priority := Priority.ofLevel (← Json.optional 0 Json.uint8? priority),
        consumable := ← Json.optional "" Json.text? consumable,
        source := ← Json.optional [] (Json.list? Value.ofJson?) source,
        result := ← Json.optional [] (Json.list? Value.ofJson?) result,
        context := ← Json.optional ∅ (Json.map? some Value.ofJson?) context,
        stage := ← Json.optional 0 Json.uint64? stage }
  | _ => none

end Task

namespace Batch

/-- An index as a key. -/
def keyOf (index : UInt64) : String := String.ofList (Nat.toDigits 10 index.toNat)

/-- The index of a key. Only the notation that `keyOf` writes is accepted. -/
def index? (key : String) : Option UInt64 :=
  match Decimal.natural? key.toList with
  | some n => if n < UInt64.size ∧ keyOf n.toUInt64 = key then some n.toUInt64 else none
  | none => none

/-- The document of a batch. -/
def toJson (batch : Batch) : Json := Json.ofMap keyOf Task.toJson batch

/-- The batch of a document. -/
def ofJson? (doc : Json) : Option Batch := doc.map? index? Task.ofJson?

/-- The batch of a text. An index is written digit by digit; no escape stands for a digit. -/
def ofText? (text : String) : Option Batch :=
  if Json.hasVerbatimKeys text then (Json.parse? text).bind ofJson? else none

end Batch

end TaskFabric
