import TaskFabric.Digest.Wire
import TaskFabric.Message

/-! The wire form of statuses and messages. The view of a message is spread out in it. -/

namespace TaskFabric

namespace StatusCode

/-- The name of a code. -/
def name : StatusCode → String
  | .ok => "ok"
  | .clusterMismatch => "cluster_mismatch"
  | .collaboratorMismatch => "collaborator_mismatch"
  | .unknownMessageType => "unknown_msg_type"

/-- The code of a name. -/
def ofName? (name : String) : Option StatusCode :=
  if name = "ok" then some .ok
  else if name = "cluster_mismatch" then some .clusterMismatch
  else if name = "collaborator_mismatch" then some .collaboratorMismatch
  else if name = "unknown_msg_type" then some .unknownMessageType
  else none

/-- The code of a document: its name, or an object whose only member has the name and no content. -/
def ofJson? : Json → Option StatusCode
  | .str name => ofName? name
  | .obj [(name, .null)] => ofName? name
  | _ => none

end StatusCode

namespace Status

/-- The names of the fields of a status, in order of declaration. -/
def fieldNames : List String := ["code", "detail"]

/-- The document of a status, without a detail that is empty. -/
def toJson (s : Status) : Json :=
  .obj
    (("code", .str s.code.name)
      :: (if s.detail.isEmpty then [] else [("detail", .str s.detail)]))

/-- The status of a document. -/
def ofJson? (doc : Json) : Option Status :=
  match doc.fields? fieldNames with
  | some [code, detail] => do
      return {
        code := ← Json.required StatusCode.ofJson? code,
        detail := ← Json.optional "" Json.text? detail }
  | _ => none

end Status

namespace Message

/-- The names of the fields that a message has besides those of its view. -/
def fieldNames : List String := ["cluster", "from", "to", "status", "type"]

/-- The document of a message. -/
def toJson (m : Message) : Json :=
  .obj
    ([("cluster", .str m.cluster), ("from", m.sender.toJson), ("to", m.addressee.toJson)]
      ++ m.digest.members
      ++ [("status", m.status.toJson), ("type", .ofUInt8 m.type.code)])

/-- The message of a document. -/
def ofJson? (doc : Json) : Option Message :=
  match doc.flattenedFields? fieldNames Digest.fieldNames with
  | some [cluster, sender, addressee, status, type, cards, timestamp] => do
      return {
        cluster := ← Json.required Json.text? cluster,
        sender := ← Json.required Card.ofJson? sender,
        addressee := ← Json.required Card.ofJson? addressee,
        digest := ← Digest.ofFields? cards timestamp,
        status := ← Json.optional Status.ok Status.ofJson? status,
        type := MessageType.ofCode (← Json.required Json.uint8? type) }
  | _ => none

end Message

end TaskFabric
