import TaskFabric.ClusterError
import TaskFabric.Digest

/-! Gossip messages. A round has four: the first is answered by the second, the second by the third,
and the third by the fourth, which ends it. Each carries the view of its sender and a status; a
refusal travels as the status of the reply and becomes an error again with `Message.checkStatus`.
-/

namespace TaskFabric

/-- The step of a round that a message takes. A code that stands for no step is kept. -/
inductive MessageType where
  | sync
  | ack
  | ack2
  | ack3
  | unknown (code : UInt8) (no_step : 3 < code)
deriving DecidableEq

namespace MessageType

/-- The type of a code. -/
def ofCode (code : UInt8) : MessageType :=
  if code = 0 then .sync
  else if code = 1 then .ack
  else if code = 2 then .ack2
  else if code = 3 then .ack3
  else if h : 3 < code then .unknown code h
  else .sync

/-- The code of a type. -/
def code : MessageType → UInt8
  | .sync => 0
  | .ack => 1
  | .ack2 => 2
  | .ack3 => 3
  | .unknown code _ => code

/-- The name of a type, with its code if it stands for no step. -/
def name : MessageType → String
  | .sync => "Sync"
  | .ack => "Ack"
  | .ack2 => "Ack2"
  | .ack3 => "Ack3"
  | .unknown code _ => s!"Unknown({code})"

/-- The type of the answer, unless the round ends here. -/
def reply? : MessageType → Option MessageType
  | .sync => some .ack
  | .ack => some .ack2
  | .ack2 => some .ack3
  | .ack3 | .unknown _ _ => none

/-- Whether the receiver may adopt the view of a message of this type. -/
def merges : MessageType → Bool
  | .sync | .ack => true
  | _ => false

end MessageType

/-- The outcome that a message reports. -/
inductive StatusCode where
  | ok
  | clusterMismatch
  | collaboratorMismatch
  | unknownMessageType
deriving DecidableEq, Inhabited

/-- An outcome and its wording. -/
structure Status where
  code : StatusCode
  detail : String
deriving DecidableEq, Inhabited

namespace Status

/-- The outcome of a message that refuses nothing. -/
def ok : Status := ⟨.ok, ""⟩

/-- Whether nothing is refused. -/
def isOk (s : Status) : Bool := s.code == .ok

/-- The status that reports a failure. -/
def ofError (e : ClusterError) : Status :=
  let code : StatusCode :=
    match e with
    | .clusterMismatch _ _ => .clusterMismatch
    | .collaboratorMismatch _ => .collaboratorMismatch
    | _ => .unknownMessageType
  ⟨code, e.message⟩

end Status

/-- A message of a round: the cluster it belongs to, its two ends, and the view of the sender. -/
structure Message where
  cluster : String
  sender : Card
  addressee : Card
  digest : Digest
  status : Status
  type : MessageType
deriving DecidableEq

namespace Message

/-- The failure that a message reports, if it reports one. -/
def checkStatus (m : Message) : Except ClusterError Unit :=
  match m.status.code with
  | .ok => .ok ()
  | .clusterMismatch => .error (.clusterMismatch m.cluster m.status.detail)
  | .collaboratorMismatch => .error (.collaboratorMismatch m.status.detail)
  | .unknownMessageType => .error (.unknownMessageType m.type.code)

end Message

end TaskFabric
