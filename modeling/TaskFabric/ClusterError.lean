import TaskFabric.Scheduler.Error

/-! Why membership, gossip, persistence or dispatch fail. -/

namespace TaskFabric

/-- A failure of the cluster layer. -/
inductive ClusterError where
  | noPeers
  | clusterMismatch (expected got : String)
  | collaboratorMismatch (addressee : String)
  | unknownMessageType (code : UInt8)
  | roundAborted
  | connection (detail : String)
  | persist (detail : String)
  | load (detail : String)
  | codec (detail : String)
  | scheduler (cause : SchedulerError)
deriving DecidableEq

namespace ClusterError

/-- The wording of a failure. -/
def message : ClusterError → String
  | .noPeers => "no peers in the membership view"
  | .clusterMismatch expected got => s!"cluster mismatch: expected {expected}, got {got}"
  | .collaboratorMismatch addressee => s!"message addressed to another collaborator: {addressee}"
  | .unknownMessageType code => s!"unknown message type: {code}"
  | .roundAborted => "exchange ended before the round completed"
  | .connection detail => s!"connection failure: {detail}"
  | .persist detail => s!"failed to persist case: {detail}"
  | .load detail => s!"failed to load case: {detail}"
  | .codec detail => s!"codec error: {detail}"
  | .scheduler cause => s!"scheduler error: {cause.message}"

/-- Whether the failure means that a peer could not be reached. -/
def isConnection : ClusterError → Bool
  | .connection _ => true
  | _ => false

end ClusterError

end TaskFabric
