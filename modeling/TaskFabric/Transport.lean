import TaskFabric.Case
import TaskFabric.Task

/-! How a node reaches its peers. A call ends with a reply, with a failure, or not at all before its
deadline. The state of the network is whatever a transport needs to remember; peers that live in the
same process also write to the same disk.
-/

namespace TaskFabric

/-- What comes of a call to a peer. -/
inductive Answer (α : Type) where
  | reply (value : α)
  | failure (cause : ClusterError)
  | silence

instance {α : Type} : Inhabited (Answer α) := ⟨.silence⟩

/-- The calls that a node makes to a peer: to hand over a message of a gossip round, and to have a
batch run on the scheduler of the peer within a span of time.
-/
structure Transport (σ : Type) where
  exchange : Card → Message → Disk → σ → Answer (Option Message) × Disk × σ
  distribute : Duration → Card → Batch → σ → Answer Batch × σ

end TaskFabric
