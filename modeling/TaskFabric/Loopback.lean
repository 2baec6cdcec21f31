import TaskFabric.Node

/-! Nodes in one process. A call goes to the node that was registered last under the identity of the
card, if it is switched on. A message is handled at once; a batch runs on the scheduler of the peer
and is answered in time if none of its tasks keeps it waiting longer than the caller does.
-/

namespace TaskFabric

/-- The nodes of a process, and under which identities they are reached: the number of the node,
and whether it is switched on.
-/
structure Loopback where
  nodes : List Node
  directory : SortedMap String (Nat × Bool)
deriving Inhabited

namespace Loopback

/-- The network without nodes. -/
def empty : Loopback := ⟨[], ∅⟩

/-- The node of a number. -/
def node? (l : Loopback) (number : Nat) : Option Node := l.nodes[number]?

/-- Puts a node in the place of the one of a number. -/
def setNode (l : Loopback) (number : Nat) (node : Node) : Loopback :=
  { l with nodes := l.nodes.set number node }

/-- Makes the node of a number reachable under the identity of its own card. -/
def register (l : Loopback) (number : Nat) : Loopback :=
  match l.node? number with
  | some node =>
      { l with directory := l.directory.insert node.case.state.own.identity (number, true) }
  | none => l

/-- Switches the node of an identity on or off. -/
def setReachable (l : Loopback) (identity : String) (on : Bool) : Loopback :=
  match l.directory.get? identity with
  | some (number, _) => { l with directory := l.directory.insert identity (number, on) }
  | none => l

/-- The node that a card leads to. -/
def route (l : Loopback) (peer : Card) : Except ClusterError (Nat × Node) :=
  match l.directory.get? peer.identity with
  | some (number, true) =>
      match l.node? number with
      | some node => .ok (number, node)
      | none => .error (.connection s!"{peer.identity}: connection refused")
  | some (_, false) => .error (.connection s!"{peer.identity}: unreachable")
  | none => .error (.connection s!"{peer.identity}: connection refused")

/-- Hands a message over to the node of a card. -/
def exchange (peer : Card) (m : Message) (disk : Disk) (l : Loopback)
    : Answer (Option Message) × Disk × Loopback :=
  match l.route peer with
  | .error e => (.failure e, disk, l)
  | .ok (number, node) =>
      let (reply, case, disk) := node.case.exchange m disk
      (.reply reply, disk, l.setNode number { node with case })

/-- Runs a batch on the node of a card. -/
def distribute (limit : Duration) (peer : Card) (tasks : Batch) (l : Loopback)
    : Answer Batch × Loopback :=
  match l.route peer with
  | .error e => (.failure e, l)
  | .ok (number, node) =>
      let (result, scheduler) := node.scheduler.runBatch tasks
      let l' := l.setNode number { node with scheduler }
      match result with
      | some batch =>
          if limit.toNanos < node.scheduler.batchDelay tasks then (.silence, l')
          else (.reply batch, l')
      | none => (.failure (.connection s!"{peer.identity}: connection refused"), l')

/-- Calls within the process. -/
def transport : Transport Loopback := ⟨exchange, distribute⟩

/-- Applies an operation of a node in its surroundings to the node of a number. -/
def onNode {α : Type} (number : Nat) (operation : Host Loopback → α × Host Loopback) (disk : Disk)
    (l : Loopback)
    : Option (α × Disk × Loopback) :=
  (l.node? number).map fun node =>
    let (result, host) := operation ⟨node, disk, l⟩
    (result, host.disk, host.network.setNode number host.node)

end Loopback

end TaskFabric
