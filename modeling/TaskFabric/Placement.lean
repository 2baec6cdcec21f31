import TaskFabric.Case
import TaskFabric.Task

/-! Where the tasks of a batch run. The owner of an index is the peer at that place of the view,
counted in key order and round again behind the last. A task stays at the node if its owner is the
node itself or is not alive, and a task that names no handler runs nowhere.
-/

namespace TaskFabric

/-- Where a task runs: at this node, at a peer, or nowhere. -/
inductive Placement where
  | here
  | peer (card : Card)
  | nowhere
deriving DecidableEq

namespace Placement

/-- The owner of an index. -/
def owner? (peers : List Card) (index : UInt64) : Option Card :=
  peers[index.toNat % peers.length]?

/-- The place of a task. Without any peer it stays at the node. -/
def place (c : Case) (peers : List Card) (index : UInt64) (task : Task) : Placement :=
  if task.consumable.isEmpty then
    .nowhere
  else
    match owner? peers index with
    | none => .here
    | some owner => if !owner.alive || c.isLocal owner then .here else .peer owner

end Placement

end TaskFabric
