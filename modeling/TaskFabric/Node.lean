import TaskFabric.Catchup
import TaskFabric.Dispatch

/-! Nodes: a case, a scheduler, and the knobs and the counter of gossip. A node runs gossip and
reaping on two intervals until it is told to stop. Both are due at once when it starts; an interval
that was missed begins anew when its turn comes, and neither may be empty.
-/

namespace TaskFabric

/-- A node of the cluster. -/
structure Node where
  case : Case
  scheduler : Scheduler
  knobs : Knobs
  round : UInt64
deriving Inhabited

/-- A node with the disk and the network around it. -/
structure Host (σ : Type) where
  node : Node
  disk : Disk
  network : σ

namespace Host

variable {σ : Type}

/-- Applies an operation on the case and the disk. -/
def onCase {α : Type} (operation : Case → Disk → α × Case × Disk) (h : Host σ) : α × Host σ :=
  let (result, case, disk) := operation h.node.case h.disk
  (result, { h with node := { h.node with case }, disk })

/-- Applies an operation on the scheduler. -/
def onScheduler {α : Type} (operation : Scheduler → α × Scheduler) (h : Host σ) : α × Host σ :=
  let (result, scheduler) := operation h.node.scheduler
  (result, { h with node := { h.node with scheduler } })

/-- One catchup; answers also the nanoseconds that were spent waiting in vain. -/
def catchup (t : Transport σ) (clock : Int64) (h : Host σ) : CatchupReport × Nat × Host σ :=
  let site : Site σ := ⟨h.node.case, h.disk, h.network, 0⟩
  let (report, round, site) := site.catchup t h.node.knobs clock h.node.round
  (report, site.waited,
    ⟨{ h.node with case := site.case, round }, site.disk, site.network⟩)

/-- Removes the peers that are not alive. -/
def clean (clock : Int64) (h : Host σ) : Except ClusterError (List Card) × Host σ :=
  h.onCase fun case disk => case.clean clock disk

/-- Spreads a batch over the view. -/
def distribute (t : Transport σ) (tasks : Batch) (h : Host σ)
    : Except ClusterError Batch × Host σ :=
  let executor : Executor σ := ⟨h.node.scheduler, h.network⟩
  let (result, executor) := executor.distribute t h.node.knobs.remoteTimeout h.node.case tasks
  (result, { h with
    node := { h.node with scheduler := executor.scheduler }, network := executor.network })

/-- How late, in nanoseconds, a tick may be served without moving the ticks behind it. -/
def tolerance : Nat := 5000000

/-- The next tick of an interval whose tick was due and is served now. -/
def nextTick (due now period : Nat) : Nat :=
  if due + tolerance < now then now + period else due + period

/-- The ticks of both intervals up to a moment, given when they are due and what time it is. -/
def ticks (t : Transport σ) (clock : Int64) (stop : Nat)
    : Nat → Nat → Nat → Nat → Host σ → Host σ
  | 0, _, _, _, h => h
  | fuel + 1, now, syn, reap, h =>
      -- If both are due at once, gossip goes first.
      if syn ≤ reap then
        if max now syn < stop then
          let served := max now syn
          let (_, waited, h) := h.catchup t clock
          ticks t clock stop fuel (served + waited)
            (nextTick syn served h.node.knobs.synInterval.toNanos) reap h
        else
          h
      else if max now reap < stop then
        let served := max now reap
        let (_, h) := h.clean clock
        ticks t clock stop fuel served syn
          (nextTick reap served h.node.knobs.expiryInterval.toNanos) h
      else
        h

/-- Whether the loop can start: neither interval is empty. -/
def canRun (knobs : Knobs) : Bool := !knobs.synInterval.isZero && !knobs.expiryInterval.isZero

/-- Runs gossip and reaping for so many nanoseconds, unless an interval is empty. Each tick moves
its interval on, so the ticks are bounded by those that fit in the time.
-/
def runFor? (t : Transport σ) (clock : Int64) (nanos : Nat) (h : Host σ) : Option (Host σ) :=
  if canRun h.node.knobs then
    let fuel :=
      nanos / h.node.knobs.synInterval.toNanos + nanos / h.node.knobs.expiryInterval.toNanos + 2
    some (ticks t clock nanos fuel 0 0 0 h)
  else
    none

end Host

end TaskFabric
