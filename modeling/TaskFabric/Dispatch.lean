import TaskFabric.Placement
import TaskFabric.Scheduler.Batch
import TaskFabric.Transport

/-! Spreading a batch over the view. Every task is placed by its index. A task that a peer does not
bring back is run at the node; one that the node cannot run either comes back as it was submitted.
Results are taken as they come, the first for each index, until there is one for every task.
-/

namespace TaskFabric

-----------------------------------------------------------------------------------------
-- Running at the node
-----------------------------------------------------------------------------------------

namespace Dispatch

/-- The result of a task that was run at the node: that of its completion, or the task as it was
submitted. An execution whose deadline cannot be represented breaks off without a result.
-/
def ownResult (task : Task) : Except CallError Completion → Option Task
  | .ok completion => some completion.task
  | .error (.refused _) => some task
  | .error .overflow => none

/-- The task that a peer returned under the index, if it did. -/
def peerResult? (index : UInt64) : Answer Batch → Option Task
  | .reply batch => batch.get? index
  | _ => none

/-- Takes results as they come, the first for each index, until there are enough. -/
def gather (total : Nat) : List (UInt64 × Task) → Batch → Batch
  | [], gathered => gathered
  | (index, task) :: rest, gathered =>
      -- Only the first result of an index counts.
      if gathered.contains index then
        gather total rest gathered
      else
        let gathered := gathered.insert index task
        if gathered.size = total then gathered else gather total rest gathered

end Dispatch

namespace Scheduler

/-- Runs a batch on a scheduler. Every index comes back; a task that failed to complete, and every
task of a batch that could not be queued, comes back as it was submitted. There is no batch if a
deadline cannot be represented.
-/
def runBatch (s : Scheduler) (tasks : Batch) : Option Batch × Scheduler :=
  match s.doneEach tasks with
  | (.error .overflow, s) => (none, s)
  | (.error (.refused _), s) => (some tasks, s)
  | (.ok outcomes, s) =>
      (some (tasks.map fun index task =>
        match outcomes.get? index with
        | some (.ok completion) => completion.task
        | _ => task), s)

/-- How many nanoseconds a batch keeps its submitter waiting, workers taking no time: the longest
expiry of a task that is not completed.
-/
def batchDelay (s : Scheduler) (tasks : Batch) : Nat :=
  match (s.doneEach tasks).1 with
  | .ok outcomes =>
      (tasks.toList.map fun (index, task) =>
        match outcomes.get? index, task.type.expiry? s.expire with
        | some (.error .timeout), some expiry => expiry.toNanos
        | _, _ => 0).foldl max 0
  | .error _ => 0

end Scheduler

-----------------------------------------------------------------------------------------
-- Executions
-----------------------------------------------------------------------------------------

/-- The scheduler of a node and the network around it. -/
structure Executor (σ : Type) where
  scheduler : Scheduler
  network : σ

/-- How far an execution got at once: to its end, or to a call that has not been answered. -/
inductive Progress where
  | ended (result : Option Task)
  | unanswered

namespace Executor

variable {σ : Type}

/-- Runs a task at the node. -/
def runHere (task : Task) (e : Executor σ) : Option Task × Executor σ :=
  let (completion, scheduler) := e.scheduler.done task
  (Dispatch.ownResult task completion, { e with scheduler })

/-- Executes a task up to its end, or up to a call that is not answered in time. -/
def execute (t : Transport σ) (limit : Duration) (placement : Placement) (index : UInt64)
    (task : Task) (e : Executor σ)
    : Progress × Executor σ :=
  match placement with
  | .nowhere => (.ended (some task), e)
  | .here =>
      let (result, e) := e.runHere task
      (.ended result, e)
  | .peer card =>
      let (answer, network) := t.distribute limit card (SortedMap.ofList [(index, task)]) e.network
      let called := { e with network }
      match answer with
      -- The others go on while this call runs out.
      | .silence => (.unanswered, called)
      | answer =>
          match Dispatch.peerResult? index answer with
          | some returned => (.ended (some returned), called)
          | none =>
              let (result, e) := called.runHere task
              (.ended result, e)

/-- Executes all tasks; answers the results that were reached at once and the tasks whose calls
have not been answered.
-/
def executeEach (t : Transport σ) (limit : Duration) (place : UInt64 → Task → Placement)
    : List (UInt64 × Task) → Executor σ
    → List (UInt64 × Task) × List (UInt64 × Task) × Executor σ
  | [], e => ([], [], e)
  | (index, task) :: rest, e =>
      let (progress, e) := e.execute t limit (place index task) index task
      let (results, unanswered, e) := executeEach t limit place rest e
      match progress with
      | .ended (some result) => ((index, result) :: results, unanswered, e)
      | .ended none => (results, unanswered, e)
      | .unanswered => (results, (index, task) :: unanswered, e)

/-- Runs the tasks at the node whose calls were not answered. -/
def rerunEach : List (UInt64 × Task) → Executor σ → List (UInt64 × Task) × Executor σ
  | [], e => ([], e)
  | (index, task) :: rest, e =>
      let (result, e) := e.runHere task
      let (results, e) := rerunEach rest e
      match result with
      | some result => ((index, result) :: results, e)
      | none => (results, e)

/-- Spreads a batch over a view. It fails only if the view is empty. -/
def distribute (t : Transport σ) (limit : Duration) (c : Case) (tasks : Batch) (e : Executor σ)
    : Except ClusterError Batch × Executor σ :=
  let peers := c.peers
  if peers.isEmpty then
    (.error .noPeers, e)
  else
    let (early, unanswered, e) := executeEach t limit (Placement.place c peers) tasks.toList e
    let (late, e) := rerunEach unanswered e
    (.ok (Dispatch.gather tasks.size (early ++ late) ∅), e)

end Executor

end TaskFabric
