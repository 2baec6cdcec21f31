import TaskFabric.Pipeline
import TaskFabric.Scheduler

/-! Running tasks to their completion. Each task is waited for until its own expiry, counted from
its submission; the tasks of a batch are waited for one after another, in the order of their
indices, but a completion that is there when its wait begins is taken whatever the time. A pipeline
runs stage by stage until one fails.
-/

namespace TaskFabric

/-- Why a call gives no answer: the scheduler refuses it, or a deadline cannot be represented. -/
inductive CallError where
  | refused (cause : SchedulerError)
  | overflow
deriving DecidableEq

/-- What became of the tasks of a batch. -/
abbrev Outcomes := SortedMap UInt64 (Except SchedulerError Completion)

/-- A wait that begins at `now` and ends at the arrival or at the deadline, whichever comes first;
an arrival at the deadline counts. Answers whether the arrival was seen, and when the wait ended.
-/
def Instant.await (now deadline : Instant) (arrival : Option Instant) : Bool × Instant :=
  let latest := max now.nanos deadline.nanos
  match arrival with
  | some at_ => if at_.nanos ≤ latest then (true, ⟨max now.nanos at_.nanos⟩) else (false, ⟨latest⟩)
  | none => (false, ⟨latest⟩)

namespace Scheduler

/-- When the ticket of a settled scheduler delivered, its workers taking no time. -/
def arrival? (s : Scheduler) (id : Nat) : Option Instant :=
  match (s.future id).delivery with
  | .pending => none
  | _ => some s.clock

/-- Waits for tickets one after another, each until its deadline, and releases their futures. -/
def collect (arrival? : Nat → Option Instant)
    : Instant → List (UInt64 × Nat × Instant) → Scheduler
    → List (UInt64 × Except SchedulerError Completion) × Scheduler
  | _, [], s => ([], s)
  | now, (index, id, deadline) :: rest, s =>
      let (arrived, later) := now.await deadline (arrival? id)
      let (outcome, waited) :=
        if arrived then s.wait id else (.error .timeout, s.changeFuture id Future.expire)
      let (others, s) := collect arrival? later rest (waited.closeFuture id)
      ((index, outcome) :: others, s)

/-- The expiries of tasks, unless one cannot be represented. -/
def expiries? (s : Scheduler) (tasks : List (UInt64 × Task)) : Option (List Duration) :=
  tasks.mapM fun (_, task) => task.type.expiry? s.expire

/-- Queues a task and waits for its completion until it expires. -/
def done (s : Scheduler) (task : Task) : Except CallError Completion × Scheduler :=
  match task.type.expiry? s.expire with
  | none => (.error .overflow, s)
  | some _ =>
      match s.enqueueOne task with
      | .error e => (.error (.refused e), s)
      | .ok (id, queued) =>
          let (outcome, waited) := queued.settle.wait id
          (outcome.mapError .refused, waited.closeFuture id)

/-- Queues a batch and waits for every task until it expires; tells what became of each. -/
def doneEach (s : Scheduler) (tasks : Batch) : Except CallError Outcomes × Scheduler :=
  match s.expiries? tasks.toList with
  | none => (.error .overflow, s)
  | some expiries =>
      match s.enqueueEach tasks.toList with
      | .error e => (.error (.refused e), s)
      | .ok (ids, queued) =>
          match expiries.mapM s.clock.add? with
          | none => (.error .overflow, queued)
          | some deadlines =>
              let settled := queued.settle
              let waits := List.zipWith (fun (index, id) deadline => (index, id, deadline)) ids
                deadlines
              let (outcomes, s) := collect settled.arrival? s.clock waits settled
              (.ok (SortedMap.ofList outcomes), s)

/-- The completions of a batch, or the failure of the least index that has none. -/
def firstFailure (outcomes : List (UInt64 × Except SchedulerError Completion))
    : Except SchedulerError (List (UInt64 × Completion)) :=
  outcomes.mapM fun (index, outcome) => outcome.map (index, ·)

/-- Queues a batch and waits for all completions. -/
def doneAll (s : Scheduler) (tasks : Batch)
    : Except CallError (SortedMap UInt64 Completion) × Scheduler :=
  match s.doneEach tasks with
  | (.error e, s) => (.error e, s)
  | (.ok outcomes, s) =>
      (((firstFailure outcomes.toList).map SortedMap.ofList).mapError .refused, s)

/-- Runs a task that has entered a stage, then the stages behind it until one fails. A stage is
followed by a later one, so their number bounds the steps.
-/
def runStages (p : Pipeline) : Nat → Task → Scheduler → Except CallError Completion × Scheduler
  | 0, task, s => (.ok ⟨task, true⟩, s)
  | fuel + 1, task, s =>
      match s.done task with
      | (.error e, s) => (.error e, s)
      | (.ok completion, s) =>
          if completion.ok then
            match p.advance? completion.task with
            | some task => runStages p fuel task s
            | none => (.ok completion, s)
          else
            (.ok completion, s)

/-- Runs a task through a pipeline, from the stage it is at; without such a stage it fails. -/
def runPipeline (s : Scheduler) (task : Task) (p : Pipeline)
    : Except CallError Completion × Scheduler :=
  match p.enter? task task.stage with
  | some task => runStages p p.size task s
  | none => (.ok ⟨task, false⟩, s)

end Scheduler

end TaskFabric
