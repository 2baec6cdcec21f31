import TaskFabric.Scheduler.Worker

/-! The scheduler of a node: lanes, workers, and the futures of all tasks that were ever accepted.
Every change is a small step: a ticket is queued, a sleeper is woken, a worker looks at the lanes, a
worker finishes. `Scheduler.settle` takes the steps of the workers until all of them sleep, wait at
the gate, or have left.
-/

namespace TaskFabric

/-- The state of a scheduler. Futures are kept under the numbers of their tickets; the gate holds
the workers whose handlers wait at it, the longest waiting first; the log holds what handlers
noted since it was last read.
-/
structure Scheduler where
  registry : Registry
  expire : Duration
  clock : Instant
  lanes : Lanes
  workers : List Worker
  nextWorker : Nat
  futures : SortedMap Nat Future
  nextTicket : Nat
  gate : List Nat
  log : List Value

namespace Scheduler

/-- The base expiry of a scheduler that is given none. -/
def defaultExpire : Duration := .ofMillis 5000

/-- A scheduler without workers. -/
def create (registry : Registry) (expire : Duration) : Scheduler :=
  ⟨registry, expire, ⟨0⟩, .empty, [], 1, ∅, 0, [], []⟩

instance : Inhabited Scheduler := ⟨create .empty defaultExpire⟩

-----------------------------------------------------------------------------------------
-- Workers
-----------------------------------------------------------------------------------------

/-- Attaches a worker under the next number. -/
def attach (s : Scheduler) : Scheduler :=
  { s with workers := s.workers ++ [.attached s.nextWorker], nextWorker := s.nextWorker + 1 }

/-- Attaches workers under the next numbers. -/
def attachMany (s : Scheduler) : Nat → Scheduler
  | 0 => s
  | n + 1 => s.attach.attachMany n

/-- The worker of a number. -/
def worker? (s : Scheduler) (id : Nat) : Option Worker := s.workers.find? (·.id == id)

/-- Changes the worker of a number. -/
def changeWorker (s : Scheduler) (id : Nat) (change : Worker → Worker) : Scheduler :=
  { s with workers := s.workers.map fun w => if w.id == id then change w else w }

/-- Wakes the worker of a number if it sleeps. -/
def wake (s : Scheduler) (id : Nat) : Scheduler := s.changeWorker id Worker.wake

/-- Wakes one of the workers that sleep, if any does. -/
def wakeOne (s : Scheduler) : Scheduler :=
  match s.workers.find? Worker.isAsleep with
  | some w => s.wake w.id
  | none => s

/-- Wakes all workers that sleep. -/
def wakeAll (s : Scheduler) : Scheduler := { s with workers := s.workers.map Worker.wake }

/-- Starts a worker. One that runs already stays as it is; one that quit cannot be started. -/
def launch (s : Scheduler) (id : Nat) : Except SchedulerError Scheduler :=
  match s.worker? id with
  | some w =>
      match w.state with
      | .idle => .ok (s.changeWorker id Worker.launch)
      | .running => .ok s
      | .stopped => .error (.workerNotFound id.toUInt64)
  | none => .error (.workerNotFound id.toUInt64)

/-- The number of workers that were attached and not started. -/
def idleCount (s : Scheduler) : Nat := (s.workers.filter (·.state == .idle)).length

/-- Starts all workers that were attached and not started. -/
def launchAll (s : Scheduler) : Scheduler :=
  { s with workers := s.workers.map fun w => if w.state == .idle then w.launch else w }

/-- Tells a worker to quit, and wakes all so that it notices. -/
def quit (s : Scheduler) (id : Nat) : Except SchedulerError Scheduler :=
  match s.worker? id with
  | some w =>
      if w.isAlive then .ok (s.changeWorker id Worker.quit).wakeAll
      else .error (.workerNotFound id.toUInt64)
  | none => .error (.workerNotFound id.toUInt64)

/-- The number of workers that have not quit. -/
def workerCount (s : Scheduler) : Nat := (s.workers.filter Worker.isAlive).length

-----------------------------------------------------------------------------------------
-- Futures
-----------------------------------------------------------------------------------------

/-- The future of a ticket. A number that no ticket has stands for a closed future. -/
def future (s : Scheduler) (id : Nat) : Future :=
  (s.futures.get? id).getD { Future.start with isClosed := true }

/-- Changes the future of a ticket. -/
def changeFuture (s : Scheduler) (id : Nat) (change : Future → Future) : Scheduler :=
  { s with futures := s.futures.map fun other f => if other == id then change f else f }

/-- A wait on the future of a ticket that ends now. -/
def wait (s : Scheduler) (id : Nat) : Except SchedulerError Completion × Scheduler :=
  ((s.future id).wait.1, s.changeFuture id fun f => f.wait.2)

/-- Releases the future of a ticket. -/
def closeFuture (s : Scheduler) (id : Nat) : Scheduler := s.changeFuture id Future.close

-----------------------------------------------------------------------------------------
-- Submission
-----------------------------------------------------------------------------------------

/-- Queues a task, unless the lanes are closed. The number of its ticket is the next one. -/
def push? (s : Scheduler) (task : Task) : Option Scheduler :=
  (s.lanes.push? ⟨s.nextTicket, task⟩).map fun lanes =>
    { s with
      lanes,
      futures := s.futures.insert s.nextTicket .start,
      nextTicket := s.nextTicket + 1 }

/-- Queues a task and wakes a worker for it; answers the number of the ticket. -/
def enqueueOne (s : Scheduler) (task : Task) : Except SchedulerError (Nat × Scheduler) :=
  match s.push? task with
  | some pushed => .ok (s.nextTicket, pushed.wakeOne)
  | none => .error .closed

/-- Queues tasks in the order of their indices; answers the tickets by index. -/
def enqueueEach (s : Scheduler) : List (UInt64 × Task)
    → Except SchedulerError (List (UInt64 × Nat) × Scheduler)
  | [] => .ok ([], s)
  | (index, task) :: rest =>
      match s.enqueueOne task with
      | .error e => .error e
      | .ok (id, s) =>
          match s.enqueueEach rest with
          | .error e => .error e
          | .ok (ids, s) => .ok ((index, id) :: ids, s)

/-- Closes the lanes. The tickets that are queued are abandoned, and all workers are woken. -/
def close (s : Scheduler) : Scheduler :=
  let dropped := s.lanes.tickets.map (·.id)
  { s with
    lanes := s.lanes.close,
    futures :=
      s.futures.map fun id (f : Future) => if dropped.contains id then f.abandon else f }.wakeAll

/-- Whether the lanes are closed. -/
def isClosed (s : Scheduler) : Bool := s.lanes.closed

-----------------------------------------------------------------------------------------
-- Steps of workers
-----------------------------------------------------------------------------------------

/-- A worker that is awake looks at the lanes: it leaves if it was told to quit, takes a ticket if
there is one, leaves if the lanes are closed, and goes to sleep otherwise. With its ticket it looks
its handler up and starts it.
-/
def look (s : Scheduler) (w : Worker) : Scheduler :=
  -- The quit is looked at before the lanes, so that no ticket is taken after it.
  if w.state == .stopped then
    s.changeWorker w.id fun w => { w with activity := .exited }
  else
    match s.lanes.pop? with
    | some (ticket, lanes) =>
        -- The handler is looked up once, so a later registration does not reach this ticket.
        let handler : Option Handler := s.registry.get? ticket.task.consumable
        let started :=
          { s with
            lanes,
            log := s.log ++ (handler.map fun (h : Handler) => h.notes ticket.task.source).getD [],
            gate := if handler.any Handler.gated then s.gate ++ [w.id] else s.gate }
        started.changeWorker w.id fun w => { w with activity := .busy ticket handler }
    | none =>
        if s.lanes.closed then
          s.changeWorker w.id fun w => { w with activity := .exited }
        else
          s.changeWorker w.id fun w => { w with activity := .asleep }

/-- What a worker makes of a task with the handler it found. -/
def completion (handler : Option Handler) (task : Task) : Completion :=
  match handler with
  | some handler => ⟨(handler.apply task).2, (handler.apply task).1⟩
  | none => ⟨task, false⟩

/-- A busy worker finishes: it delivers the completion of its ticket and looks again. -/
def finish (s : Scheduler) (w : Worker) : Scheduler :=
  match w.activity with
  | .busy ticket handler =>
      let delivered :=
        (s.changeFuture ticket.id fun f => f.fulfil (completion handler ticket.task)).changeWorker
          w.id fun w => { w with activity := .awake }
      { delivered with gate := s.gate.filter (· != w.id) }
  | _ => s

/-- Whether a worker can take a step: it is awake, or busy and not waiting at the gate. -/
def canStep (s : Scheduler) (w : Worker) : Bool :=
  match w.activity with
  | .awake => true
  | .busy _ _ => !s.gate.contains w.id
  | _ => false

/-- The step of a worker. -/
def step (s : Scheduler) (w : Worker) : Scheduler :=
  match w.activity with
  | .awake => s.look w
  | .busy _ _ => s.finish w
  | _ => s

/-- Takes steps of workers, the first that can take one each time. -/
def run : Nat → Scheduler → Scheduler
  | 0, s => s
  | fuel + 1, s =>
      match s.workers.find? s.canStep with
      | some w => run fuel (s.step w)
      | none => s

/-- A bound on the steps that workers can take before one has to come from outside: two for every
queued ticket, one for every busy worker, and one look for every worker that is or gets awake.
-/
def work (s : Scheduler) : Nat :=
  3 * s.lanes.total + 2 * s.workers.countP Worker.isBusy + s.workers.countP Worker.isAwake

/-- Lets the workers go on until none of them can take a step. -/
def settle (s : Scheduler) : Scheduler := run s.work s

/-- A scheduler with so many workers that were started and look for work. -/
def started (registry : Registry) (expire : Duration) (workers : Nat) : Scheduler :=
  ((create registry expire).attachMany workers).launchAll.settle

/-- Lets the handlers that have waited longest at the gate go, so many of them. -/
def release : Nat → Scheduler → Scheduler
  | 0, s => s
  | n + 1, s =>
      match s.gate with
      | [] => s
      | id :: _ =>
          match s.worker? id with
          | some w => release n (s.finish w)
          | none => s

end Scheduler

end TaskFabric
