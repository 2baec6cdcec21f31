import Mathlib.Logic.Function.Basic
import TaskFabric.Dispatch

/-! The executions of a batch, side by side. Each one calls its peer, falls back to the node, and
sends its result into a channel; one collector takes the results out. Answers and completions come
from outside, whatever they are, and the steps of different executions come in any order.
-/

namespace TaskFabric.Dispatch

-----------------------------------------------------------------------------------------
-- One execution
-----------------------------------------------------------------------------------------

/-- What an execution is about to do, or what it waits for. -/
inductive Phase where
  | toCall (peer : Card)
  | awaiting
  | toRun
  | running
  | ended (result : Task)
  | finished

/-- What passes between an execution and its surroundings: the call to a peer and its answer, the
submission to the scheduler of the node and its outcome. An execution whose deadline cannot be
represented breaks off instead of submitting its task.
-/
inductive Act where
  | call (peer : Card) (batch : Batch)
  | answer (answer : Answer Batch)
  | submit (task : Task)
  | outcome (outcome : Except SchedulerError Completion)
  | breakOff

def Act.isCall : Act → Bool
  | .call _ _ => true
  | _ => false

def Act.isSubmission : Act → Bool
  | .submit _ => true
  | _ => false

/-- Where an execution begins, by the place of its task. -/
def Phase.start (task : Task) : Placement → Phase
  | .nowhere => .ended task
  | .here => .toRun
  | .peer card => .toCall card

/-- A step of the execution of a task, at a node with a base expiry. -/
inductive Move (expire : Duration) (index : UInt64) (task : Task) : Phase → Act → Phase → Prop
  | call {card}
    : Move expire index task (.toCall card)
        (.call card (SortedMap.ofList [(index, task)])) .awaiting
  | returned {answer result} (found : peerResult? index answer = some result)
    : Move expire index task .awaiting (.answer answer) (.ended result)
  | fallBack {answer} (missing : peerResult? index answer = none)
    : Move expire index task .awaiting (.answer answer) .toRun
  | submit {limit} (bounded : task.type.expiry? expire = some limit)
    : Move expire index task .toRun (.submit task) .running
  | breakOff (unbounded : task.type.expiry? expire = none)
    : Move expire index task .toRun .breakOff .finished
  | outcome {outcome result}
    (own : ownResult task (outcome.mapError .refused) = some result)
    : Move expire index task .running (.outcome outcome) (.ended result)

theorem exists_ownResult (task : Task) (outcome : Except SchedulerError Completion)
    : ∃ result, ownResult task (outcome.mapError .refused) = some result := by
  cases outcome with
  | ok completion => exact ⟨completion.task, rfl⟩
  | error _ => exact ⟨task, rfl⟩

-----------------------------------------------------------------------------------------
-- All executions and the collector
-----------------------------------------------------------------------------------------

/-- A batch that is spread: the place of each task, the tasks, and the base expiry of the node. -/
structure Job where
  place : UInt64 → Task → Placement
  tasks : Batch
  expire : Duration

/-- The deadline of each task can be represented. -/
def Job.Bounded (job : Job) : Prop :=
  ∀ index task, job.tasks.get? index = some task → task.type.expiry? job.expire ≠ none

/-- The spreading of a batch over the view of a case. -/
def Job.ofCase (c : Case) (tasks : Batch) (expire : Duration) : Job :=
  ⟨Placement.place c c.peers, tasks, expire⟩

/-- What happens while a batch is spread: an execution acts, sends its result, or the collector
takes a result out of the channel or learns that no more will come.
-/
inductive Event where
  | act (index : UInt64) (act : Act)
  | send (index : UInt64) (result : Task)
  | receive (index : UInt64) (result : Task)
  | hangUp

/-- The executions by index, the results on their way, those that were collected, and whether the
collector goes on.
-/
structure State where
  phases : UInt64 → Phase
  channel : List (UInt64 × Task)
  gathered : Batch
  collecting : Bool

/-- The executions of a batch before any of them has done anything. -/
def Job.start (job : Job) : State where
  phases index :=
    match job.tasks.get? index with
    | some task => Phase.start task (job.place index task)
    | none => .finished
  channel := []
  gathered := ∅
  collecting := true

namespace State

def advance (s : State) (index : UInt64) (phase : Phase) : State :=
  { s with phases := Function.update s.phases index phase }

@[simp]
theorem phases_advance_self (s : State) (index : UInt64) (phase : Phase)
    : (s.advance index phase).phases index = phase := by
  simp [advance]

theorem phases_advance_of_ne (s : State) {index other : UInt64} (different : other ≠ index)
    (phase : Phase)
    : (s.advance index phase).phases other = s.phases other := by
  simp [advance, different]

@[simp]
theorem advance_phases (s : State) (index : UInt64) : s.advance index (s.phases index) = s := by
  simp [advance]

@[simp]
theorem advance_advance (s : State) (index : UInt64) (first second : Phase)
    : (s.advance index first).advance index second = s.advance index second := by
  simp [advance]

/-- A result enters the channel, and its execution is over. -/
def sent (s : State) (index : UInt64) (result : Task) : State :=
  { s.advance index .finished with channel := s.channel ++ [(index, result)] }

/-- The collector takes a result, the first for each index, until there are enough. -/
def received (s : State) (total : Nat) (index : UInt64) (result : Task)
    (rest : List (UInt64 × Task))
    : State :=
  if s.gathered.contains index then
    { s with channel := rest }
  else
    let gathered := s.gathered.insert index result
    { s with channel := rest, gathered, collecting := gathered.size != total }

def stopped (s : State) : State := { s with collecting := false }

/-- A result is on its way or was collected. -/
def Holds (s : State) (index : UInt64) (result : Task) : Prop :=
  (index, result) ∈ s.channel ∨ s.gathered.get? index = some result

end State

/-- One step of the whole. The channel has room for one result of every task. -/
inductive Step (job : Job) : State → Event → State → Prop
  | act {s index task act next} (listed : job.tasks.get? index = some task)
    (move : Move job.expire index task (s.phases index) act next)
    : Step job s (.act index act) (s.advance index next)
  | send {s index result} (ended : s.phases index = .ended result)
    (room : s.channel.length < max job.tasks.size 1)
    : Step job s (.send index result) (s.sent index result)
  | receive {s index result rest} (collecting : s.collecting = true)
    (front : s.channel = (index, result) :: rest)
    : Step job s (.receive index result) (s.received job.tasks.size index result rest)
  | hangUp {s} (collecting : s.collecting = true) (empty : s.channel = [])
    (finished : ∀ index ∈ job.tasks.keys, s.phases index = .finished)
    : Step job s .hangUp s.stopped

/-- What has happened so far, and the state that it led to. -/
inductive Run (job : Job) : List Event → State → Prop
  | start : Run job [] job.start
  | step {trace s event next} (run : Run job trace s) (step : Step job s event next)
    : Run job (trace ++ [event]) next

def Event.actOf? (index : UInt64) : Event → Option Act
  | .act other made => if other = index then some made else none
  | _ => none

/-- The acts of the execution of an index, in their order. -/
def acts (index : UInt64) (trace : List Event) : List Act :=
  trace.filterMap (Event.actOf? index)

theorem acts_append (index : UInt64) (trace more : List Event)
    : acts index (trace ++ more) = acts index trace ++ acts index more :=
  List.filterMap_append

theorem acts_append_singleton (index : UInt64) (trace : List Event) (event : Event)
    : acts index (trace ++ [event]) = acts index trace ++ (event.actOf? index).toList := by
  cases found : event.actOf? index <;> simp [acts, List.filterMap_append, found]

/-- The acts of an index are the events that name it. -/
theorem mem_acts_iff {index : UInt64} {trace : List Event} {act : Act}
    : act ∈ acts index trace ↔ Event.act index act ∈ trace := by
  simp only [acts, List.mem_filterMap]
  constructor
  · rintro ⟨event, member, found⟩
    cases event with
    | act other made =>
        by_cases same : other = index
        · subst same
          simp only [Event.actOf?, ↓reduceIte, Option.some.injEq] at found
          exact found ▸ member
        · simp [Event.actOf?, same] at found
    | send _ _ | receive _ _ | hangUp => simp [Event.actOf?] at found
  · intro member
    exact ⟨_, member, by simp [Event.actOf?]⟩

end TaskFabric.Dispatch
