import TaskFabric.Scheduler.Error
import TaskFabric.Task

/-! Handlers and their registry. A handler reads the source, the results so far and the context of a
task, and leaves results, a context and a verdict; one that panics keeps what it wrote and fails its
task. It may also note values in the log when it starts, and wait at the gate before it ends.
-/

namespace TaskFabric

/-- How a handler ends. -/
inductive Verdict where
  | succeeded
  | failed
  | panicked
deriving DecidableEq

/-- What a handler leaves behind. -/
structure Outcome where
  verdict : Verdict
  result : List Value
  context : SortedMap String Value

/-- The code behind a name: what it makes of the source, the results and the context of a task,
what it notes of the source in the log when it starts, and whether it waits at the gate.
-/
structure Handler where
  run : List Value → List Value → SortedMap String Value → Outcome
  notes : List Value → List Value
  gated : Bool

namespace Handler

instance : Inhabited Handler :=
  ⟨⟨fun _ result context => ⟨.succeeded, result, context⟩, fun _ => [], false⟩⟩

/-- A handler that notes nothing and does not wait. -/
def plain (run : List Value → List Value → SortedMap String Value → Outcome) : Handler :=
  ⟨run, fun _ => [], false⟩

/-- Lets a handler work on a task; tells also whether it succeeded. -/
def apply (h : Handler) (task : Task) : Bool × Task :=
  let outcome := h.run task.source task.result task.context
  (outcome.verdict == .succeeded,
    { task with result := outcome.result, context := outcome.context })

end Handler

/-- Handlers by name. -/
structure Registry where
  handlers : SortedMap String Handler

namespace Registry

/-- The registry without handlers. -/
def empty : Registry := ⟨∅⟩

instance : Inhabited Registry := ⟨empty⟩

/-- Puts a handler under a name, in place of the one that was there. -/
def register (r : Registry) (name : String) (handler : Handler) : Registry :=
  ⟨r.handlers.insert name handler⟩

/-- Removes the handler of a name. -/
def unregister (r : Registry) (name : String) : Registry := ⟨r.handlers.erase name⟩

/-- Whether a name has a handler. -/
def contains (r : Registry) (name : String) : Bool := r.handlers.contains name

/-- The names, in order. -/
def names (r : Registry) : List String := r.handlers.keys

/-- The handler of a name. -/
def get? (r : Registry) (name : String) : Option Handler := r.handlers.get? name

/-- The handler of a name, or the failure to find one. -/
def lookup (r : Registry) (name : String) : Except SchedulerError Handler :=
  match r.get? name with
  | some handler => .ok handler
  | none => .error (.handlerNotFound name)

/-- Runs the handler of a task. -/
def execute (r : Registry) (task : Task) : Except SchedulerError (Bool × Task) :=
  match r.get? task.consumable with
  | some handler => .ok (handler.apply task)
  | none => .error (.handlerNotFound task.consumable)

/-- What a worker makes of a task: without a handler the task fails unchanged. -/
def complete (r : Registry) (task : Task) : Bool × Task :=
  match r.get? task.consumable with
  | some handler => handler.apply task
  | none => (false, task)

end Registry

end TaskFabric
