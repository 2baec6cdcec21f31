import TaskFabric.Task

/-! Pipelines: stages that a task passes one after another, the results of each being the source of
the next. Moving on from a stage and moving back to it are inverse where both are defined.
-/

namespace TaskFabric

/-- A step of a pipeline: the handler to run, and how the task is queued for it. -/
structure Stage where
  name : String
  consumable : String
  priority : Priority
  type : TaskType
deriving DecidableEq, Inhabited

/-- A sequence of stages. -/
structure Pipeline where
  stages : List Stage
deriving DecidableEq, Inhabited

namespace Pipeline

/-- The number of stages. -/
def size (p : Pipeline) : Nat := p.stages.length

/-- Whether there is no stage. -/
def isEmpty (p : Pipeline) : Bool := p.stages.isEmpty

/-- The stage at an index. -/
def get? (p : Pipeline) (i : UInt64) : Option Stage := p.stages[i.toNat]?

/-- The index of the stage behind the one at an index. -/
def next? (p : Pipeline) (i : UInt64) : Option UInt64 :=
  if i.toNat + 1 < UInt64.size ∧ i.toNat + 1 < p.size then some (i + 1) else none

/-- The index of the stage before the one at an index. -/
def prev? (p : Pipeline) (i : UInt64) : Option UInt64 :=
  if 1 ≤ i.toNat ∧ i.toNat - 1 < p.size then some (i - 1) else none

/-- Lets a task enter the stage at an index: from there it has its handler, priority and type. -/
def enter? (p : Pipeline) (task : Task) (i : UInt64) : Option Task :=
  (p.get? i).map fun stage =>
    { task with
      stage := i,
      consumable := stage.consumable,
      priority := stage.priority,
      type := stage.type }

/-- Lets a task enter the stage behind its own, its results becoming the source. -/
def advance? (p : Pipeline) (task : Task) : Option Task :=
  match p.next? task.stage with
  | some i => p.enter? { task with source := task.result, result := [] } i
  | none => none

end Pipeline

end TaskFabric
