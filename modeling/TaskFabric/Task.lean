import TaskFabric.Duration
import TaskFabric.Value

/-! Tasks: what to run, how urgently, and on which payloads. The type of a task decides how long its
submitter waits; its priority decides the lane it is queued on. Levels that stand for no type or
priority read as the least one.
-/

namespace TaskFabric

/-- How long a task is expected to live. -/
inductive TaskType where
  | short
  | long
  | routine
  | permanent
deriving DecidableEq, Inhabited

namespace TaskType

/-- The type of a level. -/
def ofLevel (level : UInt8) : TaskType :=
  if level = 1 then .long else if level = 2 then .routine else if level = 3 then .permanent
  else .short

/-- The level of a type. -/
def level : TaskType → UInt8
  | .short => 0
  | .long => 1
  | .routine => 2
  | .permanent => 3

/-- The name of a type. -/
def name : TaskType → String
  | .short => "Short"
  | .long => "Long"
  | .routine => "Routine"
  | .permanent => "Permanent"

/-- How many times the base expiry a task of this type may take. -/
def factor : TaskType → UInt32
  | .short => 1
  | .long => 10
  | .routine => 3
  | .permanent => 60

/-- How long a submitter waits for a task of this type, unless the product leaves the range of
spans.
-/
def expiry? (type : TaskType) (base : Duration) : Option Duration :=
  if type = .short then some base else base.scale? type.factor

end TaskType

/-- The urgency of a task. -/
inductive Priority where
  | base
  | low
  | medium
  | high
  | urgent
deriving DecidableEq, Inhabited

namespace Priority

/-- The priority of a level. -/
def ofLevel (level : UInt8) : Priority :=
  if level = 1 then .low else if level = 2 then .medium else if level = 3 then .high
  else if level = 4 then .urgent else .base

/-- The level of a priority. -/
def level : Priority → UInt8
  | .base => 0
  | .low => 1
  | .medium => 2
  | .high => 3
  | .urgent => 4

/-- The name of a priority. -/
def name : Priority → String
  | .base => "Base"
  | .low => "Low"
  | .medium => "Medium"
  | .high => "High"
  | .urgent => "Urgent"

/-- The rank of the lane of a priority; the lane of rank zero is served first. -/
def lane (p : Priority) : Nat := 4 - p.level.toNat

/-- All priorities, the most urgent first: the order in which lanes are served. -/
def descending : List Priority := [.urgent, .high, .medium, .low, .base]

/-- How many priorities are more urgent. -/
def above (p : Priority) : Nat := (descending.filter fun q => p.level < q.level).length

end Priority

/-- A unit of work: the name of its handler, the payloads it reads and those it has written. -/
structure Task where
  type : TaskType
  priority : Priority
  consumable : String
  source : List Value
  result : List Value
  context : SortedMap String Value
  stage : UInt64

namespace Task

/-- The task that names no handler and holds nothing. -/
def empty : Task := ⟨.short, .base, "", [], [], ∅, 0⟩

instance : Inhabited Task := ⟨empty⟩

/-- A task for a handler. -/
def named (consumable : String) : Task := { empty with consumable }

end Task

/-- Tasks by index, in the order of the indices. -/
abbrev Batch := SortedMap UInt64 Task

end TaskFabric
