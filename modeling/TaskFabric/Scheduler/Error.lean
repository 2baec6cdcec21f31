/-! Why a scheduler refuses a call or an awaited task yields no completion. -/

namespace TaskFabric

/-- A failure of the scheduler. -/
inductive SchedulerError where
  | timeout
  | workerNotFound (id : UInt64)
  | closed
  | channelDirty
  | handlerNotFound (consumable : String)
deriving DecidableEq

/-- The wording of a scheduler failure. -/
def SchedulerError.message : SchedulerError → String
  | .timeout => "task did not complete before its deadline"
  | .workerNotFound id => s!"worker not found or not alive: {id}"
  | .closed => "scheduler is closed"
  | .channelDirty => "future channel held an unread result at close"
  | .handlerNotFound consumable => s!"no handler registered for consumable: {consumable}"

end TaskFabric
