import TaskFabric.Handler

/-! Futures: what the submitter of a task keeps while the task is out. The other half, the ticket,
delivers one completion or is abandoned. A future yields its completion once; after that, after an
abandonment was noticed, and after closing it is closed for good. Closing over a completion that
nobody has read leaves an error.
-/

namespace TaskFabric

/-- A finished task and whether its handler succeeded. -/
structure Completion where
  task : Task
  ok : Bool

instance : Inhabited Completion := ⟨⟨.empty, false⟩⟩

/-- What has become of the ticket of a future. -/
inductive Delivery where
  | pending
  | delivered (completion : Completion)
  | abandoned

/-- The half of a submitted task that its submitter keeps. -/
structure Future where
  delivery : Delivery
  isClosed : Bool
  error : Option SchedulerError
  timedOut : Bool

namespace Future

/-- The future of a task that was just submitted. -/
def start : Future := ⟨.pending, false, none, false⟩

instance : Inhabited Future := ⟨start⟩

/-- Delivers a completion. A closed future takes none, and none follows a first delivery. -/
def fulfil (f : Future) (completion : Completion) : Future :=
  match f.isClosed, f.delivery with
  | false, .pending => { f with delivery := .delivered completion }
  | _, _ => f

/-- Abandons the ticket, unless it has delivered. -/
def abandon (f : Future) : Future :=
  match f.delivery with
  | .pending => { f with delivery := .abandoned }
  | _ => f

/-- A wait that ran out before anything was delivered. -/
def expire (f : Future) : Future := { f with timedOut := true }

/-- A wait that ends now, and the future behind it. A completion that is there is taken even if
no time is left; a wait that runs out leaves the future usable.
-/
def wait (f : Future) : Except SchedulerError Completion × Future :=
  if f.isClosed then
    (.error .closed, f)
  else
    match f.delivery with
    | .delivered completion => (.ok completion, { f with isClosed := true })
    | .abandoned => (.error .closed, { f with isClosed := true })
    | .pending => (.error .timeout, f.expire)

/-- Releases a future. -/
def close (f : Future) : Future :=
  if f.isClosed then
    f
  else
    match f.delivery with
    | .delivered _ => { f with isClosed := true, error := some .channelDirty }
    | _ => { f with isClosed := true }

end Future

end TaskFabric
