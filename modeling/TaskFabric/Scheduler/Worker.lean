import TaskFabric.Scheduler.Lanes

/-! Workers: attached idle, launched once, and stopped for good when they are told to quit. The
thread of a launched worker looks for tickets while it is awake, sleeps when there is none, and
works on the ticket it took; the quit of its worker is noticed when it looks again.
-/

namespace TaskFabric

/-- The state that a worker is known to be in. -/
inductive WorkerState where
  | idle
  | running
  | stopped
deriving DecidableEq, Inhabited

/-- The name of a state. -/
def WorkerState.name : WorkerState → String
  | .idle => "Idle"
  | .running => "Running"
  | .stopped => "Stopped"

/-- What the thread of a worker does. A busy one has looked its handler up already. -/
inductive Activity where
  | unborn
  | awake
  | asleep
  | busy (ticket : Ticket) (handler : Option Handler)
  | exited
deriving Inhabited

/-- An attached worker. -/
structure Worker where
  id : Nat
  state : WorkerState
  activity : Activity
deriving Inhabited

namespace Worker

/-- A worker that was just attached. -/
def attached (id : Nat) : Worker := ⟨id, .idle, .unborn⟩

/-- Whether a worker has not been told to quit. -/
def isAlive (w : Worker) : Bool := w.state != .stopped

/-- Starts the thread of a worker. -/
def launch (w : Worker) : Worker := { w with state := .running, activity := .awake }

/-- Tells a worker to quit. -/
def quit (w : Worker) : Worker := { w with state := .stopped }

/-- Wakes the thread of a worker if it sleeps. -/
def wake (w : Worker) : Worker :=
  match w.activity with
  | .asleep => { w with activity := .awake }
  | _ => w

/-- Whether the thread of a worker sleeps. -/
def isAsleep (w : Worker) : Bool := w.activity matches .asleep

/-- Whether the thread of a worker is awake and looks for work. -/
def isAwake (w : Worker) : Bool := w.activity matches .awake

/-- Whether the thread of a worker works on a ticket. -/
def isBusy (w : Worker) : Bool := w.activity matches .busy _ _

/-- The ticket that a worker holds. -/
def ticket? (w : Worker) : Option Ticket :=
  match w.activity with
  | .busy ticket _ => some ticket
  | _ => none

end Worker

end TaskFabric
