import TaskFabric.Scheduler.Future

/-! Lanes: one queue for each priority. The ticket that is served next is the oldest of the most
urgent queue that is not empty. Closed lanes are empty and stay so.
-/

namespace TaskFabric

/-- A submitted task and the number of its future. -/
structure Ticket where
  id : Nat
  task : Task
deriving Inhabited

/-- The queues, each from its oldest ticket to its newest, and whether they are closed. -/
structure Lanes where
  urgent : List Ticket
  high : List Ticket
  medium : List Ticket
  low : List Ticket
  base : List Ticket
  closed : Bool
deriving Inhabited

namespace Lanes

/-- Open lanes without tickets. -/
def empty : Lanes := ⟨[], [], [], [], [], false⟩

/-- The queue of a priority. -/
def queue (l : Lanes) : Priority → List Ticket
  | .urgent => l.urgent
  | .high => l.high
  | .medium => l.medium
  | .low => l.low
  | .base => l.base

/-- The lanes with another queue for a priority. -/
def setQueue (l : Lanes) (p : Priority) (tickets : List Ticket) : Lanes :=
  match p with
  | .urgent => { l with urgent := tickets }
  | .high => { l with high := tickets }
  | .medium => { l with medium := tickets }
  | .low => { l with low := tickets }
  | .base => { l with base := tickets }

/-- Queues a ticket behind those of its priority, unless the lanes are closed. -/
def push? (l : Lanes) (ticket : Ticket) : Option Lanes :=
  if l.closed then none
  else some (l.setQueue ticket.task.priority (l.queue ticket.task.priority ++ [ticket]))

/-- The first of some priorities whose queue is not empty. -/
def firstWaiting? (l : Lanes) (priorities : List Priority) : Option Priority :=
  priorities.find? fun p => !(l.queue p).isEmpty

/-- Takes the oldest ticket of the most urgent queue that is not empty. -/
def pop? (l : Lanes) : Option (Ticket × Lanes) :=
  match l.firstWaiting? Priority.descending with
  | some p =>
      match l.queue p with
      | ticket :: rest => some (ticket, l.setQueue p rest)
      | [] => none
  | none => none

/-- All queued tickets, the most urgent queue first. -/
def tickets (l : Lanes) : List Ticket := Priority.descending.flatMap l.queue

/-- The number of tickets of a priority. -/
def depth (l : Lanes) (p : Priority) : Nat := (l.queue p).length

/-- The number of tickets. -/
def total (l : Lanes) : Nat := l.tickets.length

/-- Drops all tickets and accepts no more. -/
def close (_ : Lanes) : Lanes := { empty with closed := true }

end Lanes

end TaskFabric
