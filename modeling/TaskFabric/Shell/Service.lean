import Std.Async.Signal
import Std.Sync.Mutex
import Std.Time
import TaskFabric.Http.Server
import TaskFabric.Replay
import TaskFabric.Shell.Files
import TaskFabric.Shell.Sockets

/-! A node in service. Requests, gossip and reaping change one shared state. An operation that calls
peers is carried out on the state as it was found, with the answers that are known; if another one
changed the state meanwhile, it is carried out anew.
-/

namespace TaskFabric.Shell

open Std.Async

/-- The wall clock. -/
def wallClock : IO Int64 := do
  return Int64.ofInt (← Std.Time.Timestamp.now).toSecondsSinceUnixEpoch.val

/-- The state of a node in service, and how often it was changed. -/
structure Service where
  node : Node
  disk : Disk
  changes : Nat

/-- Makes a call to a peer. A call takes no longer than the node waits for it. -/
def perform (client : Http.Client Async) (limit : Duration) : PeerCall → Async AnsweredCall
  | .exchange peer m => do
      let answer ← within limit .silence do
        match ← client.exchange peer m with
        | .ok reply => return .reply reply
        | .error e => return .failure e
      return .exchange peer m answer
  | .distribute limit peer tasks => do
      let answer ← within limit .silence do
        match ← client.distribute peer tasks with
        | .ok results => return .reply results
        | .error e => return .failure e
      return .distribute peer tasks.keys answer

/-- Puts the outcome of an operation in the place of the state that it was carried out on, unless
that was changed meanwhile. A file that cannot be written is reported and left as it is.
-/
def commit (shared : Std.Mutex Service) (seen : Service) (node : Node) (disk : Disk) : IO Bool :=
  shared.atomically do
    if (← get).changes ≠ seen.changes then
      return false
    try
      save seen.disk disk
    catch e =>
      IO.eprintln s!"persist failed: {e}"
    set (⟨node, disk, seen.changes + 1⟩ : Service)
    return true

/-- Carries out an operation on a node in service. -/
partial def transact {α : Type} (shared : Std.Mutex Service) (client : Http.Client Async)
    (operation : Host Replay → α × Host Replay) (known : List AnsweredCall)
    : Async α := do
  let seen ← (shared.atomically get : IO Service)
  let (result, host) := operation ⟨seen.node, seen.disk, .ofCalls known⟩
  match host.network.missing with
  | some call =>
      let answered ← perform client seen.node.knobs.remoteTimeout call
      transact shared client operation (host.network.extended known answered)
  | none =>
      if ← commit shared seen host.node host.disk then return result
      else transact shared client operation known

/-- Serves the request that comes over a connection. -/
def answer (shared : Std.Mutex Service) (client : Http.Client Async)
    (connection : TCP.Socket.Client)
    : Async Unit := do
  let received ← receive connection (fun bytes => (Http.Request.ofBytes? bytes).isSome) []
  if let some request := Http.Request.ofBytes? received then
    let response ← transact shared client (Http.serve Replay.transport request) []
    connection.send ⟨(response.bytes (request.method == "HEAD")).toArray⟩
    connection.shutdown

/-- Serves connections until the program is interrupted. -/
partial def accept (shared : Std.Mutex Service) (client : Http.Client Async)
    (server : TCP.Socket.Server) (interrupt : Signal.Waiter)
    : Async Unit := do
  let arrived ← Selectable.one #[
    .case server.acceptSelector fun connection => return some connection,
    .case interrupt.selector fun _ => return none]
  if let some connection := arrived then
    background (tryCatch (answer shared client connection) fun _ => return ())
    accept shared client server interrupt

/-- Runs gossip and reaping, given when they are due, until the program is interrupted. -/
partial def gossip (shared : Std.Mutex Service) (client : Http.Client Async)
    (interrupted : IO.Ref Bool) (syn reap : Nat)
    : Async Unit := do
  let now ← IO.monoNanosNow
  let due := min syn reap
  if now < due then
    sleep (Std.Time.Millisecond.Offset.ofNat ((due - now) / 1000000 + 1))
  if ← interrupted.get then
    return
  let knobs := (← (shared.atomically get : IO Service)).node.knobs
  let clock ← wallClock
  let served ← IO.monoNanosNow
  if syn ≤ reap then
    let _ ← transact shared client
      (fun h =>
        let (report, _, h) := h.catchup Replay.transport clock
        (report, h))
      []
    gossip shared client interrupted (Host.nextTick syn served knobs.synInterval.toNanos) reap
  else
    let _ ← transact shared client (fun h => h.clean clock) []
    gossip shared client interrupted syn (Host.nextTick reap served knobs.expiryInterval.toNanos)

/-- Serves a node until the program is interrupted. -/
def serve (node : Node) (disk : Disk) (client : Http.Client Async) (server : TCP.Socket.Server)
    : Async Unit := do
  let shared ← Std.Mutex.new (⟨node, disk, 0⟩ : Service)
  let interrupted ← IO.mkRef false
  if Host.canRun node.knobs then
    let now ← IO.monoNanosNow
    background (gossip shared client interrupted now now)
  accept shared client server (← Signal.Waiter.mk .sigint false)
  interrupted.set true

end TaskFabric.Shell
