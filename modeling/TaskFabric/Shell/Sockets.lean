import Std.Async.DNS
import Std.Async.TCP
import Std.Async.Timer
import TaskFabric.Http.Client

/-! Connections of the machine: dialling peers, and listening. -/

namespace TaskFabric.Shell

open Std.Async

/-- An address as the machine knows it. -/
def socketAddress : SocketAddress → Std.Net.SocketAddress
  | .v4 host port => .v4 ⟨⟨#v[host.first, host.second, host.third, host.fourth]⟩, port⟩
  | .v6 host _ port => .v6 ⟨⟨⟨host.list.toArray, by simp [host.length_eq]⟩⟩, port⟩

/-- The addresses of a host that is known by a name, with a port. -/
def lookUp (host : String) (port : UInt16) : Async (List Std.Net.SocketAddress) := do
  let found ← DNS.getAddrInfo host (toString port)
  return found.toList.map fun address =>
    match address with
    | .v4 host => .v4 ⟨host, port⟩
    | .v6 host => .v6 ⟨host, port⟩

/-- The addresses of a text. -/
def resolve (address : String) : Async (List Std.Net.SocketAddress) :=
  match SocketAddress.parse? address, Card.parse address with
  | some known, _ => return [socketAddress known]
  | none, .ok card => lookUp card.ip card.port
  | none, .error _ => return []

/-- Waits for a span of time. -/
def pause (span : Duration) : Async Unit :=
  sleep (Std.Time.Millisecond.Offset.ofNat (span.toNanos / 1000000))

/-- The result of an action, or a default if the action fails or takes longer than a span. -/
def within {α : Type} [Inhabited α] (span : Duration) (late : α) (action : Async α) : Async α :=
  Async.race (tryCatch action fun _ => return late) (do pause span; return late)

/-- Receives until the connection is closed or what came satisfies a test. -/
partial def receive (client : TCP.Socket.Client) (isComplete : List UInt8 → Bool)
    (received : List UInt8)
    : Async (List UInt8) := do
  if isComplete received then
    return received
  match ← (tryCatch (client.recv? 65536) fun _ => return none) with
  | some bytes => receive client isComplete (received ++ bytes.toList)
  | none => return received

/-- Sends bytes and receives what comes back. -/
def converse (client : TCP.Socket.Client) : Http.Connection Async := fun bytes isComplete => do
  client.send ⟨bytes.toArray⟩
  receive client isComplete []

/-- Dials the addresses of a text one after another. -/
def dial (address : String) : Async (Except String (Http.Connection Async)) := do
  for known in ← resolve address do
    let client ← TCP.Socket.Client.mk
    let connected ← tryCatch (do client.connect known; return true) fun _ => return false
    if connected then
      return .ok (converse client)
  return .error "connection refused"

/-- The network of the machine. A socket that listens is put where it can be found. -/
def network (found : IO.Ref (Option TCP.Socket.Server)) : Http.Network Async :=
  { dial := fun limit address => within limit (.error "dial timed out") (dial address),
    listen := fun address => do
      try
        let server ← TCP.Socket.Server.mk
        server.bind (socketAddress address)
        server.listen 128
        found.set (some server)
        return true
      catch _ => return false }

end TaskFabric.Shell
