import TaskFabric.Config
import TaskFabric.Http.Reply
import TaskFabric.Http.Route
import TaskFabric.Json.Parser
import TaskFabric.Json.Text
import TaskFabric.Message.Wire
import TaskFabric.Task.Wire
import TaskFabric.Text.Utf8
import TaskFabric.ClusterError

/-! Calls to peers over a network. A call dials the address of the peer, sends one request, and
judges what comes back: no connection, a response that is cut short or ill formed, and a code other
than one of success are failures of the connection, a target that cannot be sent and a body that
cannot be read are failures of coding.
-/

namespace TaskFabric.Http

/-- A connection takes the bytes of a request and gives those that come back until it is closed or
what came satisfies a test.
-/
abbrev Connection (m : Type → Type) := List UInt8 → (List UInt8 → Bool) → m (List UInt8)

/-- What a network offers to a program. Dialling an address within a span of time gives a
connection or the reason why there is none; listening at an address may not be possible.
-/
structure Network (m : Type → Type) where
  dial : Duration → String → m (Except String (Connection m))
  listen : SocketAddress → m Bool

/-- The network in which no address exists. -/
def Network.isolated {m : Type → Type} [Pure m] : Network m :=
  ⟨fun _ _ => pure (.error "network is unreachable"), fun _ => pure false⟩

/-- Whether a text may be the value of a header. -/
def isHeaderValue (text : String) : Bool :=
  text.toList.all fun c => c == '\t' || (32 ≤ c.toNat && c.toNat != 127)

/-- The name by which a client makes itself known. -/
def userAgent : String := "collab/0.1"

/-- The bytes of a request: one that posts a document, or one that fetches. -/
def requestBytes (target address : String) (posted : Option Json) : List UInt8 :=
  let body := ((posted.map Json.compact).map Utf8.encode).getD []
  let (method, announced) :=
    match posted with
    | some _ => ("POST", s!"content-length: {body.length}\r\n")
    | none => ("GET", "")
  Utf8.encode
      (s!"{method} {target} HTTP/1.1\r\nhost: {address}\r\ncontent-type: application/json\r\n"
        ++ s!"user-agent: {userAgent}\r\n{announced}\r\n")
    ++ body

/-- A client: the network, and how long dialling may take. -/
structure Client (m : Type → Type) where
  network : Network m
  dialTimeout : Duration

namespace Client

/-- The outcome of a call to a place, given the bytes that came back. -/
def judge {α : Type} (place : String) (read? : String → Option α) (bytes : List UInt8)
    : Except ClusterError α :=
  match Reply.ofBytes? bytes with
  | none => .error (.connection s!"{place}: no response")
  | some reply =>
      if reply.code.isSuccess then
        match (Utf8.decode? reply.body).bind read? with
        | some value => .ok value
        | none => .error (.codec "the body cannot be read")
      else
        .error (.connection s!"{place}: HTTP {reply.code.text}: {Utf8.lossy reply.body}")

variable {m : Type → Type} [Monad m]

/-- Calls a peer. The connection is made before the request is. -/
def call {α : Type} (c : Client m) (peer : Card) (route : Route) (posted : Option Json)
    (read? : String → Option α)
    : m (Except ClusterError α) := do
  let address := peer.identity
  let path := peer.route ++ route.path
  match ← c.network.dial c.dialTimeout address with
  | .error reason => return .error (.connection s!"{address}: {reason}")
  | .ok connection =>
      match (if isHeaderValue address then target? path else none) with
      | none => return .error (.codec "the target cannot be sent")
      | some target =>
          let bytes ← connection (requestBytes target address posted) Reply.isComplete
          return judge (address ++ path) read? bytes

/-- The reply in a body, which may be none. -/
def readReply? (text : String) : Option (Option Message) :=
  match Json.parse? text with
  | none => none
  | some .null => some none
  | some doc => (Message.ofJson? doc).map some

/-- Hands a message over to a peer. -/
def exchange (c : Client m) (peer : Card) (message : Message)
    : m (Except ClusterError (Option Message)) :=
  c.call peer .exchange (some message.toJson) readReply?

/-- Runs a batch on the scheduler of a peer. -/
def distribute (c : Client m) (peer : Card) (tasks : Batch) : m (Except ClusterError Batch) :=
  c.call peer .distribute (some (Batch.toJson tasks)) Batch.ofText?

/-- Has a peer spread a batch over its view. -/
def dispatch (c : Client m) (peer : Card) (tasks : Batch) : m (Except ClusterError Batch) :=
  c.call peer .dispatch (some (Batch.toJson tasks)) Batch.ofText?

/-- Fetches the view of a peer. -/
def digest (c : Client m) (peer : Card) : m (Except ClusterError Digest) :=
  c.call peer .digest none fun text => (Json.parse? text).bind Digest.ofJson?

end Client

end TaskFabric.Http
