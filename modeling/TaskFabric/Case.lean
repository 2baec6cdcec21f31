import TaskFabric.Disk
import TaskFabric.Json.Parser
import TaskFabric.Json.Text
import TaskFabric.Message.Wire

/-! Cases: what a node knows of its cluster, and the file that keeps it. Every change is made in
memory first and then written whole: to a sibling file, which then takes the place of the case file.
The gossip state machine is here too (`Case.exchange`): a message is refused, or its view is adopted
if its step allows that and it is newer, and the reply carries the view as it then stands.
-/

namespace TaskFabric

-----------------------------------------------------------------------------------------
-- The persisted state
-----------------------------------------------------------------------------------------

/-- The cluster that a node belongs to, its view, its own card, and the card of the coordinator. -/
structure CaseState where
  id : String
  digest : Digest
  own : Card
  coordinator : Card
deriving DecidableEq, Inhabited

namespace CaseState

/-- The names of the fields that a case file has besides those of its view. -/
def fieldNames : List String := ["caseid", "local", "coordinator"]

/-- The document of a state. -/
def toJson (s : CaseState) : Json :=
  .obj
    ([("caseid", .str s.id)] ++ s.digest.members
      ++ [("local", s.own.toJson), ("coordinator", s.coordinator.toJson)])

/-- The state of a document. -/
def ofJson? (doc : Json) : Option CaseState :=
  match doc.flattenedFields? fieldNames Digest.fieldNames with
  | some [id, own, coordinator, cards, timestamp] => do
      return {
        id := ← Json.required Json.text? id,
        digest := ← Digest.ofFields? cards timestamp,
        own := ← Json.required Card.ofJson? own,
        coordinator := ← Json.required Card.ofJson? coordinator }
  | _ => none

/-- The content of the case file. -/
def fileText (s : CaseState) : String := s.toJson.indented

/-- The state of the content of a case file. -/
def ofFileText? (text : String) : Option CaseState := (Json.parse? text).bind ofJson?

end CaseState

/-- A node's view of its cluster: the state, the file that keeps it, if one does, and the host
under which the node is reached from outside.
-/
structure Case where
  state : CaseState
  path : Option Path
  externalIp : Option String
deriving DecidableEq, Inhabited

namespace Case

-----------------------------------------------------------------------------------------
-- Persistence
-----------------------------------------------------------------------------------------

/-- Writes a state to a sibling of a file and lets the sibling take the place of the file. -/
def replaceFile (path : Path) (state : CaseState) (disk : Disk) : Except ClusterError Unit × Disk :=
  let sibling := path.withExtension "tmp"
  match disk.write sibling state.fileText with
  | (.error e, disk) => (.error (.persist s!"{sibling.text}: {e.message}"), disk)
  | (.ok (), disk) =>
      match disk.rename sibling path with
      | (.error e, disk) => (.error (.persist s!"{path.text}: {e.message}"), disk)
      | (.ok (), disk) => (.ok (), disk)

/-- Writes the state of a case to its file, if it has one. -/
def persist (c : Case) (disk : Disk) : Except ClusterError Unit × Disk :=
  match c.path with
  | some path => replaceFile path c.state disk
  | none => (.ok (), disk)

/-- A case without file: its view holds the node's own card and the seeds, and the node itself is
the coordinator. A seed with the node's own address replaces its card.
-/
def start (id : String) (own : Card) (seeds : List Card) (clock : Int64) : Case :=
  ⟨⟨id, Digest.ofCards (own :: seeds.map Card.asSeed) clock, own, own⟩, none, none⟩

/-- A case that is kept in a file, which is written at once. -/
def create (path : Path) (id : String) (own : Card) (seeds : List Card) (clock : Int64)
    (disk : Disk)
    : Except ClusterError Case × Disk :=
  let c := start id own seeds clock
  match replaceFile path c.state disk with
  | (.ok (), disk) => (.ok { c with path := some path }, disk)
  | (.error e, disk) => (.error e, disk)

/-- The case that a file keeps. -/
def load (path : Path) (disk : Disk) : Except ClusterError Case :=
  match disk.read path with
  | .error e => .error (.load s!"{path.text}: {e.message}")
  | .ok text =>
      match CaseState.ofFileText? text with
      | some state => .ok ⟨state, some path, none⟩
      | none => .error (.load s!"{path.text}: invalid case file")

/-- The same case, known from outside under a host. -/
def withExternalIp (c : Case) (ip : String) : Case := { c with externalIp := some ip }

-----------------------------------------------------------------------------------------
-- The view
-----------------------------------------------------------------------------------------

/-- The view. -/
def digest (c : Case) : Digest := c.state.digest

/-- The case with another view. -/
def withDigest (c : Case) (digest : Digest) : Case := { c with state := { c.state with digest } }

/-- The cards of the view in key order. -/
def peers (c : Case) : List Card := c.digest.peers

/-- Whether a card is the node itself. -/
def isLocal (c : Case) (card : Card) : Bool := c.state.own.sameAs card c.externalIp

/-- Adopts a newer view; answers whether it did. -/
def merge (c : Case) (other : Digest) (disk : Disk) : Except ClusterError Bool × Case × Disk :=
  if other.isNewerThan c.digest then
    let c := c.withDigest other
    match c.persist disk with
    | (.ok (), disk) => (.ok true, c, disk)
    | (.error e, disk) => (.error e, c, disk)
  else
    (.ok false, c, disk)

/-- Adds or replaces a card. -/
def insert (c : Case) (card : Card) (clock : Int64) (disk : Disk)
    : Except ClusterError Unit × Case × Disk :=
  let c := c.withDigest (c.digest.insert card clock)
  match c.persist disk with
  | (.ok (), disk) => (.ok (), c, disk)
  | (.error e, disk) => (.error e, c, disk)

/-- Marks the card under a key as not alive; answers whether it was alive. -/
def markDown (c : Case) (key : String) (clock : Int64) (disk : Disk)
    : Except ClusterError Bool × Case × Disk :=
  if c.digest.changesAlive key false then
    let c := c.withDigest (c.digest.setAlive key false clock)
    match c.persist disk with
    | (.ok (), disk) => (.ok true, c, disk)
    | (.error e, disk) => (.error e, c, disk)
  else
    (.ok false, c, disk)

/-- Removes the cards that are not alive and answers them. -/
def clean (c : Case) (clock : Int64) (disk : Disk)
    : Except ClusterError (List Card) × Case × Disk :=
  let removed := c.digest.dead
  if removed.isEmpty then
    (.ok [], c, disk)
  else
    let c := c.withDigest (c.digest.removeDead clock)
    match c.persist disk with
    | (.ok (), disk) => (.ok removed, c, disk)
    | (.error e, disk) => (.error e, c, disk)

-----------------------------------------------------------------------------------------
-- Gossip
-----------------------------------------------------------------------------------------

/-- A message of the node with its view. -/
def message (c : Case) (addressee : Card) (type : MessageType) : Message :=
  ⟨c.state.id, c.state.own, addressee, c.digest, .ok, type⟩

/-- Why a message is none of this node's business, if it is not. -/
def validate (c : Case) (m : Message) : Except ClusterError Unit :=
  if m.cluster ≠ c.state.id then .error (.clusterMismatch c.state.id m.cluster)
  else if c.isLocal m.addressee then .ok ()
  else .error (.collaboratorMismatch m.addressee.identity)

/-- The reply that refuses a message; it has the type of the message. -/
def reject (c : Case) (m : Message) (status : Status) : Message :=
  { c.message m.sender m.type with status }

/-- Handles a message. There is no reply to the last message of a round. A view that could be
adopted but not written stays adopted.
-/
def exchange (c : Case) (m : Message) (disk : Disk) : Option Message × Case × Disk :=
  match c.validate m with
  | .error e => (some (c.reject m (.ofError e)), c, disk)
  | .ok () =>
      match m.type.reply? with
      | none =>
          match m.type with
          | .unknown code _ =>
              (some (c.reject m (.ofError (.unknownMessageType code))), c, disk)
          | _ => (none, c, disk)
      | some reply =>
          -- A view that cannot be written is adopted all the same, and the reply carries it.
          if m.type.merges then
            let (_, c, disk) := c.merge m.digest disk
            (some (c.message m.sender reply), c, disk)
          else
            (some (c.message m.sender reply), c, disk)

end Case

end TaskFabric
