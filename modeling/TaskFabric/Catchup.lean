import TaskFabric.Config
import TaskFabric.Transport

/-! Gossip rounds and reaping. A catchup goes through a bounded number of peers that are alive,
starting one further each time, and has one round of four messages with each. A peer that cannot be
reached, or does not answer in time, is marked down; one that answers amiss is left as it is.
-/

namespace TaskFabric

/-- How many peers a catchup contacts, how often gossip and reaping run, and how long a call to a
peer may take.
-/
structure Knobs where
  fanout : UInt64
  synInterval : Duration
  expiryInterval : Duration
  remoteTimeout : Duration
deriving DecidableEq, Inhabited

/-- The knobs that a configuration sets. -/
def Config.knobs (c : Config) : Knobs :=
  ⟨c.gossip.fanout, c.synInterval, c.expiryInterval, c.remoteTimeout⟩

/-- What a catchup did: how many peers it contacted, how many views it adopted, how many peers it
marked down, and how many rounds failed otherwise.
-/
structure CatchupReport where
  contacted : Nat
  merged : Nat
  markedDown : Nat
  failed : Nat
deriving DecidableEq, Inhabited

namespace CatchupReport

/-- Nobody was contacted. -/
def empty : CatchupReport := ⟨0, 0, 0, 0⟩

/-- The document of a report. -/
def toJson (r : CatchupReport) : Json :=
  .obj
    [("contacted", .ofUInt64 r.contacted.toUInt64),
      ("merged", .ofUInt64 r.merged.toUInt64),
      ("marked_down", .ofUInt64 r.markedDown.toUInt64),
      ("failed", .ofUInt64 r.failed.toUInt64)]

end CatchupReport

/-- A node among its peers: its case, the disk, the network, and the nanoseconds that it has spent
waiting for answers that did not come.
-/
structure Site (σ : Type) where
  case : Case
  disk : Disk
  network : σ
  waited : Nat

namespace Site

variable {σ : Type}

-----------------------------------------------------------------------------------------
-- Steps of a round
-----------------------------------------------------------------------------------------

/-- Hands a message over to a peer and waits for its reply. -/
def call (t : Transport σ) (knobs : Knobs) (peer : Card) (m : Message) (s : Site σ)
    : Except ClusterError (Option Message) × Site σ :=
  match t.exchange peer m s.disk s.network with
  | (.reply reply, disk, network) => (.ok reply, { s with disk, network })
  | (.failure e, disk, network) => (.error e, { s with disk, network })
  | (.silence, disk, network) =>
      (.error (.connection s!"{peer.identity}: exchange timed out"),
        { s with disk, network, waited := s.waited + knobs.remoteTimeout.toNanos })

/-- Handles a message as the node itself. -/
def handle (m : Message) (s : Site σ) : Option Message × Site σ :=
  let (reply, case, disk) := s.case.exchange m s.disk
  (reply, { s with case, disk })

/-- Marks a peer down. -/
def markDown (key : String) (clock : Int64) (s : Site σ) : Except ClusterError Bool × Site σ :=
  let (result, case, disk) := s.case.markDown key clock s.disk
  (result, { s with case, disk })

/-- Removes the peers that are not alive. -/
def clean (clock : Int64) (s : Site σ) : Except ClusterError (List Card) × Site σ :=
  let (result, case, disk) := s.case.clean clock s.disk
  (result, { s with case, disk })

-----------------------------------------------------------------------------------------
-- Rounds
-----------------------------------------------------------------------------------------

/-- The second half of a round: the third message goes out, and a last one may come back. -/
def finishRound (t : Transport σ) (knobs : Knobs) (peer : Card) (ack2 : Message) (merged : Bool)
    (s : Site σ)
    : Except ClusterError Bool × Site σ :=
  match s.call t knobs peer ack2 with
  | (.error e, s) => (.error e, s)
  | (.ok none, s) => (.ok merged, s)
  | (.ok (some ack3), s) =>
      match ack3.checkStatus with
      | .error e => (.error e, s)
      | .ok () => (.ok merged, (s.handle ack3).2)

/-- One round with a peer; answers whether the timestamp of the view changed while the first reply
was handled.
-/
def gossipWith (t : Transport σ) (knobs : Knobs) (peer : Card) (s : Site σ)
    : Except ClusterError Bool × Site σ :=
  let before := s.case.digest.timestamp
  match s.call t knobs peer (s.case.message peer .sync) with
  | (.error e, s) => (.error e, s)
  | (.ok none, s) => (.error .roundAborted, s)
  | (.ok (some ack), s) =>
      match ack.checkStatus with
      | .error e => (.error e, s)
      | .ok () =>
          if ack.type ≠ .ack then
            (.error (.unknownMessageType ack.type.code), s)
          else
            match s.handle ack with
            | (none, s) => (.error .roundAborted, s)
            | (some ack2, s) =>
                match ack2.checkStatus with
                | .error e => (.error e, s)
                | .ok () =>
                    s.finishRound t knobs peer ack2 (s.case.digest.timestamp != before)

/-- A round with one of the peers of a catchup, entered in the report. -/
def contact (t : Transport σ) (knobs : Knobs) (clock : Int64) (report : CatchupReport) (peer : Card)
    (s : Site σ)
    : CatchupReport × Site σ :=
  let report := { report with contacted := report.contacted + 1 }
  match s.gossipWith t knobs peer with
  | (.ok true, s) => ({ report with merged := report.merged + 1 }, s)
  | (.ok false, s) => (report, s)
  | (.error e, s) =>
      -- Only a peer that cannot be reached is marked down; an answer proves that it lives.
      if e.isConnection then
        match s.markDown peer.identity clock with
        | (.ok _, s) => ({ report with markedDown := report.markedDown + 1 }, s)
        | (.error _, s) => (report, s)
      else
        ({ report with failed := report.failed + 1 }, s)

/-- Rounds with peers, one after another. -/
def contactEach (t : Transport σ) (knobs : Knobs) (clock : Int64)
    : List Card → CatchupReport → Site σ → CatchupReport × Site σ
  | [], report, s => (report, s)
  | peer :: rest, report, s =>
      let (report, s) := s.contact t knobs clock report peer
      contactEach t knobs clock rest report s

end Site

namespace Case

/-- The peers that can be contacted: alive and not the node itself. -/
def eligible (c : Case) : List Card := c.peers.filter fun card => card.alive && !c.isLocal card

/-- The peers of a catchup: as many as the fan-out says, from a place that moves on by one with
each round, going back to the first behind the last.
-/
def contacts (c : Case) (fanout round : UInt64) : List Card :=
  (c.eligible.rotateLeft (round.toNat % c.eligible.length)).take fanout.toNat

end Case

namespace Site

variable {σ : Type}

/-- Whether a catchup contacts anyone. -/
def gossips (knobs : Knobs) (s : Site σ) : Bool := knobs.fanout != 0 && !s.case.eligible.isEmpty

/-- One catchup. The counter of rounds moves on only if someone is contacted. -/
def catchup (t : Transport σ) (knobs : Knobs) (clock : Int64) (round : UInt64) (s : Site σ)
    : CatchupReport × UInt64 × Site σ :=
  if s.gossips knobs then
    let (report, after) :=
      contactEach t knobs clock (s.case.contacts knobs.fanout round) .empty s
    (report, round + 1, after)
  else
    (.empty, round, s)

end Site

end TaskFabric
