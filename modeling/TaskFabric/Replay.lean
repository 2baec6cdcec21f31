import TaskFabric.Transport

/-! Calls that are answered from a record. An operation on a node is carried out with the answers
that are known; if it makes a call whose answer is not known, that call is noted, and the operation
is carried out anew as soon as there is an answer. Once no call is noted, the operation was carried
out as if every peer had answered at once.
-/

namespace TaskFabric

/-- A call to a peer. -/
inductive PeerCall where
  | exchange (peer : Card) (m : Message)
  | distribute (limit : Duration) (peer : Card) (tasks : Batch)

/-- A call with its answer. -/
inductive AnsweredCall where
  | exchange (peer : Card) (m : Message) (answer : Answer (Option Message))
  | distribute (peer : Card) (indices : List UInt64) (answer : Answer Batch)

/-- The calls whose answers are known, in the order in which they were made, and the first one
whose answer is not.
-/
structure Replay where
  known : List AnsweredCall
  missing : Option PeerCall

namespace Replay

/-- The record of these calls. -/
def ofCalls (known : List AnsweredCall) : Replay := ⟨known, none⟩

/-- The record of an operation that was carried out with known calls, with an answer for the call
that was missing. Calls that were known but not made are left out.
-/
def extended (r : Replay) (known : List AnsweredCall) (answered : AnsweredCall)
    : List AnsweredCall :=
  known.take (known.length - r.known.length) ++ [answered]

/-- Answers a message from the record. Behind a call that has no answer there is silence. -/
def exchange (peer : Card) (m : Message) (disk : Disk) (r : Replay)
    : Answer (Option Message) × Disk × Replay :=
  match r.missing, r.known with
  | some _, _ => (.silence, disk, r)
  | none, .exchange peer' m' answer :: rest =>
      if peer = peer' ∧ m = m' then (answer, disk, { r with known := rest })
      else (.silence, disk, { r with missing := some (.exchange peer m) })
  | none, _ => (.silence, disk, { r with missing := some (.exchange peer m) })

/-- Answers a batch from the record. -/
def distribute (limit : Duration) (peer : Card) (tasks : Batch) (r : Replay)
    : Answer Batch × Replay :=
  match r.missing, r.known with
  | some _, _ => (.silence, r)
  | none, .distribute peer' indices answer :: rest =>
      if peer = peer' ∧ tasks.keys = indices then (answer, { r with known := rest })
      else (.silence, { r with missing := some (.distribute limit peer tasks) })
  | none, _ => (.silence, { r with missing := some (.distribute limit peer tasks) })

/-- Calls that are answered from a record. -/
def transport : Transport Replay := ⟨exchange, distribute⟩

end Replay

end TaskFabric
