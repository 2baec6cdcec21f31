import TaskFabric.Node

/-! Peers that answer from a script. Messages are answered from a list, in the order of the calls,
whoever is called; batches are answered by what is laid down for the identity of the peer. All calls
are recorded.
-/

namespace TaskFabric

/-- What a scripted peer does with a batch: it returns it with given results under shifted indices,
fails, or never answers.
-/
inductive Conduct where
  | returns (result : List Value) (shift : UInt64)
  | fails (cause : ClusterError)
  | hangs

/-- A call that was made. -/
inductive CallRecord where
  | exchange (peer : Card) (m : Message)
  | distribute (peer : Card) (indices : List UInt64)

/-- The answers still to be given, the conduct of the peers, and the calls so far. -/
structure Script where
  answers : List (Answer (Option Message))
  conduct : SortedMap String Conduct
  calls : List CallRecord

namespace Script

/-- What a call fails with that the script does not provide for. -/
def noAnswer (peer : Card) : ClusterError := .connection s!"{peer.identity}: connection refused"

/-- Answers a message with the next answer of the script. -/
def exchange (peer : Card) (m : Message) (disk : Disk) (s : Script)
    : Answer (Option Message) × Disk × Script :=
  let called := { s with calls := s.calls ++ [.exchange peer m] }
  match s.answers with
  | [] => (.failure (noAnswer peer), disk, called)
  | answer :: rest => (answer, disk, { called with answers := rest })

/-- Answers a batch as laid down for the peer. -/
def distribute (_ : Duration) (peer : Card) (tasks : Batch) (s : Script) : Answer Batch × Script :=
  let called := { s with calls := s.calls ++ [.distribute peer tasks.keys] }
  match s.conduct.get? peer.identity with
  | some (.returns result shift) =>
      let returned := tasks.toList.map fun (index, task) => (index + shift, { task with result })
      (.reply (SortedMap.ofList returned), called)
  | some (.fails e) => (.failure e, called)
  | some .hangs => (.silence, called)
  | none => (.failure (noAnswer peer), called)

/-- Calls that are answered from the script. -/
def transport : Transport Script := ⟨exchange, distribute⟩

end Script

end TaskFabric
