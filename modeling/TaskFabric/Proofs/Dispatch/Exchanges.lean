import TaskFabric.Proofs.Dispatch.Interleaving

/-! What a node exchanges with its surroundings while it spreads a batch. A call is answered by the
network as it is at that time, and a submission by the scheduler as it is then; a network that keeps
the calls that come to it shows which ones were made.
-/

namespace TaskFabric

-----------------------------------------------------------------------------------------
-- Exchanges
-----------------------------------------------------------------------------------------

namespace Dispatch

/-- A call to a peer with its answer, or a submission to the scheduler of the node with its outcome.
-/
inductive Exchange where
  | call (peer : Card) (batch : Batch) (answer : Answer Batch)
  | submission (task : Task) (outcome : Except SchedulerError Completion)

/-- What passes between an execution and its surroundings in an exchange. -/
def Exchange.acts : Exchange → List Act
  | .call peer batch answer => [.call peer batch, .answer answer]
  | .submission task outcome => [.submit task, .outcome outcome]

/-- Exchanges in their order, each with the index whose execution makes it. -/
abbrev Log := List (UInt64 × Exchange)

namespace Log

/-- The events of exchanges each of which is over before the next one begins. -/
def events (made : Log) : List Event :=
  made.flatMap fun entry => entry.2.acts.map (.act entry.1)

/-- The calls among exchanges, with their answers. -/
def calls (made : Log) : List (Card × Batch × Answer Batch) :=
  made.filterMap fun entry =>
    match entry.2 with
    | .call peer batch answer => some (peer, batch, answer)
    | .submission _ _ => none

theorem events_append (made later : Log)
    : events (made ++ later) = events made ++ events later := by
  simp [events, List.flatMap_append]

theorem mem_events_iff {made : Log} {index : UInt64} {act : Act}
    : .act index act ∈ made.events
      ↔ ∃ exchange, (index, exchange) ∈ made ∧ act ∈ exchange.acts := by
  simp only [events, List.mem_flatMap, List.mem_map, Event.act.injEq, Prod.exists]
  constructor
  · rintro ⟨other, exchange, member, _, passed, rfl, rfl⟩
    exact ⟨exchange, member, passed⟩
  · rintro ⟨exchange, member, passed⟩
    exact ⟨index, exchange, member, act, passed, rfl, rfl⟩

end Log

end Dispatch

namespace Executor

open Dispatch (Log)

variable {σ : Type}

/-- The executor behind some exchanges. -/
inductive Exchanges (t : Transport σ) (limit : Duration) : Executor σ → Log → Executor σ → Prop
  | none {e} : Exchanges t limit e [] e
  | call {e index peer batch answer network made after}
    (answered : t.distribute limit peer batch e.network = (answer, network))
    (later : Exchanges t limit { e with network } made after)
    : Exchanges t limit e ((index, .call peer batch answer) :: made) after
  | submission {e index task outcome scheduler made after}
    (settled : e.scheduler.done task = (outcome.mapError .refused, scheduler))
    (later : Exchanges t limit { e with scheduler } made after)
    : Exchanges t limit e ((index, .submission task outcome) :: made) after

variable {t : Transport σ} {limit : Duration} {e middle after : Executor σ} {made later : Log}

theorem Exchanges.trans (first : e.Exchanges t limit made middle)
    (second : middle.Exchanges t limit later after)
    : e.Exchanges t limit (made ++ later) after := by
  induction first with
  | none => exact second
  | call answered _ ih => exact .call answered (ih second)
  | submission settled _ ih => exact .submission settled (ih second)

end Executor

-----------------------------------------------------------------------------------------
-- Calls
-----------------------------------------------------------------------------------------

/-- A network that keeps all batches that it is to hand over, with their peers and what came of the
calls, in the order of the calls.
-/
def Transport.kept {σ : Type} (t : Transport σ)
    : Transport (σ × List (Card × Batch × Answer Batch)) where
  exchange peer m disk network :=
    let (answer, disk, after) := t.exchange peer m disk network.1
    (answer, disk, after, network.2)
  distribute limit peer tasks network :=
    let (answer, after) := t.distribute limit peer tasks network.1
    (answer, after, network.2 ++ [(peer, tasks, answer)])

namespace Executor

open Dispatch (Log)

variable {σ : Type} {t : Transport σ} {limit : Duration}

/-- The calls that are made while a batch is spread. -/
def calls (t : Transport σ) (limit : Duration) (c : Case) (tasks : Batch) (e : Executor σ)
    : List (Card × Batch × Answer Batch) :=
  let kept : Executor (σ × List (Card × Batch × Answer Batch)) := ⟨e.scheduler, e.network, []⟩
  (kept.distribute t.kept limit c tasks).2.network.2

/-- The executor without the calls that its network keeps. -/
def plain (e : Executor (σ × List (Card × Batch × Answer Batch))) : Executor σ :=
  ⟨e.scheduler, e.network.1⟩

variable {e after : Executor (σ × List (Card × Batch × Answer Batch))} {made : Log}

/-- To keep the calls changes nothing, and those that are kept are the calls that are made. -/
theorem Exchanges.plain (exchanges : e.Exchanges t.kept limit made after)
    : e.plain.Exchanges t limit made after.plain
      ∧ after.network.2 = e.network.2 ++ made.calls := by
  induction exchanges with
  | none => exact ⟨.none, by simp [Log.calls]⟩
  | @call e index peer batch answer network made after answered later ih =>
      obtain ⟨known, kept⟩ := ih
      rcases called : t.distribute limit peer batch e.network.1 with ⟨given, reached⟩
      simp only [Transport.kept, called, Prod.mk.injEq] at answered
      obtain ⟨rfl, rfl⟩ := answered
      refine ⟨.call called known, ?_⟩
      simpa [Log.calls] using kept
  | submission settled later ih =>
      obtain ⟨known, kept⟩ := ih
      refine ⟨.submission settled known, ?_⟩
      simpa [Log.calls] using kept

theorem execute_plain (place : Placement) (index : UInt64) (task : Task)
    (e : Executor (σ × List (Card × Batch × Answer Batch)))
    : e.plain.execute t limit place index task
      = Prod.map id plain (e.execute t.kept limit place index task) := by
  cases place with
  | nowhere => rfl
  | here => rfl
  | peer card =>
      rcases called : t.distribute limit card (SortedMap.ofList [(index, task)]) e.network.1
        with ⟨answer, network⟩
      cases answer with
      | silence | failure cause =>
          simp only [execute, Transport.kept, plain, called]
          rfl
      | reply batch =>
          simp only [execute, Transport.kept, plain, called]
          split <;> rfl

theorem executeEach_plain (place : UInt64 → Task → Placement) (entries : List (UInt64 × Task))
    (e : Executor (σ × List (Card × Batch × Answer Batch)))
    : e.plain.executeEach t limit place entries
      = Prod.map id (Prod.map id plain) (e.executeEach t.kept limit place entries) := by
  induction entries generalizing e with
  | nil => rfl
  | cons entry rest ih =>
      obtain ⟨index, task⟩ := entry
      simp only [executeEach, execute_plain, Prod.map_fst, Prod.map_snd, id, ih]
      split <;> rfl

theorem rerunEach_plain (entries : List (UInt64 × Task))
    (e : Executor (σ × List (Card × Batch × Answer Batch)))
    : e.plain.rerunEach entries = Prod.map id plain (e.rerunEach entries) := by
  induction entries generalizing e with
  | nil => rfl
  | cons entry rest ih =>
      obtain ⟨index, task⟩ := entry
      have ran : e.plain.runHere task = Prod.map id plain (e.runHere task) := rfl
      simp only [rerunEach, ran, Prod.map_fst, Prod.map_snd, id, ih]
      split <;> rfl

/-- Spreading a batch with a network that keeps the calls is spreading it. -/
theorem distribute_plain (c : Case) (tasks : Batch)
    (e : Executor (σ × List (Card × Batch × Answer Batch)))
    : e.plain.distribute t limit c tasks
      = Prod.map id plain (e.distribute t.kept limit c tasks) := by
  unfold distribute
  simp only
  split
  · rfl
  · simp only [executeEach_plain, rerunEach_plain, Prod.map_fst, Prod.map_snd, id]
    rfl

end Executor

end TaskFabric
