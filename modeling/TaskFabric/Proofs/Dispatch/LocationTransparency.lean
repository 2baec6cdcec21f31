import TaskFabric.Handler.Builtin
import TaskFabric.Node
import TaskFabric.Loopback
import TaskFabric.Proofs.Dispatch.Completeness
import TaskFabric.Proofs.LoopbackRoutes
import TaskFabric.Proofs.Scheduler.Completion

/-! Where a task runs does not show. If all nodes have the same handlers, every handler ends by
itself, and every scheduler serves, then each task of a batch comes back as if it had been executed
once, alone, whatever the view and whichever peers answer.
-/

namespace TaskFabric.Dispatch

open Scheduler (Serving Changes)

variable {registry : Registry}

-----------------------------------------------------------------------------------------
-- One execution
-----------------------------------------------------------------------------------------

/-- What becomes of a task that is executed once with the handlers of one registry. A task that
names no handler is not executed, and one whose handler is not registered stays as it is.
-/
def alone (registry : Registry) (task : Task) : Task :=
  if task.consumable.isEmpty then
    task
  else
    match registry.execute task with
    | .ok (_, finished) => finished
    | .error _ => task

theorem alone_of_unnamed {task : Task} (unnamed : task.consumable.isEmpty = true)
    : alone registry task = task := by
  simp [alone, unnamed]

theorem alone_of_named {task : Task} (named : task.consumable.isEmpty = false)
    : alone registry task = (registry.answer task).task := by
  simp only [alone, named, Bool.false_eq_true, if_false, Registry.execute, Registry.answer,
    Registry.complete]
  cases registry.get? task.consumable <;> rfl

/-- What a peer with the same handlers answers: its scheduler ran the batch, or the call failed or
was not answered in time.
-/
inductive PeerAnswer (registry : Registry) (batch : Batch) : Answer Batch → Prop
  | served {s : Scheduler} {result} (serving : Serving registry s)
    (ran : (s.runBatch batch).1 = some result)
    : PeerAnswer registry batch (.reply result)
  | failed (cause : ClusterError) : PeerAnswer registry batch (.failure cause)
  | late : PeerAnswer registry batch .silence

/-- What a task comes to on the scheduler of the node: the handler finishes before the wait ends,
whatever else has happened to the scheduler in between.
-/
inductive OwnOutcome (registry : Registry) (task : Task) : Except SchedulerError Completion → Prop
  | inTime {s queued later : Scheduler} {id : Nat} (serving : Serving registry s)
    (accepted : s.enqueueOne task = .ok (id, queued)) (meanwhile : Changes queued later)
    (isOpen : later.lanes.closed = false) (unread : (later.future id).isClosed = false)
    (finished : (later.future id).delivery ≠ .pending)
    : OwnOutcome registry task (later.wait id).1

/-- What a peer brings back under an index is the task as if it had been executed alone. -/
theorem PeerAnswer.peerResult?_eq (prompt : registry.Prompt) {index : UInt64} {task : Task}
    {answer : Answer Batch}
    (given : PeerAnswer registry (SortedMap.ofList [(index, task)]) answer) {result : Task}
    (found : peerResult? index answer = some result)
    : result = (registry.answer task).task := by
  cases given with
  | served serving ran =>
      rw [(serving.runBatch prompt _).1, Option.some.injEq] at ran
      subst ran
      simp only [peerResult?, SortedMap.get?_map, SortedMap.get?_ofList_singleton, Option.map_some,
        Option.some.injEq] at found
      exact found.symm
  | failed _ | late => simp [peerResult?] at found

theorem OwnOutcome.eq_ok {task : Task} {outcome : Except SchedulerError Completion}
    (own : OwnOutcome registry task outcome)
    : outcome = .ok (registry.answer task) := by
  cases own with
  | @inTime s queued later id serving entered meanwhile isOpen unread finished =>
      obtain ⟨sound, _⟩ := serving.reached.sound_and_vigilant
      obtain ⟨accepted, _⟩ := Scheduler.accepted_enqueueOne entered
      have kept := accepted.changes (sound.change (.enqueue entered)) meanwhile
      have reached := serving.reached.changes (.head (.enqueue entered) meanwhile)
      rw [kept.wait_eq_ok isOpen unread finished, reached.registry_eq,
        Registry.completion_eq_answer]

theorem exists_ownOutcome {s : Scheduler} (serving : Serving registry s) (prompt : registry.Prompt)
    (task : Task)
    : OwnOutcome registry task (.ok (registry.answer task)) := by
  obtain ⟨id, queued, entered⟩ := Scheduler.exists_enqueueOne serving.isOpen task
  have same := Scheduler.sameSetting_enqueueOne entered
  have waiting := serving.keep (.single (.enqueue entered)) same
  obtain ⟨accepted, unread⟩ := Scheduler.accepted_enqueueOne entered
  have ready := waiting.ready_settle prompt accepted unread
  have settles := Scheduler.changes_settle queued
  have settled := waiting.keep settles (Scheduler.sameSetting_settle queued)
  have delivered : (queued.settle.future id).delivery ≠ .pending := by simp [ready.delivered]
  rw [← ready.wait]
  exact .inTime serving entered settles settled.isOpen ready.unread delivered

theorem bounded_of_serving {s : Scheduler} (serving : Serving registry s) (c : Case)
    (tasks : Batch)
    : (Job.ofCase c tasks s.expire).Bounded := by
  intro _ task _
  obtain ⟨limit, _, known, _⟩ := serving.punctual task.type
  simp [Job.ofCase, known]

-----------------------------------------------------------------------------------------
-- Executions side by side
-----------------------------------------------------------------------------------------

/-- A course of events in which all nodes have the same handlers. -/
structure Uniform (registry : Registry) (tasks : Batch) (trace : List Event) : Prop where
  answers
    : ∀ index task answer,
        tasks.get? index = some task
        → .act index (.answer answer) ∈ trace
        → PeerAnswer registry (SortedMap.ofList [(index, task)]) answer
  outcomes
    : ∀ index task outcome,
        tasks.get? index = some task
        → .act index (.outcome outcome) ∈ trace
        → OwnOutcome registry task outcome

theorem place_eq_nowhere_iff {c : Case} {peers : List Card} {index : UInt64} {task : Task}
    : Placement.place c peers index task = .nowhere ↔ task.consumable.isEmpty = true := by
  unfold Placement.place
  split
  · next unnamed => simp [unnamed]
  · next named =>
      constructor
      · intro nowhere
        split at nowhere
        · cases nowhere
        · split at nowhere <;> cases nowhere
      · intro unnamed
        exact absurd unnamed named

theorem named_of_place {c : Case} {peers : List Card} {index : UInt64} {task : Task}
    {place : Placement} (placed : Placement.place c peers index task = place)
    (somewhere : place ≠ .nowhere)
    : task.consumable.isEmpty = false := by
  rw [← placed, ne_eq, place_eq_nowhere_iff, Bool.not_eq_true] at somewhere
  exact somewhere

/-- An execution among uniform nodes concludes with the task as if it had been executed alone, by
cases on how it came to its result.
-/
theorem Concluded.eq_alone (prompt : registry.Prompt) {c : Case} {peers : List Card}
    {index : UInt64} {task result : Task} {acts : List Act}
    (concluded : Concluded index task (Placement.place c peers index task) acts result)
    (answers
      : ∀ answer, .answer answer ∈ acts
        → PeerAnswer registry (SortedMap.ofList [(index, task)]) answer)
    (outcomes : ∀ outcome, .outcome outcome ∈ acts → OwnOutcome registry task outcome)
    : result = alone registry task := by
  generalize placed : Placement.place c peers index task = place at concluded
  cases concluded with
  | untouched => exact (alone_of_unnamed (place_eq_nowhere_iff.mp placed)).symm
  | returned found =>
      rw [alone_of_named (named_of_place placed (by simp))]
      exact (answers _ (by simp)).peerResult?_eq prompt found
  | @own _ before outcome result approach own =>
      rw [alone_of_named (named_of_place placed approach.sparing.2.2.2.2)]
      rw [(outcomes outcome (by simp)).eq_ok] at own
      exact (Option.some.inj own).symm

theorem gathered_of_uniform (prompt : registry.Prompt) {c : Case} {tasks : Batch}
    {expire : Duration} {trace : List Event} {s : State}
    (accounted : Accounted (Job.ofCase c tasks expire) trace s) (stopped : s.collecting = false)
    (uniform : Uniform registry tasks trace)
    : s.gathered = tasks.map fun _ task => alone registry task := by
  apply SortedMap.ext_get?
  intro index
  rw [SortedMap.get?_map]
  cases listed : tasks.get? index with
  | none =>
      rw [Option.map_none, SortedMap.get?_eq_none_iff, accounted.complete stopped]
      exact SortedMap.get?_eq_none_iff.mp listed
  | some task =>
      obtain ⟨result, found, concluded⟩ := accounted.concluded_of_stopped stopped listed
      rw [found, Option.map_some]
      refine congrArg some (concluded.eq_alone prompt ?_ ?_)
      · intro answer given
        exact uniform.answers index task answer listed (mem_acts_iff.mp given)
      · intro outcome given
        exact uniform.outcomes index task outcome listed (mem_acts_iff.mp given)

/-- As long as the collector goes on, uniform nodes can go on as such. Witness: no peer answers in
time, and the scheduler of the node completes what it is given.
-/
theorem Uniform.exists_step {job : Job} {trace : List Event} {s : State}
    (uniform : Uniform registry job.tasks trace) (prompt : registry.Prompt) {own : Scheduler}
    (serving : Serving registry own) (collecting : s.collecting = true)
    : ∃ event next, Step job s event next ∧ Uniform registry job.tasks (trace ++ [event]) := by
  obtain ⟨event, next, step, plain⟩ := Dispatch.exists_step job collecting fun index =>
    .ok (registry.answer ((job.tasks.get? index).getD .empty))
  refine ⟨event, next, step, ?_, ?_⟩
  · intro index task answer listed member
    rcases List.mem_append.mp member with before | new
    · exact uniform.answers index task answer listed before
    · rw [← List.mem_singleton.mp new] at plain
      exact plain ▸ .late
  · intro index task outcome listed member
    rcases List.mem_append.mp member with before | new
    · exact uniform.outcomes index task outcome listed before
    · rw [← List.mem_singleton.mp new] at plain
      simp only [Event.Plain, listed, Option.getD_some] at plain
      exact plain ▸ exists_ownOutcome serving prompt task

-----------------------------------------------------------------------------------------
-- Spreading a batch
-----------------------------------------------------------------------------------------

/-- A network whose peers have the same handlers as long as it is in a certain state: a call is
answered with what a scheduler that serves makes of the batch, fails, or is not answered in time,
and leaves the network in such a state.
-/
structure PeersServe {σ : Type} (registry : Registry) (t : Transport σ) (serves : σ → Prop)
    : Prop where
  answers
    : ∀ {network},
        serves network
        → ∀ limit card batch, PeerAnswer registry batch (t.distribute limit card batch network).1
  keeps
    : ∀ {network},
        serves network → ∀ limit card batch, serves (t.distribute limit card batch network).2

variable {σ : Type} {t : Transport σ} {serves : σ → Prop}

/-- Exchanges at a node with such a network: the answers are those of peers with the same handlers,
and the outcomes are there in time. By induction on the exchanges, each of which leaves the
scheduler of the node and the network serving.
-/
theorem PeersServe.exchanges (peers : PeersServe registry t serves) (prompt : registry.Prompt)
    {limit : Duration} {e after : Executor σ} {made : Log}
    (exchanges : e.Exchanges t limit made after) (own : Serving registry e.scheduler)
    (others : serves e.network)
    : (∀ index card batch answer,
        (index, .call card batch answer) ∈ made → PeerAnswer registry batch answer)
      ∧ (∀ index task outcome,
          (index, .submission task outcome) ∈ made → OwnOutcome registry task outcome)
      ∧ Serving registry after.scheduler
      ∧ serves after.network := by
  induction exchanges with
  | none => exact ⟨by simp, by simp, own, others⟩
  | @call e index card batch answer network made after answered _ ih =>
      have given := peers.answers others limit card batch
      have still := peers.keeps others limit card batch
      rw [answered] at given still
      obtain ⟨answers, outcomes, serving, kept⟩ := ih own still
      refine ⟨?_, by simpa using outcomes, serving, kept⟩
      intro other peer handed received member
      rcases List.mem_cons.mp member with same | later
      · cases same
        exact given
      · exact answers other peer handed received later
  | @submission e index task outcome scheduler made after settled _ ih =>
      obtain ⟨completed, still⟩ := own.done prompt task
      rw [settled] at completed still
      have answer : outcome = .ok (registry.answer task) := by
        cases outcome with
        | ok completion => exact congrArg Except.ok (Except.ok.inj completed)
        | error cause => cases completed
      obtain ⟨answers, outcomes, serving, kept⟩ := ih still others
      refine ⟨by simpa using answers, ?_, serving, kept⟩
      intro other submitted ended member
      rcases List.mem_cons.mp member with same | later
      · cases same
        exact answer ▸ exists_ownOutcome own prompt task
      · exact outcomes other submitted ended later

/-- A run that is made of such exchanges is a course of events among nodes with the same handlers.
-/
theorem uniform_of_exchanges {job : Job} {made : Log} {collected : List Event} {s : State}
    (accounted : Accounted job (made.events ++ collected) s)
    (quiet : ∀ index, acts index collected = [])
    (answers
      : ∀ index card batch answer,
          (index, .call card batch answer) ∈ made → PeerAnswer registry batch answer)
    (outcomes
      : ∀ index task outcome,
          (index, .submission task outcome) ∈ made → OwnOutcome registry task outcome)
    : Uniform registry job.tasks (made.events ++ collected) := by
  have exchanged {index : UInt64} {act : Act}
      (member : .act index act ∈ made.events ++ collected)
      : ∃ exchange, (index, exchange) ∈ made ∧ act ∈ exchange.acts := by
    rcases List.mem_append.mp member with early | late
    · exact Log.mem_events_iff.mp early
    · have act := mem_acts_iff.mpr late
      simp [quiet index] at act
  have happened {index : UInt64} {exchange : Exchange} (member : (index, exchange) ∈ made)
      {act : Act} (passed : act ∈ exchange.acts)
      : act ∈ acts index (made.events ++ collected) :=
    mem_acts_iff.mpr (List.mem_append_left _ (Log.mem_events_iff.mpr ⟨exchange, member, passed⟩))
  refine ⟨?_, ?_⟩
  · intro index task answer listed member
    obtain ⟨exchange, known, passed⟩ := exchanged member
    cases exchange with
    | call card batch given =>
        have same : answer = given := by simpa [Exchange.acts] using passed
        subst same
        have sparing := accounted.sparing listed
        obtain ⟨_, rfl⟩ :=
          sparing.called card batch (happened known (by simp [Exchange.acts]))
        exact answers index card _ answer known
    | submission _ _ => simp [Exchange.acts] at passed
  · intro index task outcome listed member
    obtain ⟨exchange, known, passed⟩ := exchanged member
    cases exchange with
    | call _ _ _ => simp [Exchange.acts] at passed
    | submission submitted ended =>
        have same : outcome = ended := by simpa [Exchange.acts] using passed
        subst same
        have sparing := accounted.sparing listed
        obtain rfl := sparing.submitted submitted (happened known (by simp [Exchange.acts]))
        exact outcomes index submitted outcome known

/-- A batch that is spread among peers with the same handlers comes back as if every task had been
executed alone, and all schedulers go on serving.
-/
theorem PeersServe.distribute (peers : PeersServe registry t serves) (prompt : registry.Prompt)
    (limit : Duration) {c : Case} (view : c.peers ≠ []) (tasks : Batch) {e : Executor σ}
    (own : Serving registry e.scheduler) (others : serves e.network)
    : (e.distribute t limit c tasks).1 = .ok (tasks.map fun _ task => alone registry task)
      ∧ Serving registry (e.distribute t limit c tasks).2.scheduler
      ∧ serves (e.distribute t limit c tasks).2.network := by
  have bounded := bounded_of_serving own c tasks
  obtain ⟨made, after, collected, s, exchanges, _, run, quiet, stopped, came⟩ :=
    exists_run_of_distribute t limit e view bounded
  obtain ⟨answers, outcomes, serving, kept⟩ := peers.exchanges prompt exchanges own others
  have accounted := run.accounted bounded
  have uniform := uniform_of_exchanges accounted quiet answers outcomes
  rw [came]
  exact ⟨congrArg Except.ok (gathered_of_uniform prompt accounted stopped uniform), serving, kept⟩

-----------------------------------------------------------------------------------------
-- Nodes of one process
-----------------------------------------------------------------------------------------

theorem mem_of_route {l : Loopback} {card : Card} {number : Nat} {node : Node}
    (routed : l.route card = .ok (number, node))
    : node ∈ l.nodes := by
  obtain ⟨_, known⟩ := Loopback.route_eq_ok_iff.mp routed
  exact List.mem_of_getElem? known

/-- Calls within the process are answered by peers with the same handlers, or not at all, as long as
the schedulers of all nodes serve.
-/
theorem peersServe_loopback (prompt : registry.Prompt)
    : PeersServe registry Loopback.transport fun l =>
        ∀ node ∈ l.nodes, Serving registry node.scheduler := by
  have both {l : Loopback} (others : ∀ node ∈ l.nodes, Serving registry node.scheduler)
      (limit : Duration) (card : Card) (batch : Batch)
      : PeerAnswer registry batch (l.distribute limit card batch).1
        ∧ ∀ node ∈ (l.distribute limit card batch).2.nodes, Serving registry node.scheduler := by
    cases routed : l.route card with
    | error cause =>
        simp only [Loopback.distribute, routed]
        exact ⟨.failed cause, others⟩
    | ok target =>
        obtain ⟨number, node⟩ := target
        have serving := others node (mem_of_route routed)
        obtain ⟨completed, after⟩ := serving.runBatch prompt batch
        have stillServing : ∀ other ∈ (l.setNode number
            { node with scheduler := (node.scheduler.runBatch batch).2 }).nodes,
            Serving registry other.scheduler := by
          intro other member
          rcases List.mem_or_eq_of_mem_set member with known | rfl
          · exact others other known
          · exact after
        simp only [Loopback.distribute, routed, completed]
        split
        · exact ⟨.late, stillServing⟩
        · exact ⟨.served serving completed, stillServing⟩
  exact
    ⟨fun others limit card batch => (both others limit card batch).1,
      fun others limit card batch => (both others limit card batch).2⟩

-----------------------------------------------------------------------------------------
-- Location transparency
-----------------------------------------------------------------------------------------

/-- Where a task runs does not show. With the same handlers at all nodes, each of which ends by
itself, and with schedulers that serve, a batch comes back with every task as if it had been
executed once, alone: in every run in which the peers answer with what their schedulers made of the
batch, fail, or answer too late, and the node's own completions are there in time, whatever the
view and the order of events; such runs can go on until they have stopped. Spreading a batch gives
that result with any network whose peers answer so, and it leaves the scheduler of the node and the
peers serving; the nodes of a process are such peers of each other. So two nodes with different
views and different peers give equal results.
-/
theorem location_transparency {registry : Registry} (prompt : registry.Prompt) (tasks : Batch)
    : (∀ (c : Case) (own : Scheduler) (trace : List Event) (s : State),
        Serving registry own
        → Run (Job.ofCase c tasks own.expire) trace s
        → Uniform registry tasks trace
        → (s.collecting = false → s.gathered = tasks.map fun _ task => alone registry task)
          ∧ (s.collecting = true
            → ∃ event next,
                Step (Job.ofCase c tasks own.expire) s event next
                ∧ Uniform registry tasks (trace ++ [event])))
      ∧ (∀ (σ : Type) (t : Transport σ) (serves : σ → Prop) (h : Host σ),
          PeersServe registry t serves
          → h.node.case.peers ≠ []
          → Serving registry h.node.scheduler
          → serves h.network
          → (h.distribute t tasks).1 = .ok (tasks.map fun _ task => alone registry task)
            ∧ Serving registry (h.distribute t tasks).2.node.scheduler
            ∧ serves (h.distribute t tasks).2.network)
      ∧ (∀ h : Host Loopback,
          h.node.case.peers ≠ []
          → Serving registry h.node.scheduler
          → (∀ node ∈ h.network.nodes, Serving registry node.scheduler)
          → (h.distribute Loopback.transport tasks).1
              = .ok (tasks.map fun _ task => alone registry task)
            ∧ Serving registry (h.distribute Loopback.transport tasks).2.node.scheduler
            ∧ ∀ node ∈ (h.distribute Loopback.transport tasks).2.network.nodes,
                Serving registry node.scheduler)
      ∧ ∀ h other : Host Loopback,
          h.node.case.peers ≠ []
          → other.node.case.peers ≠ []
          → Serving registry h.node.scheduler
          → Serving registry other.node.scheduler
          → (∀ node ∈ h.network.nodes, Serving registry node.scheduler)
          → (∀ node ∈ other.network.nodes, Serving registry node.scheduler)
          → (h.distribute Loopback.transport tasks).1
            = (other.distribute Loopback.transport tasks).1 := by
  have spread (σ : Type) (t : Transport σ) (serves : σ → Prop) (h : Host σ)
      (peers : PeersServe registry t serves) (view : h.node.case.peers ≠ [])
      (own : Serving registry h.node.scheduler) (others : serves h.network) :=
    peers.distribute prompt h.node.knobs.remoteTimeout view tasks
      (e := ⟨h.node.scheduler, h.network⟩) own others
  have process := peersServe_loopback prompt
  refine ⟨?_, ?_, ?_, ?_⟩
  · intro c own trace s serving run uniform
    have bounded := bounded_of_serving serving c tasks
    refine ⟨fun stopped => ?_, fun collecting => uniform.exists_step prompt serving collecting⟩
    exact gathered_of_uniform prompt (run.accounted bounded) stopped uniform
  · exact spread
  · intro h view own others
    exact spread Loopback Loopback.transport _ h process view own others
  · intro h other view otherView own otherOwn others otherOthers
    have here := spread Loopback Loopback.transport _ h process view own others
    have there := spread Loopback Loopback.transport _ other process otherView otherOwn otherOthers
    exact here.1.trans there.1.symm

/-- A registry with one handler, which copies the source of a task to its results. -/
def echoOnly : Registry := Registry.empty.register "echo" .echo

theorem prompt_echoOnly : echoOnly.Prompt := Registry.prompt_empty.register "echo" rfl

/-- A node with one worker that holds another one to be alive. -/
def echoNode : Node :=
  ⟨viewOfOther, .started echoOnly (.ofMillis 5000) 1,
    ⟨1, .ofMillis 1000, .ofMillis 1000, .ofMillis 2000⟩, 0⟩

/-- Such a node, with such a node under the card that it holds. -/
def echoPair : Host Loopback :=
  ⟨echoNode, .empty, ⟨[echoNode], SortedMap.ofList [("127.0.0.1:2", (0, true))]⟩⟩

/-- A task for the handler. -/
def greeting : Task := { Task.named "echo" with source := [.str "hello"] }

/-- A network in which no call is answered in time. -/
def silent : Transport Unit :=
  ⟨fun _ _ disk _ => (.silence, disk, ()), fun _ _ _ _ => (.silence, ())⟩

theorem peersServe_silent : PeersServe registry silent fun _ => True :=
  ⟨fun _ _ _ _ => .late, fun _ _ _ _ => trivial⟩

/-- A greeting that is spread by one of two nodes comes back as its handler leaves it, whether the
other one answers or no call is answered in time.
-/
theorem greeting_comes_back
    : echoOnly.Prompt
      ∧ echoPair.node.case.peers ≠ []
      ∧ Serving echoOnly echoPair.node.scheduler
      ∧ (echoPair.distribute Loopback.transport (SortedMap.ofList [(7, greeting)])).1
        = .ok (SortedMap.ofList [(7, { greeting with result := [.str "hello"] })])
      ∧ ((⟨echoNode, .empty, ()⟩ : Host Unit).distribute silent
            (SortedMap.ofList [(7, greeting)])).1
        = .ok (SortedMap.ofList [(7, { greeting with result := [.str "hello"] })]) := by
  have view : echoPair.node.case.peers ≠ [] := by decide
  have serving : Serving echoOnly echoNode.scheduler :=
    Scheduler.serving_started echoOnly 5000 (by decide)
  obtain ⟨_, anyNetwork, process, _⟩ :=
    location_transparency prompt_echoOnly (SortedMap.ofList [(7, greeting)])
  obtain ⟨answered, _⟩ := process echoPair view serving (by simpa [echoPair] using serving)
  obtain ⟨unanswered, _⟩ :=
    anyNetwork Unit silent (fun _ => True) ⟨echoNode, .empty, ()⟩ peersServe_silent view serving
      trivial
  exact ⟨prompt_echoOnly, view, serving, answered.trans rfl, unanswered.trans rfl⟩

end TaskFabric.Dispatch
