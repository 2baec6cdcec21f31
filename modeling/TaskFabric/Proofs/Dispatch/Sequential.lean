import TaskFabric.Proofs.Dispatch.Accounts
import TaskFabric.Proofs.Dispatch.Exchanges
import TaskFabric.Proofs.Scheduler.Setting

/-! Spreading a batch task by task is one of the ways to spread it side by side. What a node
exchanges with its peers and its scheduler one after another are the acts of a run, and the results
that come of it can be sent and collected in that order.
-/

namespace TaskFabric.Dispatch

variable {σ : Type} {t : Transport σ} {limit : Duration} {job : Job} {trace : List Event}
  {s : State}

-----------------------------------------------------------------------------------------
-- One execution
-----------------------------------------------------------------------------------------

/-- A run and an executor that have come equally far: the run is made of the exchanges that have led
to the executor.
-/
structure Follows (t : Transport σ) (limit : Duration) (job : Job) (first : Executor σ) (made : Log)
    (e : Executor σ) (s : State)
    : Prop where
  exchanges : first.Exchanges t limit made e
  run : Run job made.events s
  expire : e.scheduler.expire = job.expire

variable {first e after : Executor σ} {made : Log} {index : UInt64} {task : Task}

theorem exists_outcome_of_done {s : Scheduler} {task : Task}
    (bounded : task.type.expiry? s.expire ≠ none)
    : ∃ outcome : Except SchedulerError Completion,
        (s.done task).1 = outcome.mapError .refused := by
  unfold Scheduler.done
  split
  · next unbounded => exact absurd unbounded bounded
  · split
    · next e _ => exact ⟨.error e, rfl⟩
    · exact ⟨_, rfl⟩

/-- A call moves an execution on, to the result that the peer has returned or to a run at the node.
-/
theorem Follows.call (follows : Follows t limit job first made e s)
    (listed : job.tasks.get? index = some task) {card : Card}
    (ready : s.phases index = .toCall card) {answer : Answer Batch} {network : σ}
    (called
      : t.distribute limit card (SortedMap.ofList [(index, task)]) e.network = (answer, network))
    {next : Phase}
    (answered : Move job.expire index task .awaiting (.answer answer) next)
    : ∃ made,
        Follows t limit job first made { e with network } (s.advance index next) := by
  have asks := follows.run.step (.act listed (by rw [ready]; exact .call))
  have hears := asks.step (.act listed (by simpa using answered))
  refine ⟨made ++ [(index, .call card (SortedMap.ofList [(index, task)]) answer)], ?_, ?_,
    follows.expire⟩
  · exact follows.exchanges.trans (.call called .none)
  · rw [Log.events_append]
    simpa [Log.events, Exchange.acts] using hears

/-- A task that runs at the node comes to a result, whatever becomes of its submission. -/
theorem Follows.runHere (follows : Follows t limit job first made e s) (bounded : job.Bounded)
    (listed : job.tasks.get? index = some task) (ready : s.phases index = .toRun)
    : ∃ made result,
        (e.runHere task).1 = some result
        ∧ Follows t limit job first made (e.runHere task).2 (s.advance index (.ended result)) := by
  have bound := bounded index task listed
  obtain ⟨span, represented⟩ := Option.ne_none_iff_exists'.mp bound
  obtain ⟨outcome, settled⟩ := exists_outcome_of_done (follows.expire ▸ bound)
  obtain ⟨result, own⟩ := exists_ownResult task outcome
  have submits := follows.run.step (.act listed (by rw [ready]; exact .submit represented))
  have ends := submits.step (.act listed (by simpa using Move.outcome own))
  refine ⟨made ++ [(index, .submission task outcome)], result, ?_, ?_, ?_, ?_⟩
  · simp only [Executor.runHere, settled, own]
  · exact follows.exchanges.trans (.submission (Prod.ext settled rfl) .none)
  · rw [Log.events_append]
    simpa [Log.events, Exchange.acts] using ends
  · exact (Scheduler.sameSetting_done _ task).expire.trans follows.expire

/-- Where an execution stands that got so far at once; an answer that does not come is nothing. -/
inductive Reached : Progress → Phase → Prop
  | ended (result : Task) : Reached (.ended (some result)) (.ended result)
  | unanswered : Reached .unanswered .toRun

/-- An execution gets to its result at once, or as far as its call, by cases on its place. -/
theorem Follows.execute (follows : Follows t limit job first made e s) (bounded : job.Bounded)
    (listed : job.tasks.get? index = some task)
    (ready : s.phases index = Phase.start task (job.place index task))
    : ∃ made phase,
        Follows t limit job first made
            (e.execute t limit (job.place index task) index task).2 (s.advance index phase)
        ∧ Reached (e.execute t limit (job.place index task) index task).1 phase := by
  cases placed : job.place index task with
  | nowhere =>
      refine ⟨made, .ended task, ?_, .ended task⟩
      rw [placed] at ready
      rw [show Phase.ended task = s.phases index from ready.symm, State.advance_phases]
      exact follows
  | here =>
      rw [placed] at ready
      obtain ⟨made, result, ran, after⟩ := follows.runHere bounded listed ready
      simp only [Executor.execute, ran]
      exact ⟨made, _, after, .ended result⟩
  | peer card =>
      rw [placed] at ready
      rcases called : t.distribute limit card (SortedMap.ofList [(index, task)]) e.network
        with ⟨answer, network⟩
      have missed (missing : peerResult? index answer = none)
          : ∃ made result,
              (Executor.runHere task { e with network }).1 = some result
              ∧ Follows t limit job first made (Executor.runHere task { e with network }).2
                  (s.advance index (.ended result)) := by
        obtain ⟨made, answered⟩ := follows.call listed ready called (.fallBack missing)
        obtain ⟨made, result, ran, after⟩ := answered.runHere bounded listed (by simp)
        exact ⟨made, result, ran, by simpa using after⟩
      cases answer with
      | silence =>
          obtain ⟨made, answered⟩ := follows.call listed ready called (.fallBack rfl)
          simp only [Executor.execute, called]
          exact ⟨made, _, answered, .unanswered⟩
      | failure cause =>
          obtain ⟨made, result, ran, after⟩ := missed rfl
          simp only [Executor.execute, called, peerResult?, ran]
          exact ⟨made, _, after, .ended result⟩
      | reply batch =>
          cases found : peerResult? index (.reply batch) with
          | some returned =>
              obtain ⟨made, answered⟩ := follows.call listed ready called (.returned found)
              simp only [Executor.execute, called, found]
              exact ⟨made, _, answered, .ended returned⟩
          | none =>
              obtain ⟨made, result, ran, after⟩ := missed found
              simp only [Executor.execute, called, found, ran]
              exact ⟨made, _, after, .ended result⟩

-----------------------------------------------------------------------------------------
-- Executions one after another
-----------------------------------------------------------------------------------------

variable {entries : List (UInt64 × Task)}

/-- An execution whose index is fresh moves on without the others. -/
theorem State.advance_apart (fresh : index ∉ entries.map Prod.fst) (phase : Phase)
    : ∀ entry ∈ entries, (s.advance index phase).phases entry.1 = s.phases entry.1 :=
  fun entry member =>
    s.phases_advance_of_ne (fun same => fresh (List.mem_map.mpr ⟨entry, member, same⟩)) phase

/-- Phases that are kept behind such an execution leave it and all others where they are. -/
theorem State.kept_behind (task : Task) {phase : Phase} {phases : UInt64 → Phase}
    (fresh : index ∉ entries.map Prod.fst)
    (kept : ∀ other ∉ entries.map Prod.fst, phases other = (s.advance index phase).phases other)
    : phases index = phase
      ∧ ∀ other ∉ ((index, task) :: entries).map Prod.fst, phases other = s.phases other := by
  refine ⟨(kept index fresh).trans (s.phases_advance_self index phase), ?_⟩
  intro other absent
  simp only [List.map_cons, List.mem_cons, not_or] at absent
  exact (kept other absent.2).trans (s.phases_advance_of_ne absent.1 phase)

/-- The executions one after another come to results or get as far as their calls, by induction on
the tasks; other executions stay where they are.
-/
theorem Follows.executeEach (bounded : job.Bounded) {early unanswered : List (UInt64 × Task)}
    (follows : Follows t limit job first made e s)
    (listed : ∀ entry ∈ entries, job.tasks.get? entry.1 = some entry.2)
    (distinct : (entries.map Prod.fst).Nodup)
    (ready
      : ∀ entry ∈ entries,
          s.phases entry.1 = Phase.start entry.2 (job.place entry.1 entry.2))
    (executed : e.executeEach t limit job.place entries = (early, unanswered, after))
    : ∃ made phases,
        Follows t limit job first made after { s with phases }
        ∧ (early.map Prod.fst ++ unanswered.map Prod.fst).Perm (entries.map Prod.fst)
        ∧ (∀ entry ∈ early, phases entry.1 = .ended entry.2)
        ∧ (∀ entry ∈ unanswered, entry ∈ entries ∧ phases entry.1 = .toRun)
        ∧ ∀ index ∉ entries.map Prod.fst, phases index = s.phases index := by
  induction entries generalizing e made s early unanswered after with
  | nil =>
      simp only [Executor.executeEach, Prod.mk.injEq] at executed
      obtain ⟨rfl, rfl, rfl⟩ := executed
      exact ⟨made, s.phases, follows, .refl _, by simp, by simp, by simp⟩
  | cons entry rest ih =>
      obtain ⟨index, task⟩ := entry
      obtain ⟨fresh, others⟩ := List.nodup_cons.mp distinct
      obtain ⟨begun, phase, moved, reached⟩ :=
        follows.execute bounded (listed _ List.mem_cons_self) (ready _ List.mem_cons_self)
      rcases now : e.execute t limit (job.place index task) index task with ⟨progress, middle⟩
      rcases later : middle.executeEach t limit job.place rest with ⟨results, calls, last⟩
      rw [now] at moved reached
      obtain ⟨made, phases, follows, perm, ended, waiting, kept⟩ :=
        ih moved (fun entry member => listed entry (List.mem_cons_of_mem _ member)) others
          (fun entry member => (State.advance_apart fresh phase entry member).trans
            (ready entry (List.mem_cons_of_mem _ member))) later
      obtain ⟨own, still⟩ := State.kept_behind task fresh kept
      simp only [Executor.executeEach, now, later] at executed
      cases reached with
      | ended result =>
          simp only [Prod.mk.injEq] at executed
          obtain ⟨rfl, rfl, rfl⟩ := executed
          refine ⟨made, phases, follows, perm.cons index,
            List.forall_mem_cons.mpr ⟨own, ended⟩, ?_, still⟩
          intro entry member
          exact (waiting entry member).imp_left (List.mem_cons_of_mem _)
      | unanswered =>
          simp only [Prod.mk.injEq] at executed
          obtain ⟨rfl, rfl, rfl⟩ := executed
          refine ⟨made, phases, follows, List.perm_middle.trans (perm.cons index), ended, ?_, still⟩
          intro entry member
          rcases List.mem_cons.mp member with rfl | later
          · exact ⟨List.mem_cons_self, own⟩
          · exact (waiting entry later).imp_left (List.mem_cons_of_mem _)

/-- The tasks whose calls were not answered come to results at the node one after another, by
induction on them.
-/
theorem Follows.rerunEach (bounded : job.Bounded) {late : List (UInt64 × Task)}
    (follows : Follows t limit job first made e s)
    (listed : ∀ entry ∈ entries, job.tasks.get? entry.1 = some entry.2)
    (distinct : (entries.map Prod.fst).Nodup)
    (ready : ∀ entry ∈ entries, s.phases entry.1 = .toRun)
    (reran : e.rerunEach entries = (late, after))
    : ∃ made phases,
        Follows t limit job first made after { s with phases }
        ∧ late.map Prod.fst = entries.map Prod.fst
        ∧ (∀ entry ∈ late, phases entry.1 = .ended entry.2)
        ∧ ∀ index ∉ entries.map Prod.fst, phases index = s.phases index := by
  induction entries generalizing e made s late after with
  | nil =>
      simp only [Executor.rerunEach, Prod.mk.injEq] at reran
      obtain ⟨rfl, rfl⟩ := reran
      exact ⟨made, s.phases, follows, rfl, by simp, by simp⟩
  | cons entry rest ih =>
      obtain ⟨index, task⟩ := entry
      obtain ⟨fresh, others⟩ := List.nodup_cons.mp distinct
      obtain ⟨begun, result, ran, moved⟩ :=
        follows.runHere bounded (listed _ List.mem_cons_self) (ready _ List.mem_cons_self)
      rcases now : e.runHere task with ⟨answer, middle⟩
      rcases later : middle.rerunEach rest with ⟨results, last⟩
      rw [now] at ran moved
      subst ran
      obtain ⟨made, phases, follows, keys, ended, kept⟩ :=
        ih moved (fun entry member => listed entry (List.mem_cons_of_mem _ member)) others
          (fun entry member => (State.advance_apart fresh _ entry member).trans
            (ready entry (List.mem_cons_of_mem _ member))) later
      obtain ⟨own, still⟩ := State.kept_behind task fresh kept
      simp only [Executor.rerunEach, now, later, Prod.mk.injEq] at reran
      obtain ⟨rfl, rfl⟩ := reran
      exact ⟨made, phases, follows, by simp [keys], List.forall_mem_cons.mpr ⟨own, ended⟩, still⟩

-----------------------------------------------------------------------------------------
-- Collecting what the executions came to
-----------------------------------------------------------------------------------------

/-- Results that have ended can be sent one after another, by induction on them. -/
theorem Run.sendEach {order : List (UInt64 × Task)} (run : Run job trace s)
    (distinct : (order.map Prod.fst).Nodup)
    (ended : ∀ entry ∈ order, s.phases entry.1 = .ended entry.2)
    (room : s.channel.length + order.length ≤ job.tasks.size)
    : ∃ phases,
        Run job (trace ++ order.map fun entry => .send entry.1 entry.2)
            { s with phases, channel := s.channel ++ order }
        ∧ (∀ entry ∈ order, phases entry.1 = .finished)
        ∧ ∀ index ∉ order.map Prod.fst, phases index = s.phases index := by
  induction order generalizing trace s with
  | nil => exact ⟨s.phases, by simpa using run, by simp, by simp⟩
  | cons entry rest ih =>
      obtain ⟨index, result⟩ := entry
      obtain ⟨fresh, others⟩ := List.nodup_cons.mp distinct
      simp only [List.length_cons] at room
      have sent := run.step (.send (ended (index, result) List.mem_cons_self) (by omega))
      have waiting : ∀ entry ∈ rest, (s.sent index result).phases entry.1 = .ended entry.2 :=
        fun entry member => (State.advance_apart fresh .finished entry member).trans
          (ended entry (List.mem_cons_of_mem _ member))
      have space : (s.sent index result).channel.length + rest.length ≤ job.tasks.size := by
        simp only [State.sent, List.length_append, List.length_singleton]
        omega
      obtain ⟨phases, reached, finished, kept⟩ := ih sent others waiting space
      obtain ⟨own, still⟩ := State.kept_behind result fresh kept
      exact ⟨phases, by simpa [State.sent, State.advance] using reached,
        List.forall_mem_cons.mpr ⟨own, finished⟩, still⟩

/-- When all executions are over, the collector takes what is in the channel, by induction on it. -/
theorem Run.collectAll (run : Run job trace s) (collecting : s.collecting = true)
    (finished : ∀ index ∈ job.tasks.keys, s.phases index = .finished)
    : ∃ taken next,
        Run job (trace ++ taken) next
        ∧ (∀ index, acts index taken = [])
        ∧ next.collecting = false
        ∧ next.gathered = gather job.tasks.size s.channel s.gathered := by
  generalize waiting : s.channel = channel
  induction channel generalizing trace s with
  | nil =>
      exact ⟨[.hangUp], _, run.step (.hangUp collecting waiting finished), fun _ => rfl, rfl, rfl⟩
  | cons entry rest ih =>
      obtain ⟨index, result⟩ := entry
      have taken := run.step (.receive collecting waiting)
      have goesOn {s : State} (run : Run job (trace ++ [.receive index result]) s)
          (collecting : s.collecting = true)
          (finished : ∀ index ∈ job.tasks.keys, s.phases index = .finished)
          (waiting : s.channel = rest)
          : ∃ taken next,
              Run job (trace ++ taken) next
              ∧ (∀ index, acts index taken = [])
              ∧ next.collecting = false
              ∧ next.gathered = gather job.tasks.size rest s.gathered := by
        obtain ⟨more, next, reached, quiet, stopped, gathered⟩ := ih run collecting finished waiting
        refine ⟨.receive index result :: more, next, ?_, fun other => quiet other, stopped,
          gathered⟩
        rwa [List.append_assoc] at reached
      by_cases known : s.gathered.contains index
      · simp only [State.received, known, if_true] at taken
        simpa only [gather, known, if_true] using goesOn taken collecting finished rfl
      · simp only [State.received, known, Bool.false_eq_true, if_false] at taken
        by_cases enough : (s.gathered.insert index result).size = job.tasks.size
        · refine ⟨_, _, taken, fun _ => rfl, by simp [enough], ?_⟩
          simp only [gather, known, Bool.false_eq_true, if_false, enough, if_true]
        · simp only [gather, known, Bool.false_eq_true, if_false, enough]
          exact goesOn taken (by simp [enough]) finished rfl

/-- Results of all tasks can be sent and collected in any order. -/
theorem Run.collectOrder {phases : UInt64 → Phase} {order : List (UInt64 × Task)}
    (run : Run job trace { job.start with phases })
    (perm : (order.map Prod.fst).Perm job.tasks.keys)
    (ended : ∀ entry ∈ order, phases entry.1 = .ended entry.2)
    : ∃ collected s,
        Run job (trace ++ collected) s
        ∧ (∀ index, acts index collected = [])
        ∧ s.collecting = false
        ∧ s.gathered = gather job.tasks.size order ∅ := by
  have room : order.length ≤ job.tasks.size := by
    have count := perm.length_eq
    rw [List.length_map, SortedMap.length_keys] at count
    exact Nat.le_of_eq count
  obtain ⟨last, sent, finished, _⟩ :=
    run.sendEach (perm.nodup_iff.mpr job.tasks.keys_nodup) ended (by simpa [Job.start] using room)
  have allOver : ∀ index ∈ job.tasks.keys, last index = .finished := by
    intro index member
    obtain ⟨entry, known, rfl⟩ := List.mem_map.mp (perm.mem_iff.mpr member)
    exact finished entry known
  obtain ⟨taken, s, reached, quiet, stopped, gathered⟩ := sent.collectAll rfl allOver
  refine ⟨_, s, List.append_assoc _ _ _ ▸ reached, ?_, stopped, gathered⟩
  intro index
  have silent : acts index (order.map fun entry => .send entry.1 entry.2) = [] := by
    simp [acts, Event.actOf?]
  rw [acts_append, silent, quiet index]
  rfl

-----------------------------------------------------------------------------------------
-- The whole batch
-----------------------------------------------------------------------------------------

variable {c : Case} {tasks : Batch}

/-- Spreading a batch task by task brings all executions to results, and gathers these in one order.
Witness: the results that come at once, and behind them those of the calls that are not answered.
-/
theorem exists_order_of_distribute (t : Transport σ) (limit : Duration) (e : Executor σ)
    (view : c.peers ≠ []) (bounded : (Job.ofCase c tasks e.scheduler.expire).Bounded)
    : ∃ made after phases order,
        Follows t limit (Job.ofCase c tasks e.scheduler.expire) e made after
            { (Job.ofCase c tasks e.scheduler.expire).start with phases }
        ∧ (order.map Prod.fst).Perm tasks.keys
        ∧ (∀ entry ∈ order, phases entry.1 = .ended entry.2)
        ∧ e.distribute t limit c tasks = (.ok (gather tasks.size order ∅), after) := by
  have listed : ∀ entry ∈ tasks.toList, tasks.get? entry.1 = some entry.2 :=
    fun entry member => SortedMap.mem_toList_iff.mp member
  rcases executed : e.executeEach t limit (Placement.place c c.peers) tasks.toList
    with ⟨early, unanswered, middle⟩
  rcases reran : middle.rerunEach unanswered with ⟨late, after⟩
  have start : Follows t limit (Job.ofCase c tasks e.scheduler.expire) e [] e
      (Job.ofCase c tasks e.scheduler.expire).start :=
    ⟨.none, .start, rfl⟩
  obtain ⟨called, phases, follows, perm, ended, waiting, _⟩ :=
    start.executeEach bounded listed tasks.keys_nodup
      (fun entry member => by simp [Job.start, Job.ofCase, listed entry member]) executed
  obtain ⟨_, once, apart⟩ := List.nodup_append.mp (perm.nodup_iff.mpr tasks.keys_nodup)
  obtain ⟨made, final, followed, keys, endedLate, kept⟩ :=
    follows.rerunEach bounded (fun entry member => listed entry (waiting entry member).1) once
      (fun entry member => (waiting entry member).2) reran
  refine ⟨made, after, final, early ++ late, followed, ?_, ?_, ?_⟩
  · rw [List.map_append, keys]
    exact perm
  · intro entry member
    rcases List.mem_append.mp member with atOnce | later
    · have elsewhere : entry.1 ∉ unanswered.map Prod.fst := fun shared =>
        apart entry.1 (List.mem_map_of_mem atOnce) entry.1 shared rfl
      exact (kept entry.1 elsewhere).trans (ended entry atOnce)
    · exact endedLate entry later
  · have nonempty : c.peers.isEmpty = false := by simpa using view
    simp only [Executor.distribute, nonempty, executed, reran, Bool.false_eq_true, if_false]

/-- Spreading a batch task by task is a run that is made of the exchanges of the executor, and after
them of the results that are sent and collected; what the run gathers is what comes back, and the
executor makes no other calls.
-/
theorem exists_run_of_distribute (t : Transport σ) (limit : Duration) (e : Executor σ)
    (view : c.peers ≠ []) (bounded : (Job.ofCase c tasks e.scheduler.expire).Bounded)
    : ∃ made after collected s,
        e.Exchanges t limit made after
        ∧ e.calls t limit c tasks = made.calls
        ∧ Run (Job.ofCase c tasks e.scheduler.expire) (made.events ++ collected) s
        ∧ (∀ index, acts index collected = [])
        ∧ s.collecting = false
        ∧ e.distribute t limit c tasks = (.ok s.gathered, after) := by
  let kept : Executor (σ × List (Card × Batch × Answer Batch)) := ⟨e.scheduler, e.network, []⟩
  obtain ⟨made, after, phases, order, follows, perm, ended, came⟩ :=
    exists_order_of_distribute t.kept limit kept view bounded
  obtain ⟨collected, s, run, quiet, stopped, gathered⟩ := follows.run.collectOrder perm ended
  obtain ⟨exchanges, calls⟩ := follows.exchanges.plain
  refine ⟨made, after.plain, collected, s, exchanges, ?_, run, quiet, stopped, ?_⟩
  · change (kept.distribute t.kept limit c tasks).2.network.2 = made.calls
    rw [came]
    exact calls
  · rw [show e = kept.plain from rfl, Executor.distribute_plain, came, gathered]
    rfl

end TaskFabric.Dispatch
