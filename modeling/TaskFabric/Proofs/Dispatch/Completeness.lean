import TaskFabric.Loopback
import TaskFabric.Proofs.Deadlines
import TaskFabric.Proofs.Dispatch.Sequential
import TaskFabric.Proofs.Dispatch.Termination

/-! A batch that is spread comes back whole. Whatever the peers and the node's scheduler answer, and
in whichever order the executions end, there is one result for every index, and it depends on the
answers alone.
-/

namespace TaskFabric.Dispatch

-----------------------------------------------------------------------------------------
-- Results
-----------------------------------------------------------------------------------------

/-- Where the result of an index can come from: it is the task as it was submitted, or what a
completion at the node made of it, or what the peer of its place returned under its index.
-/
inductive Origin (job : Job) (trace : List Event) (index : UInt64) (task result : Task) : Prop
  | unchanged (same : result = task)
  | own {completion} (settled : .act index (.outcome (.ok completion)) ∈ trace)
    (same : result = completion.task)
  | returned {card batch} (placed : job.place index task = .peer card)
    (answered : .act index (.answer (.reply batch)) ∈ trace)
    (found : batch.get? index = some result)

theorem Concluded.origin {job : Job} {trace : List Event} {index : UInt64} {task result : Task}
    (concluded : Concluded index task (job.place index task) (acts index trace) result)
    : Origin job trace index task result := by
  generalize placed : job.place index task = place at concluded
  generalize made : acts index trace = made at concluded
  cases concluded with
  | untouched => exact .unchanged rfl
  | @returned card answer result found =>
      cases answer with
      | reply batch =>
          refine .returned placed ?_ found
          exact mem_acts_iff.mp (by simp [made])
      | failure _ | silence => simp [peerResult?] at found
  | @own place before outcome result approach own =>
      cases outcome with
      | ok completion =>
          refine .own ?_ (Option.some.inj own).symm
          exact mem_acts_iff.mp (by simp [made])
      | error _ => exact .unchanged (Option.some.inj own).symm

/-- Two courses of events in which every execution is given the same answers and outcomes. -/
structure SameReplies (trace other : List Event) : Prop where
  answers
    : ∀ index answer,
        .act index (.answer answer) ∈ trace ↔ .act index (.answer answer) ∈ other
  outcomes
    : ∀ index outcome,
        .act index (.outcome outcome) ∈ trace ↔ .act index (.outcome outcome) ∈ other

/-- An execution comes to one result for the same answers and outcomes, by cases on how both came
about.
-/
theorem Concluded.unique {index : UInt64} {task : Task} {place : Placement}
    {acts other : List Act} {result again : Task}
    (first : Concluded index task place acts result)
    (second : Concluded index task place other again)
    (answers : ∀ answer, Act.answer answer ∈ acts → Act.answer answer ∈ other)
    (outcomes : ∀ outcome, Act.outcome outcome ∈ acts → Act.outcome outcome ∈ other)
    : result = again := by
  cases first with
  | untouched =>
      cases second with
      | untouched => rfl
      | own approach _ => cases approach
  | @returned card answer result found =>
      have given := answers answer (by simp)
      cases second with
      | returned again =>
          simp only [List.mem_cons, reduceCtorEq, Act.answer.injEq, List.not_mem_nil, or_false,
            false_or] at given
          subst given
          exact Option.some.inj (found.symm.trans again)
      | own approach _ =>
          cases approach with
          | missed missing =>
              simp only [List.cons_append, List.nil_append, List.mem_cons, reduceCtorEq,
                Act.answer.injEq, List.not_mem_nil, or_false, false_or] at given
              subst given
              simp [missing] at found
  | @own place before outcome result approach own =>
      have settled := outcomes outcome (by simp)
      cases second with
      | untouched => cases approach
      | returned _ => simp at settled
      | @own _ before' outcome' _ approach' own' =>
          have same : outcome = outcome' := by
            cases approach' <;> simpa using settled
          subst same
          exact Option.some.inj (own.symm.trans own')

/-- When the collector has stopped, the result of an index is the one its execution concluded. -/
theorem Accounted.concluded_of_stopped {job : Job} {trace : List Event} {s : State}
    (accounted : Accounted job trace s) (stopped : s.collecting = false) {index : UInt64}
    {task : Task} (listed : job.tasks.get? index = some task)
    : ∃ result,
        s.gathered.get? index = some result
        ∧ Concluded index task (job.place index task) (acts index trace) result := by
  have member : index ∈ s.gathered.keys := by
    rw [accounted.complete stopped]
    exact SortedMap.mem_keys_iff.mpr ⟨task, listed⟩
  obtain ⟨result, found⟩ := SortedMap.mem_keys_iff.mp member
  refine ⟨result, found, ?_⟩
  rcases (accounted.account index).of_listed listed with ⟨_, absent⟩ | ⟨_, concluded, _, only⟩
  · exact absurd (.inr found) (absent result)
  · rw [only result (.inr found)]
    exact concluded

/-- Two runs that have stopped gather the same map if their executions were given the same answers,
whatever the order of the events.
-/
theorem gathered_eq_of_sameReplies {job : Job} {trace other : List Event} {s last : State}
    (first : Accounted job trace s) (second : Accounted job other last)
    (stopped : s.collecting = false) (ended : last.collecting = false)
    (same : SameReplies trace other)
    : s.gathered = last.gathered := by
  apply SortedMap.ext_get?
  intro index
  cases listed : job.tasks.get? index with
  | none =>
      have absent := SortedMap.get?_eq_none_iff.mp listed
      have here : s.gathered.get? index = none := by
        rw [SortedMap.get?_eq_none_iff, first.complete stopped]
        exact absent
      have there : last.gathered.get? index = none := by
        rw [SortedMap.get?_eq_none_iff, second.complete ended]
        exact absent
      rw [here, there]
  | some task =>
      obtain ⟨result, found, concluded⟩ := first.concluded_of_stopped stopped listed
      obtain ⟨again, refound, reconcluded⟩ := second.concluded_of_stopped ended listed
      rw [found, refound, concluded.unique reconcluded]
      · intro answer given
        exact mem_acts_iff.mpr ((same.answers index answer).mp (mem_acts_iff.mp given))
      · intro outcome given
        exact mem_acts_iff.mpr ((same.outcomes index outcome).mp (mem_acts_iff.mp given))

-----------------------------------------------------------------------------------------
-- Batches as a whole
-----------------------------------------------------------------------------------------

/-- What an execution does is explained by the place of its task, whatever its phase. -/
theorem Accounted.sparing {job : Job} {trace : List Event} {s : State}
    (accounted : Accounted job trace s) {index : UInt64} {task : Task}
    (listed : job.tasks.get? index = some task)
    : Sparing index task (job.place index task) (acts index trace) := by
  rcases (accounted.account index).of_listed listed with ⟨explained, _⟩ | ⟨_, concluded, _⟩
  · exact explained.sparing
  · exact concluded.sparing

theorem Accounted.idle {job : Job} {trace : List Event} {s : State}
    (accounted : Accounted job trace s) {index : UInt64} (unlisted : job.tasks.get? index = none)
    : acts index trace = [] := by
  cases accounted.account index with
  | foreign _ idle _ _ => exact idle
  | underway listed _ _ => simp [listed] at unlisted
  | delivered listed _ _ _ _ => simp [listed] at unlisted

/-- A batch that is spread over a view comes back whole, at any base expiry that a configuration
sets. Every run ends after a bounded number of steps, and until its collector has stopped it can
go on. At any time an execution has called its peer at most once and submitted its task at most
once, both only if the peer brought nothing back, and neither for a task without handler. When the
collector has stopped, it has exactly the keys of the batch, and under each one the task as it was
submitted, its completion at the node, or what its peer returned under that index. Runs with the
same answers and outcomes gather the same map. Spreading the batch task by task, through any
transport and at any node, is one of the runs: its acts are the exchanges that lead the executor of
the node to where it is afterwards, with the answers of that transport and the outcomes of that
scheduler. The transport is called as these exchanges say, and what comes back is what the run
gathers, under each index the result that the exchanges of the index conclude.
-/
theorem spread_comes_back_whole (c : Case) (view : c.peers ≠ []) (tasks : Batch) (ms : UInt64)
    : (∀ trace s,
        Run (Job.ofCase c tasks (.ofMillis ms)) trace s
        → trace.length ≤ 6 * tasks.size + 1
          ∧ (s.collecting = true
            → ∃ event next, Step (Job.ofCase c tasks (.ofMillis ms)) s event next)
          ∧ (∀ index, tasks.get? index = none → acts index trace = [])
          ∧ (∀ index task,
              tasks.get? index = some task
              → Sparing index task (Placement.place c c.peers index task) (acts index trace)
                ∧ (task.consumable = "" → acts index trace = []))
          ∧ (s.collecting = false
            → s.gathered.keys = tasks.keys
              ∧ ∀ index task,
                  tasks.get? index = some task
                  → ∃ result,
                      s.gathered.get? index = some result
                      ∧ Origin (Job.ofCase c tasks (.ofMillis ms)) trace index task result))
      ∧ (∀ trace s other last,
          Run (Job.ofCase c tasks (.ofMillis ms)) trace s
          → Run (Job.ofCase c tasks (.ofMillis ms)) other last
          → s.collecting = false
          → last.collecting = false
          → SameReplies trace other
          → s.gathered = last.gathered)
      ∧ ∀ (σ : Type) (t : Transport σ) (limit : Duration) (e : Executor σ),
          e.scheduler.expire = .ofMillis ms
          → ∃ made after collected s,
              e.Exchanges t limit made after
              ∧ e.calls t limit c tasks = made.calls
              ∧ Run (Job.ofCase c tasks (.ofMillis ms)) (made.events ++ collected) s
              ∧ (∀ index, acts index collected = [])
              ∧ s.collecting = false
              ∧ e.distribute t limit c tasks = (.ok s.gathered, after)
              ∧ s.gathered.keys = tasks.keys
              ∧ ∀ index task,
                  tasks.get? index = some task
                  → ∃ result,
                      s.gathered.get? index = some result
                      ∧ Concluded index task (Placement.place c c.peers index task)
                          (acts index made.events) result := by
  have bounded : (Job.ofCase c tasks (.ofMillis ms)).Bounded :=
    fun _ task _ => task.type.expiry?_ofMillis_ne_none ms
  refine ⟨?_, ?_, ?_⟩
  · intro trace s run
    have accounted := run.accounted bounded
    refine ⟨run.length_le bounded, ?_, fun _ => accounted.idle, ?_, ?_⟩
    · intro collecting
      obtain ⟨event, next, step, _⟩ := exists_step _ collecting fun _ => .error .timeout
      exact ⟨event, next, step⟩
    · intro index task listed
      have sparing := accounted.sparing listed
      refine ⟨sparing, fun unnamed => sparing.nowhere ?_⟩
      simp [Job.ofCase, Placement.place, unnamed]
    · intro stopped
      refine ⟨accounted.complete stopped, ?_⟩
      intro index task listed
      obtain ⟨result, found, concluded⟩ := accounted.concluded_of_stopped stopped listed
      exact ⟨result, found, concluded.origin⟩
  · intro trace s other last first second stopped ended same
    exact gathered_eq_of_sameReplies (first.accounted bounded) (second.accounted bounded) stopped
      ended same
  · intro σ t limit e configured
    obtain ⟨made, after, collected, s, exchanges, calls, run, quiet, stopped, came⟩ :=
      exists_run_of_distribute t limit e view (configured ▸ bounded)
    rw [configured] at run
    have accounted := run.accounted bounded
    refine ⟨made, after, collected, s, exchanges, calls, run, quiet, stopped, came,
      accounted.complete stopped, ?_⟩
    intro index task listed
    obtain ⟨result, found, concluded⟩ := accounted.concluded_of_stopped stopped listed
    rw [acts_append, quiet index, List.append_nil] at concluded
    exact ⟨result, found, concluded⟩

/-- A view that holds one other node, which is alive. -/
def viewOfOther : Case where
  state :=
    let own := Card.ofAddress "127.0.0.1" 1
    let other := Card.ofAddress "127.0.0.1" 2
    ⟨"case", ⟨SortedMap.ofList [("127.0.0.1:2", other)], 0⟩, own, own⟩
  path := none
  externalIp := none

/-- A node without workers whose network reaches nobody. -/
def isolated : Executor Loopback := ⟨Scheduler.create .empty (.ofMillis 5000), .empty⟩

/-- A task for the other node comes back from such a node as it was submitted: the call of its peer
fails, and the scheduler of the node does not complete it.
-/
theorem task_for_other_comes_back
    : let batch : Batch := SortedMap.ofList [(7, .named "echo")]
      viewOfOther.peers ≠ []
      ∧ isolated.scheduler.expire = .ofMillis 5000
      ∧ ∃ made after,
          isolated.Exchanges Loopback.transport (.ofMillis 2000) made after
          ∧ isolated.calls Loopback.transport (.ofMillis 2000) viewOfOther batch = made.calls
          ∧ isolated.distribute Loopback.transport (.ofMillis 2000) viewOfOther batch
            = (.ok batch, after)
          ∧ Concluded 7 (.named "echo") (.peer (Card.ofAddress "127.0.0.1" 2))
              (acts 7 made.events) (.named "echo") := by
  intro batch
  have view : viewOfOther.peers ≠ [] := by decide
  obtain ⟨_, _, spread⟩ := spread_comes_back_whole viewOfOther view batch 5000
  obtain ⟨made, after, _, s, exchanges, calls, _, _, _, came, _, each⟩ :=
    spread Loopback Loopback.transport (.ofMillis 2000) isolated rfl
  have whole : s.gathered = batch := Except.ok.inj ((congrArg Prod.fst came).symm.trans rfl)
  obtain ⟨result, found, concluded⟩ := each 7 (.named "echo") rfl
  have placed : Placement.place viewOfOther viewOfOther.peers 7 (.named "echo")
      = .peer (Card.ofAddress "127.0.0.1" 2) := by
    rfl
  rw [whole] at came found
  have same : .named "echo" = result := Option.some.inj found
  rw [placed, ← same] at concluded
  exact ⟨view, rfl, made, after, exchanges, calls, came, concluded⟩

end TaskFabric.Dispatch
