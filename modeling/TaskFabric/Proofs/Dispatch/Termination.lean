import TaskFabric.Proofs.Dispatch.Accounts

/-! Every way to spread a batch comes to an end. Each step uses up a part of what is left to do, and
as long as the collector goes on, some step can be taken.
-/

namespace TaskFabric.Dispatch

-----------------------------------------------------------------------------------------
-- What is left to do
-----------------------------------------------------------------------------------------

/-- More than the number of steps from a phase to the end of its execution, one for its result
in the channel included.
-/
def Phase.rest : Phase → Nat
  | .toCall _ => 6
  | .awaiting => 5
  | .toRun => 4
  | .running => 3
  | .ended _ => 2
  | .finished => 0

/-- What the executions of some indices have left to do. -/
def restOf (phases : UInt64 → Phase) : List UInt64 → Nat
  | [] => 0
  | index :: rest => (phases index).rest + restOf phases rest

/-- What is left to do until the collector has stopped. -/
def Job.remaining (job : Job) (s : State) : Nat :=
  restOf s.phases job.tasks.keys + s.channel.length + s.collecting.toNat

theorem restOf_update_of_not_mem (phases : UInt64 → Phase) {index : UInt64} (next : Phase)
    {keys : List UInt64} (absent : index ∉ keys)
    : restOf (Function.update phases index next) keys = restOf phases keys := by
  induction keys with
  | nil => rfl
  | cons key rest ih =>
      simp only [List.mem_cons, not_or] at absent
      simp [restOf, Function.update_of_ne (Ne.symm absent.1), ih absent.2]

/-- Moving one execution on changes what is left by its own part, by induction on the list. -/
theorem restOf_update (phases : UInt64 → Phase) {index : UInt64} (next : Phase)
    {keys : List UInt64} (unique : keys.Nodup) (member : index ∈ keys)
    : restOf (Function.update phases index next) keys + (phases index).rest
      = restOf phases keys + next.rest := by
  induction keys with
  | nil => simp at member
  | cons key rest ih =>
      obtain ⟨fresh, distinct⟩ := List.nodup_cons.mp unique
      by_cases same : index = key
      · subst same
        simp only [restOf, Function.update_self, restOf_update_of_not_mem phases next fresh]
        omega
      · have later := (List.mem_cons.mp member).resolve_left same
        have step := ih distinct later
        simp only [restOf, Function.update_of_ne (Ne.symm same)]
        omega

theorem Phase.rest_le (phase : Phase) : phase.rest ≤ 6 := by
  cases phase <;> simp [Phase.rest]

theorem restOf_le (phases : UInt64 → Phase) (keys : List UInt64)
    : restOf phases keys ≤ 6 * keys.length := by
  induction keys with
  | nil => simp [restOf]
  | cons key rest ih =>
      have bound := (phases key).rest_le
      simp only [restOf, List.length_cons]
      omega

theorem Move.rest_lt {expire : Duration} {index : UInt64} {task : Task} {phase next : Phase}
    {act : Act} (move : Move expire index task phase act next)
    : next.rest < phase.rest := by
  cases move <;> simp [Phase.rest]

/-- Every step leaves less to do, by cases on the step; a result that is sent moves into the
channel, and one that is received leaves it.
-/
theorem Step.remaining_lt {job : Job} {trace : List Event} {s next : State} {event : Event}
    (account : ∀ index, Account job trace s index) (step : Step job s event next)
    : job.remaining next < job.remaining s := by
  have distinct := job.tasks.keys_nodup
  cases step with
  | @act index task act phase listed move =>
      have member := SortedMap.mem_keys_iff.mpr ⟨task, listed⟩
      have moved := restOf_update s.phases phase distinct member
      have less := move.rest_lt
      simp only [Job.remaining, State.advance]
      omega
  | @send index result ended _ =>
      have member : index ∈ job.tasks.keys := by
        cases account index with
        | foreign _ _ finished _ => simp [finished] at ended
        | underway listed _ _ => exact SortedMap.mem_keys_iff.mpr ⟨_, listed⟩
        | delivered listed _ _ _ _ => exact SortedMap.mem_keys_iff.mpr ⟨_, listed⟩
      have moved := restOf_update s.phases .finished distinct member
      rw [ended] at moved
      simp only [Phase.rest] at moved
      simp only [Job.remaining, State.sent, State.advance, List.length_append,
        List.length_singleton]
      omega
  | @receive index result rest collecting front =>
      simp only [Job.remaining, State.received, front, List.length_cons]
      split
      · simp only [collecting]
        omega
      · have bound := Bool.toNat_le (((s.gathered.insert index result).size != job.tasks.size))
        simp only [collecting, Bool.toNat_true]
        omega
  | hangUp collecting _ _ =>
      simp only [Job.remaining, State.stopped, collecting, Bool.toNat_true, Bool.toNat_false]
      omega

/-- The steps taken and what is left to do are together never more than what there was to do, by
induction over the run.
-/
theorem Run.length_add_remaining {job : Job} (bounded : job.Bounded) {trace : List Event}
    {s : State} (run : Run job trace s)
    : trace.length + job.remaining s ≤ job.remaining job.start := by
  induction run with
  | start => simp
  | @step trace s event next run step ih =>
      have less := step.remaining_lt (run.accounted bounded).account
      simp only [List.length_append, List.length_singleton]
      omega

/-- No run has more than six steps for each task and one at the end. -/
theorem Run.length_le {job : Job} (bounded : job.Bounded) {trace : List Event} {s : State}
    (run : Run job trace s)
    : trace.length ≤ 6 * job.tasks.size + 1 := by
  have total := run.length_add_remaining bounded
  have atStart : job.remaining job.start ≤ 6 * job.tasks.size + 1 := by
    have each := restOf_le job.start.phases job.tasks.keys
    rw [SortedMap.length_keys] at each
    simpa [Job.remaining, Job.start] using each
  omega

-----------------------------------------------------------------------------------------
-- Some step can be taken
-----------------------------------------------------------------------------------------

/-- An event in which no answer comes from a peer, and nothing but a given outcome from the node. -/
def Event.Plain (outcomes : UInt64 → Except SchedulerError Completion) : Event → Prop
  | .act _ (.answer answer) => answer = .silence
  | .act index (.outcome outcome) => outcome = outcomes index
  | _ => True

/-- An execution that is not over can move on, whatever comes from outside, by cases on its
phase; only a result that has ended waits for room in the channel.
-/
theorem exists_move {expire : Duration} {index : UInt64} {task : Task} {phase : Phase}
    (outcomes : UInt64 → Except SchedulerError Completion) (unfinished : phase ≠ .finished)
    (pending : ∀ result, phase ≠ .ended result)
    : ∃ act next, Move expire index task phase act next ∧ (Event.act index act).Plain outcomes := by
  cases phase with
  | toCall card => exact ⟨_, _, .call, trivial⟩
  | awaiting => exact ⟨.answer .silence, .toRun, .fallBack rfl, rfl⟩
  | toRun =>
      cases limit : task.type.expiry? expire with
      | none => exact ⟨_, _, .breakOff limit, trivial⟩
      | some _ => exact ⟨_, _, .submit limit, trivial⟩
  | running =>
      obtain ⟨result, own⟩ := exists_ownResult task (outcomes index)
      exact ⟨_, _, .outcome own, rfl⟩
  | ended result => exact absurd rfl (pending result)
  | finished => exact absurd rfl unfinished

/-- As long as the collector goes on, a step can be taken: it takes a result, an execution moves on
or sends its result, or the collector hangs up.
-/
theorem exists_step (job : Job) {s : State} (collecting : s.collecting = true)
    (outcomes : UInt64 → Except SchedulerError Completion)
    : ∃ event next, Step job s event next ∧ event.Plain outcomes := by
  cases waiting : s.channel with
  | cons entry rest =>
      obtain ⟨index, result⟩ := entry
      exact ⟨_, _, .receive collecting waiting, trivial⟩
  | nil =>
      by_cases finished : ∀ index ∈ job.tasks.keys, s.phases index = .finished
      · exact ⟨_, _, .hangUp collecting waiting finished, trivial⟩
      · simp only [not_forall] at finished
        obtain ⟨index, member, unfinished⟩ := finished
        obtain ⟨task, listed⟩ := SortedMap.mem_keys_iff.mp member
        by_cases ended : ∃ result, s.phases index = .ended result
        · obtain ⟨result, ended⟩ := ended
          have room : s.channel.length < max job.tasks.size 1 := by
            rw [waiting, List.length_nil]
            omega
          exact ⟨_, _, .send ended room, trivial⟩
        · have pending : ∀ result, s.phases index ≠ .ended result :=
            fun result equal => ended ⟨result, equal⟩
          obtain ⟨act, next, move, plain⟩ := exists_move outcomes unfinished pending
          exact ⟨_, _, .act listed move, plain⟩

end TaskFabric.Dispatch
