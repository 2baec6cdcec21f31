import TaskFabric.Proofs.Dispatch.Histories
import TaskFabric.Proofs.SortedMapLookups

/-! Every index of a batch is accounted for at any time: its execution is underway, or its one
result is on its way or collected. The collector stops only when all of them are collected.
-/

namespace TaskFabric.Dispatch

-----------------------------------------------------------------------------------------
-- What becomes of the results that are held
-----------------------------------------------------------------------------------------

@[simp]
theorem holds_advance (s : State) (index : UInt64) (phase : Phase) (other : UInt64) (result : Task)
    : (s.advance index phase).Holds other result ↔ s.Holds other result := .rfl

theorem holds_sent {s : State} {index other : UInt64} {sent result : Task}
    : (s.sent index sent).Holds other result
      ↔ s.Holds other result ∨ (other = index ∧ result = sent) := by
  simp only [State.Holds, State.sent, State.advance, List.mem_append, List.mem_singleton,
    Prod.mk.injEq]
  tauto

/-- A result that the collector takes is held as before, and so are the others, as long as nothing
else was collected under its index. Witness: it leaves the channel for the map, or is there.
-/
theorem holds_received {s : State} {total : Nat} {index : UInt64} {taken : Task}
    {rest : List (UInt64 × Task)} (front : s.channel = (index, taken) :: rest)
    (only : ∀ result, s.gathered.get? index = some result → result = taken)
    (other : UInt64) (result : Task)
    : (s.received total index taken rest).Holds other result ↔ s.Holds other result := by
  cases collected : s.gathered.get? index with
  | some first =>
      have same := only first collected
      subst same
      simp only [State.Holds, State.received, SortedMap.contains, collected, Option.isSome_some,
        if_true, front, List.mem_cons, Prod.mk.injEq]
      constructor
      · rintro (later | found)
        · exact .inl (.inr later)
        · exact .inr found
      · rintro ((⟨rfl, rfl⟩ | later) | found)
        · exact .inr collected
        · exact .inl later
        · exact .inr found
  | none =>
      simp only [State.Holds, State.received, SortedMap.contains, collected, Option.isSome_none,
        Bool.false_eq_true, if_false, front, List.mem_cons, Prod.mk.injEq, SortedMap.get?_insert]
      by_cases same : other = index
      · subst same
        simp only [collected, true_and, if_true, Option.some.injEq, reduceCtorEq, or_false]
        constructor
        · rintro (later | rfl)
          · exact .inr later
          · exact .inl rfl
        · rintro (rfl | later)
          · exact .inr rfl
          · exact .inl later
      · simp only [same, false_and, false_or, if_false]

-----------------------------------------------------------------------------------------
-- Accounts
-----------------------------------------------------------------------------------------

/-- How an index stands: it is none of the batch, its execution is underway, or its result, and no
other one, is held.
-/
inductive Account (job : Job) (trace : List Event) (s : State) (index : UInt64) : Prop
  | foreign (unlisted : job.tasks.get? index = none) (idle : acts index trace = [])
    (finished : s.phases index = .finished) (absent : ∀ result, ¬ s.Holds index result)
  | underway {task} (listed : job.tasks.get? index = some task)
    (explained
      : Explains job.expire index task (job.place index task) (acts index trace) (s.phases index))
    (absent : ∀ result, ¬ s.Holds index result)
  | delivered {task result} (listed : job.tasks.get? index = some task)
    (concluded : Concluded index task (job.place index task) (acts index trace) result)
    (finished : s.phases index = .finished) (held : s.Holds index result)
    (only : ∀ other, s.Holds index other → other = result)

variable {job : Job} {trace : List Event} {s : State} {index : UInt64} {task : Task}

/-- An account speaks of the acts, the phase and the held results of its index alone. -/
theorem Account.congr {later : List Event} {next : State} (account : Account job trace s index)
    (sameActs : acts index later = acts index trace)
    (samePhase : next.phases index = s.phases index)
    (sameHeld : ∀ result, next.Holds index result ↔ s.Holds index result)
    : Account job later next index := by
  cases account with
  | foreign unlisted idle finished absent =>
      exact .foreign unlisted (sameActs.trans idle) (samePhase.trans finished)
        fun result held => absent result ((sameHeld result).mp held)
  | underway listed explained absent =>
      refine .underway listed ?_ fun result held => absent result ((sameHeld result).mp held)
      rw [sameActs, samePhase]
      exact explained
  | delivered listed concluded finished held only =>
      refine .delivered listed ?_ (samePhase.trans finished) ((sameHeld _).mpr held)
        fun other held => only other ((sameHeld other).mp held)
      rw [sameActs]
      exact concluded

/-- An index of the batch is underway or delivered, with its own task. -/
theorem Account.of_listed (account : Account job trace s index)
    (listed : job.tasks.get? index = some task)
    : Explains job.expire index task (job.place index task) (acts index trace) (s.phases index)
        ∧ (∀ result, ¬ s.Holds index result)
      ∨ ∃ result,
          Concluded index task (job.place index task) (acts index trace) result
          ∧ s.phases index = .finished
          ∧ ∀ other, s.Holds index other → other = result := by
  cases account with
  | foreign unlisted _ _ _ => simp [unlisted] at listed
  | underway known explained absent =>
      rw [known, Option.some.injEq] at listed
      subst listed
      exact .inl ⟨explained, absent⟩
  | delivered known concluded finished _ only =>
      rw [known, Option.some.injEq] at listed
      subst listed
      exact .inr ⟨_, concluded, finished, only⟩

/-- An act of an execution keeps all accounts; its own is extended by the act. -/
theorem Account.act {act : Act} {next : Phase} (listed : job.tasks.get? index = some task)
    (move : Move job.expire index task (s.phases index) act next) {other : UInt64}
    (account : Account job trace s other)
    : Account job (trace ++ [.act index act]) (s.advance index next) other := by
  by_cases same : other = index
  · subst same
    have extended : acts other (trace ++ [.act other act]) = acts other trace ++ [act] := by
      simp [acts_append_singleton, Event.actOf?]
    rcases account.of_listed listed with ⟨explained, absent⟩ | ⟨_, _, finished, _⟩
    · refine .underway listed ?_ absent
      rw [extended, State.phases_advance_self]
      exact explained.move move
    · rw [finished] at move
      cases move
  · refine account.congr ?_ (s.phases_advance_of_ne same next) (holds_advance s index next other)
    have different : index ≠ other := fun equal => same equal.symm
    simp [acts_append_singleton, Event.actOf?, different]

/-- Sending a result keeps all accounts; its own is delivered from then on. -/
theorem Account.send {result : Task} (ended : s.phases index = .ended result) {other : UInt64}
    (account : Account job trace s other)
    : Account job (trace ++ [.send index result]) (s.sent index result) other := by
  have sameActs : acts other (trace ++ [.send index result]) = acts other trace := by
    simp [acts_append_singleton, Event.actOf?]
  by_cases same : other = index
  · subst same
    cases account with
    | foreign _ _ finished _ => simp [finished] at ended
    | underway listed explained absent =>
        rw [ended] at explained
        refine .delivered listed (by rw [sameActs]; exact explained)
          (s.phases_advance_self other .finished) (holds_sent.mpr (.inr ⟨rfl, rfl⟩)) ?_
        intro again held
        rcases holds_sent.mp held with earlier | ⟨_, rfl⟩
        · exact absurd earlier (absent again)
        · rfl
    | delivered _ _ finished _ _ => simp [finished] at ended
  · refine account.congr sameActs (s.phases_advance_of_ne same .finished) ?_
    intro again
    simp [holds_sent, same]

-----------------------------------------------------------------------------------------
-- Runs
-----------------------------------------------------------------------------------------

/-- Every index is accounted for, and the collector has all of the batch when it stops. -/
structure Accounted (job : Job) (trace : List Event) (s : State) : Prop where
  account : ∀ index, Account job trace s index
  complete : s.collecting = false → s.gathered.keys = job.tasks.keys

theorem Accounted.listed_of_holds (account : ∀ index, Account job trace s index) {result : Task}
    (held : s.Holds index result)
    : index ∈ job.tasks.keys := by
  cases account index with
  | foreign _ _ _ absent => exact absurd held (absent result)
  | underway _ _ absent => exact absurd held (absent result)
  | delivered listed _ _ _ _ => exact SortedMap.mem_keys_iff.mpr ⟨_, listed⟩

theorem Accounted.gathered_subset
    (account : ∀ index, Account job trace s index)
    : s.gathered.keys ⊆ job.tasks.keys := by
  intro index member
  obtain ⟨result, found⟩ := SortedMap.mem_keys_iff.mp member
  exact listed_of_holds account (.inr found)

theorem accounted_start (job : Job) : Accounted job [] job.start := by
  refine ⟨?_, fun stopped => by simp [Job.start] at stopped⟩
  intro index
  have absent : ∀ result, ¬ job.start.Holds index result := by
    intro result held
    simp [State.Holds, Job.start] at held
  cases found : job.tasks.get? index with
  | none => exact .foreign found rfl (by simp [Job.start, found]) absent
  | some task =>
      refine .underway found ?_ absent
      simp only [Job.start, found]
      exact explains_start job.expire index task _

/-- Taking a result out of the channel keeps all accounts. If the collector stops by it, as many
results are collected as there are tasks, and so the keys are the same.
-/
theorem Accounted.receive {result : Task} {rest : List (UInt64 × Task)}
    (accounted : Accounted job trace s) (collecting : s.collecting = true)
    (front : s.channel = (index, result) :: rest)
    : Accounted job (trace ++ [.receive index result])
        (s.received job.tasks.size index result rest) := by
  have held : s.Holds index result := .inl (by simp [front])
  have only : ∀ other, s.gathered.get? index = some other → other = result := by
    intro other found
    cases accounted.account index with
    | foreign _ _ _ absent => exact absurd held (absent result)
    | underway _ _ absent => exact absurd held (absent result)
    | delivered _ _ _ _ only => exact (only other (.inr found)).trans (only result held).symm
  have phases : (s.received job.tasks.size index result rest).phases = s.phases := by
    simp only [State.received]
    split <;> rfl
  have account : ∀ other, Account job (trace ++ [.receive index result])
      (s.received job.tasks.size index result rest) other := by
    intro other
    refine (accounted.account other).congr ?_ (congrFun phases other)
      (holds_received front only other)
    simp [acts_append_singleton, Event.actOf?]
  refine ⟨account, ?_⟩
  intro stopped
  refine SortedMap.keys_eq_of_subset (gathered_subset account) ?_
  by_cases known : s.gathered.contains index
  · simp [State.received, known, collecting] at stopped
  · simp only [State.received, known, Bool.false_eq_true, if_false, bne_eq_false_iff_eq]
      at stopped ⊢
    exact Nat.le_of_eq stopped.symm

/-- A collector that hangs up has everything: all executions are over, none has broken off, and
nothing is on its way.
-/
theorem Accounted.hangUp (bounded : job.Bounded) (accounted : Accounted job trace s)
    (empty : s.channel = []) (finished : ∀ index ∈ job.tasks.keys, s.phases index = .finished)
    : Accounted job (trace ++ [.hangUp]) s.stopped := by
  have account : ∀ index, Account job (trace ++ [.hangUp]) s.stopped index := by
    intro index
    refine (accounted.account index).congr ?_ rfl fun _ => .rfl
    simp [acts_append_singleton, Event.actOf?]
  refine ⟨account, fun _ => SortedMap.keys_eq_of_mem_iff fun index => ?_⟩
  refine ⟨fun member => gathered_subset account member, fun member => ?_⟩
  have done := finished index member
  cases accounted.account index with
  | foreign unlisted _ _ _ => exact absurd member (SortedMap.get?_eq_none_iff.mp unlisted)
  | underway listed explained _ =>
      rw [done] at explained
      exact absurd explained.1 (bounded index _ listed)
  | delivered _ _ _ held _ =>
      rcases held with waiting | found
      · simp [empty] at waiting
      · exact SortedMap.mem_keys_iff.mpr ⟨_, found⟩

/-- Every step keeps all indices accounted for, by cases on the step. -/
theorem Accounted.step (bounded : job.Bounded) {next : State} {event : Event}
    (accounted : Accounted job trace s) (step : Step job s event next)
    : Accounted job (trace ++ [event]) next := by
  cases step with
  | act listed move =>
      exact ⟨fun other => (accounted.account other).act listed move, accounted.complete⟩
  | send ended _ => exact ⟨fun other => (accounted.account other).send ended, accounted.complete⟩
  | receive collecting front => exact accounted.receive collecting front
  | hangUp _ empty finished => exact accounted.hangUp bounded empty finished

/-- All indices are accounted for in every run, by induction over its steps. -/
theorem Run.accounted (bounded : job.Bounded) (run : Run job trace s)
    : Accounted job trace s := by
  induction run with
  | start => exact accounted_start job
  | step _ step ih => exact ih.step bounded step

end TaskFabric.Dispatch
