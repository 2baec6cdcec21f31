import TaskFabric.Scheduler.Batch

/-! What the operations of a scheduler can do: each one is told by its cases, with everything that
was checked before it.
-/

namespace TaskFabric

-----------------------------------------------------------------------------------------
-- Waking
-----------------------------------------------------------------------------------------

namespace Worker

@[simp]
theorem id_wake (w : Worker) : w.wake.id = w.id := by
  unfold wake; split <;> rfl

@[simp]
theorem state_wake (w : Worker) : w.wake.state = w.state := by
  unfold wake; split <;> rfl

theorem activity_wake (w : Worker)
    : w.wake.activity = w.activity ∨ w.activity = .asleep ∧ w.wake.activity = .awake := by
  cases doing : w.activity <;> simp [wake, doing]

theorem busy_of_busy_wake (w : Worker) {ticket : Ticket} {handler : Option Handler}
    (doing : w.wake.activity = .busy ticket handler)
    : w.activity = .busy ticket handler := by
  rcases w.activity_wake with same | ⟨_, awake⟩
  · exact same.symm.trans doing
  · simp [awake] at doing

/-- Waking a worker does not matter for what neither sleepers nor those that are awake do. -/
theorem activity_wake_eq_iff (w : Worker) {activity : Activity} (awake : activity ≠ .awake)
    (asleep : activity ≠ .asleep)
    : w.wake.activity = activity ↔ w.activity = activity := by
  cases doing : w.activity <;> simp [wake, doing, awake.symm, asleep.symm]

theorem activity_wake_ne_asleep (w : Worker) : w.wake.activity ≠ .asleep := by
  cases doing : w.activity <;> simp [wake, doing]

end Worker

namespace Scheduler

variable {s next : Scheduler}

-----------------------------------------------------------------------------------------
-- Workers and submission
-----------------------------------------------------------------------------------------

theorem worker?_eq_some {w : Worker} {id : Nat} (found : s.worker? id = some w)
    : w ∈ s.workers ∧ w.id = id :=
  ⟨List.mem_of_find?_eq_some found, by simpa using List.find?_some found⟩

/-- A worker that is started was idle, or it runs already and nothing changes. -/
theorem launch_eq_ok {id : Nat} (launched : s.launch id = .ok next)
    : next = s
      ∨ ∃ w ∈ s.workers,
          w.id = id ∧ w.state = .idle ∧ next = s.changeWorker id Worker.launch := by
  unfold Scheduler.launch at launched
  cases found : s.worker? id with
  | none => simp [found] at launched
  | some w =>
      obtain ⟨known, same⟩ := worker?_eq_some found
      cases doing : w.state with
      | idle =>
          simp only [found, doing, Except.ok.injEq] at launched
          exact .inr ⟨w, known, same, doing, launched.symm⟩
      | running =>
          simp only [found, doing, Except.ok.injEq] at launched
          exact .inl launched.symm
      | stopped => simp [found, doing] at launched

/-- When a worker is told to quit, all are woken. -/
theorem quit_eq_ok {id : Nat} (told : s.quit id = .ok next)
    : next
      = { s with
          workers := s.workers.map fun w => if w.id == id then w.quit.wake else w.wake } := by
  unfold Scheduler.quit at told
  split at told
  · split at told
    · simp only [Except.ok.injEq] at told
      rw [← told, wakeAll, changeWorker, List.map_map]
      congr 2
      funext w
      simp only [Function.comp_apply]
      split <;> rfl
    · cases told
  · cases told

/-- A task that is accepted gets the next ticket, which is pushed, and a worker is woken. -/
theorem enqueueOne_eq_ok {s queued : Scheduler} {task : Task} {id : Nat}
    (accepted : s.enqueueOne task = .ok (id, queued))
    : id = s.nextTicket
      ∧ ∃ lanes,
          s.lanes.push? ⟨s.nextTicket, task⟩ = some lanes
          ∧ queued
            = wakeOne
                { s with
                  lanes
                  futures := s.futures.insert s.nextTicket .start
                  nextTicket := s.nextTicket + 1 } := by
  unfold enqueueOne push? at accepted
  cases pushed : s.lanes.push? ⟨s.nextTicket, task⟩ with
  | none => simp [pushed] at accepted
  | some lanes =>
      simp only [pushed, Option.map_some, Except.ok.injEq, Prod.mk.injEq] at accepted
      exact ⟨accepted.1.symm, lanes, rfl, accepted.2.symm⟩

theorem enqueueEach_cons_eq_ok {s last : Scheduler} {index : UInt64} {task : Task}
    {rest : List (UInt64 × Task)} {ids : List (UInt64 × Nat)}
    (accepted : s.enqueueEach ((index, task) :: rest) = .ok (ids, last))
    : ∃ id next others,
        s.enqueueOne task = .ok (id, next)
        ∧ next.enqueueEach rest = .ok (others, last)
        ∧ ids = (index, id) :: others := by
  unfold enqueueEach at accepted
  cases first : s.enqueueOne task with
  | error _ => simp [first] at accepted
  | ok result =>
      obtain ⟨id, next⟩ := result
      cases later : next.enqueueEach rest with
      | error _ => simp [first, later] at accepted
      | ok result =>
          obtain ⟨others, reached⟩ := result
          simp only [first, later, Except.ok.injEq, Prod.mk.injEq] at accepted
          obtain ⟨rfl, rfl⟩ := accepted
          exact ⟨id, next, others, rfl, later, rfl⟩

-----------------------------------------------------------------------------------------
-- Steps of workers
-----------------------------------------------------------------------------------------

/-- What a step of a worker can be. -/
inductive Turn (s : Scheduler) (w : Worker) : Scheduler → Prop
  | leave (awake : w.activity = .awake)
    (sent : w.state = .stopped ∨ s.lanes.closed = true ∧ s.lanes.pop? = none)
    : Turn s w (s.changeWorker w.id fun w => { w with activity := .exited })
  | sleep (awake : w.activity = .awake) (active : w.state ≠ .stopped)
    (empty : s.lanes.pop? = none)
    : Turn s w (s.changeWorker w.id fun w => { w with activity := .asleep })
  | take {ticket lanes log gate} (awake : w.activity = .awake) (active : w.state ≠ .stopped)
    (popped : s.lanes.pop? = some (ticket, lanes))
    (gated
      : gate =
          if (s.registry.get? ticket.task.consumable).any Handler.gated then s.gate ++ [w.id]
          else s.gate)
    : Turn s w
        ({ s with lanes, log, gate }.changeWorker w.id fun w =>
          { w with activity := .busy ticket (s.registry.get? ticket.task.consumable) })
  | finish {ticket handler} (busy : w.activity = .busy ticket handler)
    : Turn s w
        { (s.changeFuture ticket.id fun f => f.fulfil (completion handler ticket.task)).changeWorker
            w.id fun w => { w with activity := .awake } with
          gate := s.gate.filter (· != w.id) }
  | rest (idle : ∀ ticket handler, w.activity ≠ .busy ticket handler)
    (resting : w.activity ≠ .awake)
    : Turn s w s

theorem turn_step (s : Scheduler) (w : Worker) : Turn s w (s.step w) := by
  cases doing : w.activity with
  | awake =>
      simp only [step, doing, look]
      split
      · next stopped => exact .leave doing (.inl (by simpa using stopped))
      · next active =>
          split
          · next popped => exact .take doing (by simpa using active) popped rfl
          · next empty =>
              split
              · next shut => exact .leave doing (.inr ⟨shut, empty⟩)
              · exact .sleep doing (by simpa using active) empty
  | busy ticket handler =>
      simp only [step, doing, finish]
      exact .finish doing
  | unborn | asleep | exited =>
      simp only [step, doing]
      exact .rest (by simp [doing]) (by simp [doing])

theorem turn_look {w : Worker} (awake : w.activity = .awake) : Turn s w (s.look w) := by
  have same : s.step w = s.look w := by simp only [step, awake]
  exact same ▸ turn_step s w

/-- A worker that looks at the lanes leaves, sleeps, or takes a ticket; and if it was told to quit,
it leaves.
-/
theorem exists_activity_look {w : Worker} (awake : w.activity = .awake)
    : ∃ activity,
        activity ≠ .unborn
        ∧ (w.state = .stopped → activity = .exited)
        ∧ (s.look w).nextWorker = s.nextWorker
        ∧ (s.look w).workers = (s.changeWorker w.id fun w => { w with activity }).workers := by
  have turn := turn_look (s := s) awake
  generalize s.look w = next at turn
  cases turn with
  | leave _ _ => exact ⟨.exited, by simp, fun _ => rfl, rfl, rfl⟩
  | sleep _ active _ => exact ⟨.asleep, by simp, fun stopped => absurd stopped active, rfl, rfl⟩
  | take _ active _ _ => exact ⟨.busy _ _, by simp, fun stopped => absurd stopped active, rfl, rfl⟩
  | finish busy => simp [awake] at busy
  | rest _ resting => exact absurd awake resting

theorem workers_finish {w : Worker} {ticket : Ticket} {handler : Option Handler}
    (busy : w.activity = .busy ticket handler)
    : (s.finish w).workers
      = (s.changeWorker w.id fun w => { w with activity := .awake }).workers := by
  simp only [finish, busy]
  rfl

theorem nextWorker_finish (s : Scheduler) (w : Worker)
    : (s.finish w).nextWorker = s.nextWorker := by
  unfold finish
  split <;> rfl

end Scheduler

end TaskFabric
