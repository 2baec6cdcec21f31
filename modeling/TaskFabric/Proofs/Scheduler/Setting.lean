import TaskFabric.Proofs.Scheduler.LaneContents
import TaskFabric.Proofs.Scheduler.Operations

/-! The handlers, the base expiry and the clock of a scheduler are its setting, and so are the
states of its workers and whether its lanes are open: queueing tasks, waiting for them and the work
on them leave it as it is.
-/

namespace TaskFabric.Scheduler

/-- Two states of a scheduler have the same setting. -/
structure SameSetting (s next : Scheduler) : Prop where
  registry : next.registry = s.registry
  expire : next.expire = s.expire
  clock : next.clock = s.clock
  closed : next.lanes.closed = s.lanes.closed
  states : next.workers.map Worker.state = s.workers.map Worker.state

theorem SameSetting.refl (s : Scheduler) : SameSetting s s := ⟨rfl, rfl, rfl, rfl, rfl⟩

theorem SameSetting.trans {s middle next : Scheduler} (first : SameSetting s middle)
    (second : SameSetting middle next)
    : SameSetting s next where
  registry := second.registry.trans first.registry
  expire := second.expire.trans first.expire
  clock := second.clock.trans first.clock
  closed := second.closed.trans first.closed
  states := second.states.trans first.states

/-- Workers may change as long as they keep their states. -/
theorem states_changeWorker (s : Scheduler) (id : Nat) {change : Worker → Worker}
    (same : ∀ w, (change w).state = w.state)
    : (s.changeWorker id change).workers.map Worker.state = s.workers.map Worker.state := by
  simp only [changeWorker, List.map_map]
  apply List.map_congr_left
  intro w _
  simp only [Function.comp_apply]
  split
  · exact same w
  · rfl

theorem sameSetting_wakeOne (s : Scheduler) : SameSetting s s.wakeOne := by
  unfold wakeOne
  split
  · exact ⟨rfl, rfl, rfl, rfl, s.states_changeWorker _ Worker.state_wake⟩
  · exact .refl s

theorem sameSetting_step (s : Scheduler) (w : Worker) : SameSetting s (s.step w) := by
  have turn := turn_step s w
  generalize s.step w = next at turn
  cases turn with
  | leave _ _ | sleep _ _ _ | finish _ =>
      exact ⟨rfl, rfl, rfl, rfl, s.states_changeWorker w.id fun _ => rfl⟩
  | take _ _ popped _ =>
      have closed := (Lanes.pop?_eq_some popped).1
      exact ⟨rfl, rfl, rfl, closed, s.states_changeWorker w.id fun _ => rfl⟩
  | rest _ _ => exact .refl s

theorem sameSetting_run (fuel : Nat) (s : Scheduler) : SameSetting s (run fuel s) := by
  induction fuel generalizing s with
  | zero => exact .refl s
  | succ fuel ih =>
      unfold run
      split
      · next w _ => exact (sameSetting_step s w).trans (ih (s.step w))
      · exact .refl s

theorem sameSetting_settle (s : Scheduler) : SameSetting s s.settle := sameSetting_run s.work s

-----------------------------------------------------------------------------------------
-- Submission and waiting
-----------------------------------------------------------------------------------------

theorem sameSetting_enqueueOne {s queued : Scheduler} {task : Task} {id : Nat}
    (accepted : s.enqueueOne task = .ok (id, queued))
    : SameSetting s queued := by
  obtain ⟨_, lanes, pushed, rfl⟩ := enqueueOne_eq_ok accepted
  obtain ⟨wasOpen, isOpen, _⟩ := Lanes.push?_eq_some pushed
  refine SameSetting.trans ?_ (sameSetting_wakeOne _)
  exact ⟨rfl, rfl, rfl, isOpen.trans wasOpen.symm, rfl⟩

theorem sameSetting_enqueueEach {s queued : Scheduler} {tasks : List (UInt64 × Task)}
    {ids : List (UInt64 × Nat)} (accepted : s.enqueueEach tasks = .ok (ids, queued))
    : SameSetting s queued := by
  induction tasks generalizing s ids with
  | nil =>
      simp only [enqueueEach, Except.ok.injEq, Prod.mk.injEq] at accepted
      obtain ⟨_, rfl⟩ := accepted
      exact .refl s
  | cons entry rest ih =>
      obtain ⟨id, next, others, first, later, _⟩ := enqueueEach_cons_eq_ok accepted
      exact (sameSetting_enqueueOne first).trans (ih later)

theorem sameSetting_collect (arrival? : Nat → Option Instant) (now : Instant)
    (waits : List (UInt64 × Nat × Instant)) (s : Scheduler)
    : SameSetting s (collect arrival? now waits s).2 := by
  induction waits generalizing now s with
  | nil => exact .refl s
  | cons entry rest ih =>
      obtain ⟨index, id, deadline⟩ := entry
      simp only [collect]
      refine SameSetting.trans ?_ (ih _ _)
      split <;> exact ⟨rfl, rfl, rfl, rfl, rfl⟩

theorem sameSetting_done (s : Scheduler) (task : Task) : SameSetting s (s.done task).2 := by
  unfold done
  split
  · exact .refl s
  · split
    · exact .refl s
    · next accepted =>
        refine (sameSetting_enqueueOne accepted).trans ?_
        exact (sameSetting_settle _).trans ⟨rfl, rfl, rfl, rfl, rfl⟩

theorem sameSetting_doneEach (s : Scheduler) (tasks : Batch)
    : SameSetting s (s.doneEach tasks).2 := by
  unfold doneEach
  split
  · exact .refl s
  · split
    · exact .refl s
    · next accepted =>
        refine (sameSetting_enqueueEach accepted).trans ?_
        split
        · exact .refl _
        · exact (sameSetting_settle _).trans (sameSetting_collect _ _ _ _)

end TaskFabric.Scheduler
