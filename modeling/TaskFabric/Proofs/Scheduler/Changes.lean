import Mathlib.Logic.Relation
import TaskFabric.Proofs.Scheduler.Setting

/-! Everything that can happen to a scheduler, in any order: workers are attached, started and told
to quit, tasks are queued, workers take their steps, submitters wait for their futures and release
them, the lanes are closed, and time passes. The operations that queue tasks and wait for them are
made of such changes.
-/

namespace TaskFabric.Scheduler

/-- One change of a scheduler. A busy worker may finish at any time, also one at the gate. -/
inductive Change : Scheduler → Scheduler → Prop
  | attach {s} : Change s s.attach
  | launch {s id next} (launched : s.launch id = .ok next) : Change s next
  | launchAll {s} : Change s s.launchAll
  | quit {s id next} (told : s.quit id = .ok next) : Change s next
  | enqueue {s task id queued} (accepted : s.enqueueOne task = .ok (id, queued)) : Change s queued
  | step {s w} (member : w ∈ s.workers) : Change s (s.step w)
  | wait {s} (id : Nat) : Change s (s.wait id).2
  | expire {s} (id : Nat) : Change s (s.changeFuture id Future.expire)
  | release {s} (id : Nat) : Change s (s.closeFuture id)
  | close {s} : Change s s.close
  | pass {s now} (later : s.clock.nanos ≤ now.nanos) : Change s { s with clock := now }

/-- Changes one after another. -/
abbrev Changes : Scheduler → Scheduler → Prop := Relation.ReflTransGen Change

/-- The states that a scheduler with some handlers can be in. -/
def Reached (registry : Registry) (s : Scheduler) : Prop :=
  ∃ expire, Changes (create registry expire) s

theorem Reached.changes {registry : Registry} {s next : Scheduler} (reached : Reached registry s)
    (changes : Changes s next)
    : Reached registry next := by
  obtain ⟨expire, before⟩ := reached
  exact ⟨expire, before.trans changes⟩

-----------------------------------------------------------------------------------------
-- Operations made of changes
-----------------------------------------------------------------------------------------

theorem changes_run (fuel : Nat) (s : Scheduler) : Changes s (run fuel s) := by
  induction fuel generalizing s with
  | zero => exact .refl
  | succ fuel ih =>
      unfold run
      split
      · next w found =>
          have member := List.mem_of_find?_eq_some found
          exact (Relation.ReflTransGen.single (.step member)).trans (ih _)
      · exact .refl

theorem changes_settle (s : Scheduler) : Changes s s.settle := changes_run s.work s

theorem changes_enqueueEach {s queued : Scheduler} {tasks : List (UInt64 × Task)}
    {ids : List (UInt64 × Nat)} (accepted : s.enqueueEach tasks = .ok (ids, queued))
    : Changes s queued := by
  induction tasks generalizing s ids with
  | nil =>
      simp only [enqueueEach, Except.ok.injEq, Prod.mk.injEq] at accepted
      obtain ⟨_, rfl⟩ := accepted
      exact .refl
  | cons entry rest ih =>
      obtain ⟨id, next, others, first, later, _⟩ := enqueueEach_cons_eq_ok accepted
      exact .head (.enqueue first) (ih later)

theorem changes_collect (arrival? : Nat → Option Instant) (now : Instant)
    (waits : List (UInt64 × Nat × Instant)) (s : Scheduler)
    : Changes s (collect arrival? now waits s).2 := by
  induction waits generalizing now s with
  | nil => exact .refl
  | cons entry rest ih =>
      obtain ⟨index, id, deadline⟩ := entry
      simp only [collect]
      refine .trans ?_ (ih _ _)
      split
      · exact .tail (.single (.wait id)) (.release id)
      · exact .tail (.single (.expire id)) (.release id)

theorem changes_done (s : Scheduler) (task : Task) : Changes s (s.done task).2 := by
  unfold done
  split
  · exact .refl
  · split
    · exact .refl
    · next id queued accepted =>
        have settled := (changes_settle queued).head (.enqueue accepted)
        exact (settled.tail (.wait id)).tail (.release id)

theorem changes_doneEach (s : Scheduler) (tasks : Batch) : Changes s (s.doneEach tasks).2 := by
  unfold doneEach
  split
  · exact .refl
  · split
    · exact .refl
    · next accepted =>
        refine (changes_enqueueEach accepted).trans ?_
        split
        · exact .refl
        · exact (changes_settle _).trans (changes_collect _ _ _ _)

theorem changes_attachMany (s : Scheduler) (count : Nat) : Changes s (s.attachMany count) := by
  induction count generalizing s with
  | zero => exact .refl
  | succ count ih => exact .head .attach (ih s.attach)

/-- A scheduler whose workers were started is one of those that can be reached. -/
theorem reached_started (registry : Registry) (expire : Duration) (workers : Nat)
    : Reached registry (started registry expire workers) :=
  ⟨expire, ((changes_attachMany _ workers).tail .launchAll).trans (changes_settle _)⟩

end TaskFabric.Scheduler
