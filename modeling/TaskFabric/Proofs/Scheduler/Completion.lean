import TaskFabric.Dispatch
import TaskFabric.Proofs.Deadlines
import TaskFabric.Proofs.Scheduler.Settling

/-! A scheduler that serves completes what it is given. It is open, one of its workers runs, and its
deadlines can be represented; whatever else it works on, every task of a call comes back as its
handler left it.
-/

namespace TaskFabric

namespace Registry

/-- The completion that a worker delivers for a task. -/
def answer (r : Registry) (task : Task) : Completion :=
  ⟨(r.complete task).2, (r.complete task).1⟩

theorem completion_eq_answer (r : Registry) (task : Task)
    : Scheduler.completion (r.get? task.consumable) task = r.answer task := by
  unfold Scheduler.completion answer complete
  cases r.get? task.consumable <;> rfl

end Registry

namespace Scheduler

variable {s next : Scheduler} {registry : Registry}

/-- Every type of task has an expiry and, counted from now, a deadline. -/
def Punctual (s : Scheduler) : Prop :=
  ∀ type : TaskType, ∃ limit deadline,
    type.expiry? s.expire = some limit ∧ s.clock.add? limit = some deadline

/-- A scheduler in any state that it can be in, as long as it is open and one of its workers was
started and not told to quit.
-/
structure Serving (registry : Registry) (s : Scheduler) : Prop where
  reached : Reached registry s
  isOpen : s.lanes.closed = false
  runs : .running ∈ s.workers.map Worker.state
  punctual : s.Punctual

theorem Serving.keep (serving : Serving registry s) (changes : Changes s next)
    (same : SameSetting s next)
    : Serving registry next where
  reached := serving.reached.changes changes
  isOpen := same.closed.trans serving.isOpen
  runs := same.states ▸ serving.runs
  punctual := by
    unfold Punctual
    rw [same.expire, same.clock]
    exact serving.punctual

-----------------------------------------------------------------------------------------
-- Futures that are left alone
-----------------------------------------------------------------------------------------

theorem future_changeFuture_of_ne (s : Scheduler) {id other : Nat} (different : other ≠ id)
    (change : Future → Future)
    : (s.changeFuture id change).future other = s.future other := by
  simp [future, get?_changeFuture, different]

/-- The steps of workers leave open futures open. -/
theorem isClosed_step (s : Scheduler) (w : Worker) (id : Nat)
    : ((s.step w).future id).isClosed = (s.future id).isClosed := by
  have turn := turn_step s w
  generalize s.step w = next at turn
  cases turn with
  | leave _ _ | sleep _ _ _ | take _ _ _ _ | rest _ _ => rfl
  | @finish ticket handler _ =>
      have after := s.get?_changeFuture ticket.id id
        fun f => f.fulfil (completion handler ticket.task)
      simp only [changeFuture] at after
      simp only [future, changeWorker, changeFuture, after]
      cases s.futures.get? id with
      | none => rfl
      | some f =>
          simp only [Option.map_some, Option.getD_some]
          split
          · unfold Future.fulfil
            split <;> simp [*]
          · rfl

theorem isClosed_settle (s : Scheduler) (id : Nat)
    : (s.settle.future id).isClosed = (s.future id).isClosed := by
  unfold settle
  generalize s.work = fuel
  induction fuel generalizing s with
  | zero => rfl
  | succ fuel ih =>
      unfold run
      split
      · next w _ => exact (ih _).trans (isClosed_step s w id)
      · rfl

theorem future_enqueueOne {task : Task} {id other : Nat}
    (accepted : s.enqueueOne task = .ok (id, next)) (older : other ≠ s.nextTicket)
    : next.future other = s.future other := by
  obtain ⟨_, lanes, _, equal⟩ := enqueueOne_eq_ok accepted
  have futures : next.futures = s.futures.insert s.nextTicket .start :=
    equal ▸ futures_wakeOne _
  rw [future, futures, SortedMap.get?_insert_of_ne _ older, future]

-----------------------------------------------------------------------------------------
-- Completions that are ready
-----------------------------------------------------------------------------------------

/-- The completion of a ticket is there and has not been read. -/
structure Ready (s : Scheduler) (id : Nat) (result : Completion) : Prop where
  delivered : (s.future id).delivery = .delivered result
  unread : (s.future id).isClosed = false

theorem Ready.wait {id : Nat} {result : Completion} (ready : s.Ready id result)
    : (s.wait id).1 = .ok result := by
  simp [Scheduler.wait, Future.wait, ready.delivered, ready.unread]

/-- A scheduler that serves has every completion ready once it has settled. -/
theorem Serving.ready_settle (serving : Serving registry s) (prompt : registry.Prompt)
    {ticket : Ticket} (accepted : Accepted s ticket)
    (unread : (s.future ticket.id).isClosed = false)
    : s.settle.Ready ticket.id (registry.answer ticket.task) := by
  obtain ⟨sound, _⟩ := serving.reached.sound_and_vigilant
  have settled := serving.keep (changes_settle s) (sameSetting_settle s)
  obtain ⟨stillSound, vigilant⟩ := settled.reached.sound_and_vigilant
  have finished := (quiet_settle sound).not_outstanding stillSound vigilant
    (settled.reached.gate_eq_nil prompt) settled.isOpen settled.runs ticket
  obtain ⟨f, found, shows⟩ := (accepted.changes sound (changes_settle s)).kept
  have same : s.settle.future ticket.id = f := by simp [future, found]
  have stillUnread : f.isClosed = false :=
    same ▸ (isClosed_settle s ticket.id).trans unread
  refine ⟨?_, same ▸ stillUnread⟩
  rw [same]
  unfold Shows at shows
  cases delivery : f.delivery with
  | pending => simp [delivery, finished, stillUnread] at shows
  | delivered result =>
      simp only [delivery, settled.reached.registry_eq, Registry.completion_eq_answer] at shows
      rw [shows]
  | abandoned => simp [delivery, settled.isOpen] at shows

theorem exists_enqueueOne (isOpen : s.lanes.closed = false) (task : Task)
    : ∃ id queued, s.enqueueOne task = .ok (id, queued) := by
  obtain ⟨lanes, pushed⟩ := Lanes.exists_push? isOpen ⟨s.nextTicket, task⟩
  exact ⟨_, _, by rw [enqueueOne, push?, pushed]; rfl⟩

/-- A scheduler that serves completes a task, and goes on serving. -/
theorem Serving.done (serving : Serving registry s) (prompt : registry.Prompt) (task : Task)
    : (s.done task).1 = .ok (registry.answer task) ∧ Serving registry (s.done task).2 := by
  refine ⟨?_, serving.keep (changes_done s task) (sameSetting_done s task)⟩
  obtain ⟨limit, _, bounded, _⟩ := serving.punctual task.type
  obtain ⟨id, queued, entered⟩ := exists_enqueueOne serving.isOpen task
  have waiting := serving.keep (.single (.enqueue entered)) (sameSetting_enqueueOne entered)
  obtain ⟨accepted, unread⟩ := accepted_enqueueOne entered
  have ready := waiting.ready_settle prompt accepted unread
  simp only [Scheduler.done, bounded, entered, ready.wait]
  rfl

-----------------------------------------------------------------------------------------
-- Batches
-----------------------------------------------------------------------------------------

/-- Queueing tasks on open lanes gives each of them a ticket of its own, in their order, by
induction on the tasks; the futures that were there before stay as they are.
-/
theorem exists_enqueueEach (isOpen : s.lanes.closed = false) (sound : Sound s)
    (tasks : List (UInt64 × Task))
    : ∃ ids queued,
        s.enqueueEach tasks = .ok (ids, queued)
        ∧ ids.map Prod.fst = tasks.map Prod.fst
        ∧ (ids.map Prod.snd).Nodup
        ∧ (∀ id ∈ ids.map Prod.snd, s.nextTicket ≤ id)
        ∧ (∀ id < s.nextTicket, queued.future id = s.future id)
        ∧ ∀ entry ∈ ids, ∃ task,
            (entry.1, task) ∈ tasks
            ∧ Accepted queued ⟨entry.2, task⟩
            ∧ (queued.future entry.2).isClosed = false := by
  induction tasks generalizing s with
  | nil => exact ⟨[], s, rfl, rfl, .nil, by simp, by simp, by simp⟩
  | cons entry rest ih =>
      obtain ⟨index, task⟩ := entry
      obtain ⟨id, next, entered⟩ := exists_enqueueOne isOpen task
      have stillOpen := (sameSetting_enqueueOne entered).closed.trans isOpen
      have stillSound := sound.change (.enqueue entered)
      obtain ⟨others, queued, later, keys, distinct, above, before, out⟩ := ih stillOpen stillSound
      obtain ⟨accepted, unread⟩ := accepted_enqueueOne entered
      obtain ⟨rfl, _⟩ := enqueueOne_eq_ok entered
      have higher : s.nextTicket < next.nextTicket := accepted.issued
      refine ⟨(index, s.nextTicket) :: others, queued, ?_, ?_, ?_, ?_, ?_, ?_⟩
      · simp only [enqueueEach, entered, later]
      · simp only [List.map_cons, keys]
      · refine List.nodup_cons.mpr ⟨fun again => ?_, distinct⟩
        have bound := above s.nextTicket again
        omega
      · intro id member
        rcases List.mem_cons.mp member with rfl | known
        · exact Nat.le_refl _
        · have bound := above id known
          omega
      · intro id older
        rw [before id (by omega), future_enqueueOne entered (Nat.ne_of_lt older)]
      · intro entry member
        rcases List.mem_cons.mp member with rfl | known
        · refine ⟨task, List.mem_cons_self, ?_, ?_⟩
          · exact accepted.changes stillSound (changes_enqueueEach later)
          · rw [before s.nextTicket higher]
            exact unread
        · obtain ⟨other, listed, kept⟩ := out entry known
          exact ⟨other, List.mem_cons_of_mem _ listed, kept⟩

/-- Waiting for completions that are ready takes each of them, by induction on the waits: releasing
one future leaves the others as they are.
-/
theorem collect_eq {arrival? : Nat → Option Instant} {now : Instant}
    {waits : List (UInt64 × Nat × Instant)} {answers : UInt64 → Completion}
    (ready : ∀ wait ∈ waits, s.Ready wait.2.1 (answers wait.1))
    (arrived : ∀ wait ∈ waits, ∃ at_, arrival? wait.2.1 = some at_ ∧ at_.nanos ≤ now.nanos)
    (distinct : (waits.map fun wait => wait.2.1).Nodup)
    : (collect arrival? now waits s).1 = waits.map fun wait => (wait.1, .ok (answers wait.1)) := by
  induction waits generalizing now s with
  | nil => rfl
  | cons wait rest ih =>
      obtain ⟨index, id, deadline⟩ := wait
      obtain ⟨at_, came, early⟩ := arrived _ List.mem_cons_self
      obtain ⟨fresh, others⟩ := List.nodup_cons.mp distinct
      have first := (ready _ List.mem_cons_self).wait
      have inTime : at_.nanos ≤ max now.nanos deadline.nanos := by omega
      simp only at came first fresh
      simp only [collect, Instant.await, came, inTime, if_true, first, List.map_cons]
      refine congrArg _ (ih ?_ ?_ others)
      · intro wait member
        have different : wait.2.1 ≠ id := by
          rintro rfl
          exact fresh (List.mem_map_of_mem member)
        have known := ready wait (List.mem_cons_of_mem _ member)
        have same : (((s.wait id).2).closeFuture id).future wait.2.1 = s.future wait.2.1 :=
          (future_changeFuture_of_ne _ different _).trans
            (future_changeFuture_of_ne s different _)
        exact ⟨same ▸ known.delivered, same ▸ known.unread⟩
      · intro wait member
        obtain ⟨then_, known, before⟩ := arrived wait (List.mem_cons_of_mem _ member)
        exact ⟨then_, known, Nat.le_trans before (Nat.le_max_left _ _)⟩

/-- The deadlines of tasks exist, one for each, by induction on the tasks. -/
theorem Punctual.exists_deadlines (punctual : s.Punctual) (tasks : List (UInt64 × Task))
    : ∃ expiries deadlines,
        s.expiries? tasks = some expiries
        ∧ expiries.mapM s.clock.add? = some deadlines
        ∧ deadlines.length = tasks.length := by
  induction tasks with
  | nil => exact ⟨[], [], rfl, rfl, rfl⟩
  | cons entry rest ih =>
      obtain ⟨limit, deadline, bounded, added⟩ := punctual entry.2.type
      obtain ⟨expiries, deadlines, found, counted, size⟩ := ih
      unfold expiries? at found
      refine ⟨limit :: expiries, deadline :: deadlines, ?_, ?_, congrArg (· + 1) size⟩
      · simp [expiries?, List.mapM_cons, bounded, found]
      · simp [List.mapM_cons, added, counted]

theorem map_waits {ids : List (UInt64 × Nat)} {deadlines : List Instant}
    (size : deadlines.length = ids.length)
    : (List.zipWith (fun (index, id) deadline => (index, id, deadline)) ids deadlines).map
        (fun wait => (wait.1, wait.2.1))
      = ids := by
  induction ids generalizing deadlines with
  | nil => rfl
  | cons entry rest ih =>
      cases deadlines with
      | nil => simp at size
      | cons deadline others =>
          simp only [List.length_cons, Nat.add_right_cancel_iff] at size
          simp only [List.zipWith_cons_cons, List.map_cons, ih size]

/-- A scheduler that serves completes every task of a batch, and goes on serving. -/
theorem Serving.doneEach (serving : Serving registry s) (prompt : registry.Prompt) (tasks : Batch)
    : (∃ outcomes,
        (s.doneEach tasks).1 = .ok outcomes
        ∧ ∀ index task,
            tasks.get? index = some task
            → outcomes.get? index = some (.ok (registry.answer task)))
      ∧ Serving registry (s.doneEach tasks).2 := by
  refine ⟨?_, serving.keep (changes_doneEach s tasks) (sameSetting_doneEach s tasks)⟩
  obtain ⟨sound, _⟩ := serving.reached.sound_and_vigilant
  obtain ⟨expiries, deadlines, found, counted, size⟩ :=
    serving.punctual.exists_deadlines tasks.toList
  obtain ⟨ids, queued, entered, keys, distinct, _, _, out⟩ :=
    exists_enqueueEach serving.isOpen sound tasks.toList
  have waiting := serving.keep (changes_enqueueEach entered) (sameSetting_enqueueEach entered)
  have clock := (sameSetting_enqueueEach entered).clock
  have stillClock := (sameSetting_settle queued).clock.trans clock
  -- The completion under an index is the one of the task that the batch has there.
  let answers (index : UInt64) : Completion :=
    registry.answer ((tasks.get? index).getD .empty)
  have ready : ∀ entry ∈ ids, queued.settle.Ready entry.2 (answers entry.1) := by
    intro entry member
    obtain ⟨task, listed, accepted, unread⟩ := out entry member
    have known : (tasks.get? entry.1).getD .empty = task := by
      rw [SortedMap.mem_toList_iff.mp listed, Option.getD_some]
    simp only [answers, known]
    exact waiting.ready_settle prompt accepted unread
  have lengths : deadlines.length = ids.length := by
    have same := congrArg List.length keys
    simp only [List.length_map] at same
    omega
  generalize waitsEq : List.zipWith (fun (index, id) deadline => (index, id, deadline)) ids
    deadlines = waits
  have pairs : waits.map (fun wait => (wait.1, wait.2.1)) = ids := waitsEq ▸ map_waits lengths
  have indices : waits.map (fun wait => wait.1) = tasks.keys := by
    have firsts := congrArg (List.map Prod.fst) pairs
    rw [keys, List.map_map] at firsts
    exact firsts
  have tickets : waits.map (fun wait => wait.2.1) = ids.map Prod.snd := by
    rw [← pairs, List.map_map]
    rfl
  have readyWaits : ∀ wait ∈ waits, queued.settle.Ready wait.2.1 (answers wait.1) :=
    fun wait member => ready (wait.1, wait.2.1) (pairs ▸ List.mem_map_of_mem member)
  have arrived : ∀ wait ∈ waits, ∃ at_,
      queued.settle.arrival? wait.2.1 = some at_ ∧ at_.nanos ≤ s.clock.nanos := by
    intro wait member
    refine ⟨queued.settle.clock, ?_, Nat.le_of_eq (congrArg Instant.nanos stillClock)⟩
    simp only [arrival?, (readyWaits wait member).delivered]
  have collected := collect_eq readyWaits arrived (tickets ▸ distinct)
  refine ⟨SortedMap.ofList (waits.map fun wait => (wait.1, .ok (answers wait.1))), ?_, ?_⟩
  · simp only [Scheduler.doneEach, found, entered, counted, waitsEq, collected]
  · intro index task listed
    have answer : answers index = registry.answer task := by
      simp only [answers, listed, Option.getD_some]
    have member : index ∈ waits.map fun wait => wait.1 :=
      indices ▸ SortedMap.mem_keys_iff.mpr ⟨task, listed⟩
    obtain ⟨wait, known, rfl⟩ := List.mem_map.mp member
    refine SortedMap.get?_ofList_of_mem ?_ (List.mem_map.mpr ⟨wait, known, by rw [answer]⟩)
    rw [List.map_map]
    exact indices ▸ tasks.keys_nodup

/-- A scheduler that serves runs a batch: every task comes back as its handler left it. -/
theorem Serving.runBatch (serving : Serving registry s) (prompt : registry.Prompt) (tasks : Batch)
    : (s.runBatch tasks).1 = some (tasks.map fun _ task => (registry.complete task).2)
      ∧ Serving registry (s.runBatch tasks).2 := by
  obtain ⟨⟨outcomes, completed, answered⟩, after⟩ := serving.doneEach prompt tasks
  rcases ran : s.doneEach tasks with ⟨result, last⟩
  rw [ran] at completed after
  subst completed
  simp only [Scheduler.runBatch, ran]
  refine ⟨congrArg some (SortedMap.map_congr ?_), after⟩
  intro index task listed
  simp only [answered index task listed]
  rfl

-----------------------------------------------------------------------------------------
-- Schedulers of configured nodes
-----------------------------------------------------------------------------------------

theorem attachMany_spec (s : Scheduler) (count : Nat)
    : (s.attachMany count).lanes = s.lanes
      ∧ (s.attachMany count).expire = s.expire
      ∧ (s.attachMany count).clock = s.clock
      ∧ s.workers ⊆ (s.attachMany count).workers := by
  induction count generalizing s with
  | zero => exact ⟨rfl, rfl, rfl, fun _ member => member⟩
  | succ count ih =>
      obtain ⟨lanes, expire, clock, workers⟩ := ih s.attach
      exact ⟨lanes, expire, clock, fun _ member => workers (List.mem_append_left _ member)⟩

/-- The scheduler of a node that was just started serves, at any base expiry of a configuration. -/
theorem serving_started (registry : Registry) (ms : UInt64) {workers : Nat} (some : 0 < workers)
    : Serving registry (started registry (.ofMillis ms) workers) := by
  obtain ⟨count, rfl⟩ := Nat.exists_eq_add_one.mpr some
  obtain ⟨lanes, expire, clock, members⟩ :=
    attachMany_spec (create registry (.ofMillis ms)).attach count
  have same := sameSetting_settle
    ((create registry (.ofMillis ms)).attachMany (count + 1)).launchAll
  refine {
    reached := reached_started registry _ _
    isOpen := same.closed.trans (congrArg Lanes.closed lanes)
    runs := ?_
    punctual := ?_
  }
  · rw [started, same.states]
    have first : Worker.attached 1
        ∈ ((create registry (.ofMillis ms)).attachMany (count + 1)).workers :=
      members (by simp [attach, create])
    refine List.mem_map.mpr ⟨(Worker.attached 1).launch, ?_, rfl⟩
    exact List.mem_map.mpr ⟨_, first, rfl⟩
  · intro type
    obtain ⟨limit, known, _⟩ := type.exists_expiry? ms
    obtain ⟨deadline, added⟩ := Instant.exists_add? ⟨0⟩ (by decide) known
    refine ⟨limit, deadline, ?_, ?_⟩
    · rw [started, same.expire]
      exact (congrArg type.expiry? expire).trans known
    · rw [started, same.clock]
      exact (congrArg (fun now : Instant => now.add? limit) clock).trans added

end Scheduler

end TaskFabric
