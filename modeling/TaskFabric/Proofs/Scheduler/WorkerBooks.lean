import TaskFabric.Proofs.Scheduler.TicketShifts
import TaskFabric.Proofs.Scheduler.WorkerCalls

/-! What critical sections do to workers. The parts of calls attach workers, start them and tell
them to quit; everything else leaves numbers and states as they are. Either way states only advance,
the books about attached, started and stopped workers stay right, the worker with the lock of the
lanes stays awake, and no work in progress is started or ended by a call.
-/

namespace TaskFabric

/-- How far a worker has got in its life. -/
def WorkerState.age : WorkerState → Nat
  | .idle => 0
  | .running => 1
  | .stopped => 2

namespace Scheduler

variable {s next : Scheduler} {w : Worker} {id : Nat} {ticket : Ticket} {handler : Option Handler}

-----------------------------------------------------------------------------------------
-- Workers
-----------------------------------------------------------------------------------------

/-- Workers are numbered in turn, and have no threads before they are started. -/
structure Manned (s : Scheduler) : Prop where
  numbered : s.workers.map Worker.id = List.range' 1 s.workers.length
  nextWorker : s.nextWorker = s.workers.length + 1
  unborn : ∀ w ∈ s.workers, w.state = .idle → w.activity = .unborn

/-- The workers keep their numbers and states, and no thread is started. -/
structure Steady (s next : Scheduler) : Prop where
  nextWorker : next.nextWorker = s.nextWorker
  workers
    : ∃ change : Worker → Worker,
        next.workers = s.workers.map change
        ∧ (∀ w, (change w).id = w.id)
        ∧ (∀ w, (change w).state = w.state)
        ∧ ∀ w ∈ s.workers, (change w).activity = .unborn ↔ w.activity = .unborn

theorem steady_of_eq (workers : next.workers = s.workers)
    (nextWorker : next.nextWorker = s.nextWorker)
    : Steady s next :=
  ⟨nextWorker, id, by simp [workers], fun _ => rfl, fun _ => rfl, fun _ _ => .rfl⟩

theorem steady_wakeAll (s : Scheduler) : Steady s s.wakeAll :=
  ⟨rfl, Worker.wake, rfl, Worker.id_wake, Worker.state_wake,
    fun w _ => w.activity_wake_eq_iff nofun nofun⟩

theorem steady_wake (s : Scheduler) (id : Nat) : Steady s (s.wake id) := by
  refine ⟨rfl, _, rfl, id_ite Worker.id_wake id, fun w => ?_, fun w _ => ?_⟩
  · split
    · exact w.state_wake
    · rfl
  · split
    · exact w.activity_wake_eq_iff nofun nofun
    · rfl

/-- A worker with a thread may turn to something else. -/
theorem steady_turnTo (distinct : (s.workers.map Worker.id).Nodup) (member : w ∈ s.workers)
    (born : w.activity ≠ .unborn) {activity : Activity} (lives : activity ≠ .unborn)
    (workers : next.workers = (s.changeWorker w.id fun w => { w with activity }).workers)
    (nextWorker : next.nextWorker = s.nextWorker)
    : Steady s next := by
  refine ⟨nextWorker, _, workers, fun v => ?_, fun v => ?_, fun v known => ?_⟩
  · split <;> rfl
  · split <;> rfl
  · split
    · next same =>
        rw [eq_of_id_eq distinct known member (by simpa using same)]
        simp [lives, born]
    · rfl

theorem Steady.alike (steady : Steady s next) : Alike s next := by
  obtain ⟨nextWorker, change, workers, ids, states, _⟩ := steady
  refine ⟨?_, nextWorker.symm⟩
  simp [roster, workers, Function.comp_def, ids, states]

namespace Manned

theorem create (registry : Registry) (expire : Duration)
    : Manned (Scheduler.create registry expire) :=
  ⟨rfl, rfl, by simp [Scheduler.create]⟩

theorem distinct (manned : Manned s) : (s.workers.map Worker.id).Nodup :=
  manned.numbered ▸ List.nodup_range'

theorem id_lt (manned : Manned s) (member : w ∈ s.workers) : w.id < s.nextWorker := by
  have listed := List.mem_map_of_mem (f := Worker.id) member
  rw [manned.numbered, List.mem_range'_1] at listed
  have next := manned.nextWorker
  omega

/-- Workers may change as long as they keep their numbers and are not started by halves. -/
theorem map (manned : Manned s) {change : Worker → Worker}
    (workers : next.workers = s.workers.map change) (nextWorker : next.nextWorker = s.nextWorker)
    (ids : ∀ w, (change w).id = w.id)
    (unborn : ∀ w ∈ s.workers, (change w).state = .idle → (change w).activity = .unborn)
    : Manned next where
  numbered := by
    simpa [workers, Function.comp_def, ids] using manned.numbered
  nextWorker := by simpa [workers, nextWorker] using manned.nextWorker
  unborn v member := by
    obtain ⟨w, known, rfl⟩ := List.mem_map.mp (workers ▸ member)
    exact unborn w known

theorem steady (manned : Manned s) (steady : Steady s next) : Manned next := by
  obtain ⟨nextWorker, change, workers, ids, states, unborn⟩ := steady
  refine manned.map workers nextWorker ids fun w member idle => ?_
  exact (unborn w member).mpr (manned.unborn w member (states w ▸ idle))

theorem attach (manned : Manned s) : Manned s.attach where
  numbered := by
    simp [Scheduler.attach, Worker.attached, manned.numbered, manned.nextWorker,
      List.range'_1_concat, Nat.add_comm]
  nextWorker := by simp [Scheduler.attach, manned.nextWorker]
  unborn v member := by
    rcases List.mem_append.mp member with known | new
    · exact manned.unborn v known
    · simp only [List.mem_singleton] at new
      subst new
      exact fun _ => rfl

/-- A worker may be started or told to quit. -/
theorem changeWorker (manned : Manned s) (id : Nat) {change : Worker → Worker}
    (ids : ∀ w, (change w).id = w.id) (busy : ∀ w, (change w).state ≠ .idle)
    : Manned (s.changeWorker id change) := by
  refine manned.map rfl rfl (id_ite ids id) fun w member => ?_
  split
  · exact fun idle => absurd idle (busy w)
  · exact manned.unborn w member

theorem acted (manned : Manned s) {part : CallPart} (acted : Acted s part next)
    : Manned next := by
  cases acted with
  | attach => exact manned.attach
  | start _ => exact manned.changeWorker _ Worker.id_launch fun _ => nofun
  | runs _ => exact manned
  | raise _ => exact manned.changeWorker _ Worker.id_quit fun _ => nofun
  | wake _ => exact manned.steady s.steady_wakeAll
  | shut => exact manned.steady (steady_of_eq rfl rfl)

end Manned

/-- A worker never gets back to a state that it was in before. -/
def Ages (s next : Scheduler) : Prop :=
  ∀ id state,
    s.state? id = some state → ∃ later, next.state? id = some later ∧ state.age ≤ later.age

theorem Ages.trans {later : Scheduler} (first : Ages s next) (second : Ages next later)
    : Ages s later := by
  intro id state found
  obtain ⟨middle, known, younger⟩ := first id state found
  obtain ⟨last, after, older⟩ := second id middle known
  exact ⟨last, after, Nat.le_trans younger older⟩

theorem Alike.ages (alike : Alike s next) : Ages s next :=
  fun id state found => ⟨state, alike.state? id ▸ found, Nat.le_refl _⟩

theorem Ages.stopped (ages : Ages s next) {id : Nat} (stopped : s.state? id = some .stopped)
    : next.state? id = some .stopped := by
  obtain ⟨later, found, older⟩ := ages id .stopped stopped
  cases later with
  | stopped => exact found
  | idle | running => simp [WorkerState.age] at older

/-- A worker that is put into a state it has not passed only gets older. -/
theorem ages_changeWorker {id : Nat} {change : Worker → Worker} {state : WorkerState}
    (ids : ∀ w, (change w).id = w.id) (states : ∀ w, (change w).state = state)
    (younger : ∀ known, s.state? id = some known → known.age ≤ state.age)
    : Ages s (s.changeWorker id change) := by
  intro other known found
  rw [state?, worker?_changeWorker ids]
  split
  · next same =>
      subst same
      refine ⟨state, ?_, younger known found⟩
      obtain ⟨w, there, _⟩ := Option.map_eq_some_iff.mp found
      simp [there, states]
  · exact ⟨known, found, Nat.le_refl _⟩

theorem Acted.ages {part : CallPart} (acted : Acted s part next) : Ages s next := by
  cases acted with
  | attach =>
      intro id state found
      obtain ⟨w, there, rfl⟩ := Option.map_eq_some_iff.mp found
      refine ⟨w.state, ?_, Nat.le_refl _⟩
      have still : s.attach.worker? id = some w := by
        simp only [worker?, Scheduler.attach, List.find?_append]
        simp only [worker?] at there
        simp [there]
      simp [state?, still]
  | @start id idle =>
      refine ages_changeWorker Worker.id_launch Worker.state_launch fun known found => ?_
      rw [idle] at found
      cases found
      exact Nat.zero_le _
  | runs _ => exact (Alike.refl s).ages
  | raise _ =>
      refine ages_changeWorker Worker.id_quit Worker.state_quit fun known _ => ?_
      cases known <;> decide
  | wake _ => exact s.steady_wakeAll.alike.ages
  | shut => exact Alike.ages ⟨rfl, rfl⟩

-----------------------------------------------------------------------------------------
-- The books of the calls
-----------------------------------------------------------------------------------------

/-- The books of the calls are right about who was attached, whose thread was started, and how many
have quit.
-/
structure Booked (s : Scheduler) (attached started stopped : List Nat) : Prop where
  ids : attached = s.workers.map Worker.id
  known : started ⊆ attached
  once : started.Nodup
  threads : ∀ w ∈ s.workers, w.id ∈ started ↔ w.activity ≠ .unborn
  counted : s.workerCount + stopped.length = s.workers.length

namespace Booked

variable {attached started stopped : List Nat}

theorem steady (booked : Booked s attached started stopped) (steady : Steady s next)
    : Booked next attached started stopped := by
  obtain ⟨_, change, workers, ids, states, unborn⟩ := steady
  refine {
    ids := ?_
    known := booked.known
    once := booked.once
    threads := fun v member => ?_
    counted := ?_
  }
  · simpa [workers, Function.comp_def, ids] using booked.ids
  · obtain ⟨w, known, rfl⟩ := List.mem_map.mp (workers ▸ member)
    rw [ids, booked.threads w known]
    exact not_congr (unborn w known).symm
  · have alive : Worker.isAlive ∘ change = Worker.isAlive := by
      funext w
      simp [Worker.isAlive, states]
    simpa [workerCount, workers, List.filter_map, alive] using booked.counted

/-- One worker changes; the books of threads may have to tell of it. -/
theorem changeWorker (booked : Booked s attached started stopped)
    (distinct : (s.workers.map Worker.id).Nodup) (member : w ∈ s.workers)
    {change : Worker → Worker} {more less : List Nat} (ids : ∀ w, (change w).id = w.id)
    (once : (started ++ more).Nodup) (mine : ∀ id ∈ more, id = w.id)
    (threads : w.id ∈ started ++ more ↔ (change w).activity ≠ .unborn)
    (counted : (change w).isAlive.toNat + less.length = w.isAlive.toNat)
    : Booked (s.changeWorker w.id change) attached (started ++ more) (stopped ++ less) := by
  refine {
    ids := ?_
    known := ?_
    once := once
    threads := fun v known => ?_
    counted := ?_
  }
  · rw [booked.ids, Scheduler.changeWorker, List.map_map]
    exact List.map_congr_left fun v _ => (id_ite ids w.id v).symm
  · intro id listed
    rcases List.mem_append.mp listed with before | new
    · exact booked.known before
    · rw [mine id new, booked.ids]
      exact List.mem_map_of_mem member
  · rcases (mem_changeWorker distinct member change v).mp known with rfl | ⟨before, different⟩
    · rw [ids]
      exact threads
    · have others : v.id ∉ more := fun new => different (mine v.id new)
      rw [← booked.threads v before, List.mem_append, or_iff_left others]
  · have count := countP_changeWorker distinct member change Worker.isAlive Worker.isAlive
      fun _ _ _ => rfl
    have before := booked.counted
    simp only [workerCount, ← List.countP_eq_length_filter, List.length_append] at before ⊢
    simp only [Scheduler.changeWorker, List.length_map] at count ⊢
    omega

/-- The books stay right when a part of a call is noted, by cases on the part. -/
theorem acted (booked : Booked s attached started stopped) (manned : Manned s) {part : CallPart}
    (acted : Acted s part next)
    : Booked next (attached ++ part.attaches s) (started ++ part.starts s)
        (stopped ++ part.stops) := by
  cases acted with
  | attach =>
      have fresh : s.nextWorker ∉ started := fun listed => by
        have member := booked.known listed
        rw [booked.ids] at member
        obtain ⟨w, known, same⟩ := List.mem_map.mp member
        have lower := manned.id_lt known
        omega
      refine {
        ids := by simp [CallPart.attaches, attach, Worker.attached, booked.ids]
        known := ?_
        once := by simpa [CallPart.starts] using booked.once
        threads := fun v member => ?_
        counted := ?_
      }
      · simpa [CallPart.starts] using List.subset_append_of_subset_left _ booked.known
      · rcases List.mem_append.mp member with known | new
        · simpa [CallPart.starts] using booked.threads v known
        · simp only [List.mem_singleton] at new
          subst new
          simpa [CallPart.starts, Worker.attached] using fresh
      · have before := booked.counted
        have one
            : [Worker.attached s.nextWorker].filter Worker.isAlive = [.attached s.nextWorker] :=
          rfl
        simp only [workerCount, attach, List.filter_append, one, List.length_append,
          List.length_singleton, CallPart.stops, List.append_nil] at before ⊢
        omega
  | @start id idle =>
      obtain ⟨w, member, rfl, waits⟩ := exists_of_state? idle
      have unstarted : w.id ∉ started := fun listed =>
        (booked.threads w member).mp listed (manned.unborn w member waits)
      simp only [CallPart.attaches, CallPart.starts, CallPart.stops, idle, if_true, List.append_nil]
      rw [← List.append_nil stopped]
      refine booked.changeWorker manned.distinct member Worker.id_launch ?_ (by simp) ?_ ?_
      · refine List.nodup_append.mpr ⟨booked.once, by simp, ?_⟩
        rintro id listed _ new rfl
        exact unstarted (List.mem_singleton.mp new ▸ listed)
      · simp [Worker.launch]
      · simp only [Worker.launch, Worker.isAlive, waits]
        rfl
  | runs running =>
      simpa [CallPart.attaches, CallPart.starts, CallPart.stops, running] using booked
  | @raise id alive =>
      obtain ⟨w, member, rfl, lives⟩ := exists_of_hasAlive alive
      simp only [CallPart.attaches, CallPart.starts, CallPart.stops, List.append_nil]
      rw [← List.append_nil started]
      refine booked.changeWorker manned.distinct member Worker.id_quit ?_ (by simp) ?_ ?_
      · simpa using booked.once
      · simpa [Worker.quit] using booked.threads w member
      · rw [lives]
        rfl
  | wake notifies =>
      have woken := booked.steady s.steady_wakeAll
      rcases notifies with rfl | rfl <;>
        simpa [CallPart.attaches, CallPart.starts, CallPart.stops] using woken
  | shut =>
      have same : Steady s s.shut := steady_of_eq rfl rfl
      simpa [CallPart.attaches, CallPart.starts, CallPart.stops] using booked.steady same

end Booked

-----------------------------------------------------------------------------------------
-- The lock of the lanes
-----------------------------------------------------------------------------------------

/-- The worker with the lock of the lanes is awake, and was when it took the lock. -/
def Guarded (s : Scheduler) (inside : Option Worker) : Prop :=
  ∀ w, inside = some w
    → w.activity = .awake ∧ ∃ v ∈ s.workers, v.id = w.id ∧ v.activity = .awake

namespace Guarded

variable {inside : Option Worker}

/-- Workers may change as long as those that are awake stay awake. -/
theorem map (guarded : Guarded s inside) {change : Worker → Worker}
    (workers : next.workers = s.workers.map change) (ids : ∀ w, (change w).id = w.id)
    (awake : ∀ w, w.activity = .awake → (change w).activity = .awake)
    : Guarded next inside := by
  intro w here
  obtain ⟨up, v, member, same, doing⟩ := guarded w here
  have known := List.mem_map_of_mem (f := change) member
  exact ⟨up, change v, workers ▸ known, (ids v).trans same, awake v doing⟩

theorem of_eq (guarded : Guarded s inside) (workers : next.workers = s.workers)
    : Guarded next inside :=
  fun w here => workers ▸ guarded w here

theorem changeWorker (guarded : Guarded s inside) (id : Nat) {change : Worker → Worker}
    (ids : ∀ w, (change w).id = w.id)
    (awake : ∀ w, w.activity = .awake → (change w).activity = .awake)
    : Guarded (s.changeWorker id change) inside := by
  refine guarded.map rfl (id_ite ids id) fun w up => ?_
  split
  · exact awake w up
  · exact up

theorem acted (guarded : Guarded s inside) {part : CallPart} (acted : Acted s part next)
    : Guarded next inside := by
  cases acted with
  | attach =>
      intro w here
      obtain ⟨up, v, member, same, doing⟩ := guarded w here
      exact ⟨up, v, List.mem_append_left _ member, same, doing⟩
  | start _ => exact guarded.changeWorker _ Worker.id_launch fun _ _ => rfl
  | runs _ => exact guarded
  | raise _ => exact guarded.changeWorker _ Worker.id_quit fun _ up => up
  | wake _ => exact guarded.map rfl Worker.id_wake fun _ up => by simp [Worker.wake, up]
  | shut => exact guarded.of_eq rfl

end Guarded

-----------------------------------------------------------------------------------------
-- Work in progress
-----------------------------------------------------------------------------------------

/-- A worker works on a ticket, with the handler that it found for it. -/
def WorksOn (s : Scheduler) (id : Nat) (ticket : Ticket) (handler : Option Handler) : Prop :=
  ∃ w ∈ s.workers, w.id = id ∧ w.activity = .busy ticket handler

/-- Workers may change as long as the one in question goes on with what it does. -/
theorem worksOn_map_iff {change : Worker → Worker} (workers : next.workers = s.workers.map change)
    (ids : ∀ w, (change w).id = w.id)
    (busy
      : ∀ w ∈ s.workers,
          w.id = id
          → ((change w).activity = .busy ticket handler ↔ w.activity = .busy ticket handler))
    : next.WorksOn id ticket handler ↔ s.WorksOn id ticket handler := by
  constructor
  · rintro ⟨v, member, mine, doing⟩
    obtain ⟨w, known, rfl⟩ := List.mem_map.mp (workers ▸ member)
    have same := (ids w).symm.trans mine
    exact ⟨w, known, same, (busy w known same).mp doing⟩
  · rintro ⟨w, member, mine, doing⟩
    exact ⟨change w, workers ▸ List.mem_map_of_mem member, (ids w).trans mine,
      (busy w member mine).mpr doing⟩

theorem worksOn_wake_iff (other : Nat)
    : (s.wake other).WorksOn id ticket handler ↔ s.WorksOn id ticket handler := by
  refine worksOn_map_iff rfl (id_ite Worker.id_wake other) fun w _ _ => ?_
  split
  · exact w.activity_wake_eq_iff nofun nofun
  · rfl

/-- A part of a call neither starts work nor ends it: a worker that is launched was idle. -/
theorem Acted.worksOn_iff {part : CallPart} (acted : Acted s part next) (manned : Manned s)
    : next.WorksOn id ticket handler ↔ s.WorksOn id ticket handler := by
  cases acted with
  | attach =>
      constructor
      · rintro ⟨w, member, mine, doing⟩
        rcases List.mem_append.mp member with known | new
        · exact ⟨w, known, mine, doing⟩
        · rw [List.mem_singleton.mp new] at doing
          cases doing
      · rintro ⟨w, member, mine, doing⟩
        exact ⟨w, List.mem_append_left _ member, mine, doing⟩
  | start idle =>
      obtain ⟨v, member, rfl, waits⟩ := exists_of_state? idle
      refine worksOn_map_iff rfl (id_ite Worker.id_launch v.id) fun w known _ => ?_
      split
      · next same =>
          rw [eq_of_id_eq manned.distinct known member (by simpa using same)]
          simp [Worker.launch, manned.unborn v member waits]
      · rfl
  | runs _ => exact .rfl
  | raise _ =>
      refine worksOn_map_iff rfl (id_ite Worker.id_quit _) fun w _ _ => ?_
      split <;> rfl
  | wake _ =>
      refine worksOn_map_iff rfl Worker.id_wake fun w _ _ => ?_
      exact w.activity_wake_eq_iff (by simp) (by simp)
  | shut => exact .rfl

/-- A worker that turns to something else leaves the others to their work. -/
theorem worksOn_turnTo_iff {other : Nat} {activity : Activity}
    (workers : next.workers = (s.changeWorker other fun w => { w with activity }).workers)
    (different : id ≠ other)
    : next.WorksOn id ticket handler ↔ s.WorksOn id ticket handler := by
  refine worksOn_map_iff workers (fun w => ?_) fun w _ mine => ?_
  · split <;> rfl
  · rw [if_neg (by simpa using mine ▸ different)]

theorem WorksOn.eq_of_turnTo {activity : Activity} (works : next.WorksOn id ticket handler)
    (workers : next.workers = (s.changeWorker id fun w => { w with activity }).workers)
    : activity = .busy ticket handler := by
  obtain ⟨v, member, mine, doing⟩ := works
  obtain ⟨w, _, rfl⟩ := List.mem_map.mp (workers ▸ member)
  by_cases same : w.id = id
  · simpa [same] using doing
  · simp [same] at mine

theorem WorksOn.activity_eq (works : s.WorksOn w.id ticket handler)
    (distinct : (s.workers.map Worker.id).Nodup) (member : w ∈ s.workers)
    : w.activity = .busy ticket handler := by
  obtain ⟨v, known, same, doing⟩ := works
  rwa [eq_of_id_eq distinct known member same] at doing

-----------------------------------------------------------------------------------------
-- Tickets
-----------------------------------------------------------------------------------------

/-- A part of a call settles no ticket that is held, and accepts none. -/
theorem Acted.exists_shift {part : CallPart} (acted : Acted s part next) (manned : Manned s)
    : ∃ settled, Shift s next [] settled := by
  have calm (held : next.held = s.held) (lanes : next.lanes = s.lanes)
      (nextTicket : next.nextTicket = s.nextTicket) (futures : next.futures = s.futures)
      : ∃ settled, Shift s next [] settled := by
    refine ⟨[], shift_of_perm ?_ nextTicket (futuresFollow_of_eq futures)⟩
    rw [out, held, lanes]
    exact .refl _
  cases acted with
  | attach =>
      refine calm ?_ rfl rfl rfl
      simp [held, Scheduler.attach, Worker.attached, Worker.ticket?]
  | start idle =>
      obtain ⟨w, member, rfl, waits⟩ := exists_of_state? idle
      refine calm (held_changeWorker_of_eq manned.distinct member ?_) rfl rfl rfl
      simp [Worker.ticket?, Worker.launch, manned.unborn w member waits]
  | runs _ => exact calm rfl rfl rfl rfl
  | raise _ =>
      refine calm (held_map fun w _ => ?_) rfl rfl rfl
      split <;> rfl
  | wake _ => exact calm (held_map fun w _ => ticket?_wake w) rfl rfl rfl
  | shut => exact ⟨_, s.shift_shut⟩

end Scheduler

end TaskFabric
