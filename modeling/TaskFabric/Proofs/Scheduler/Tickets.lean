import TaskFabric.Proofs.Scheduler.Soundness
import TaskFabric.Proofs.SortedMapLookups

/-! What becomes of an accepted ticket. It stays out until its own completion is delivered, unless
its submitter released the future before or the lanes were closed on it.
-/

namespace TaskFabric

-----------------------------------------------------------------------------------------
-- Deliveries
-----------------------------------------------------------------------------------------

namespace Future

@[simp]
theorem delivery_wait (f : Future) : f.wait.2.delivery = f.delivery := by
  unfold wait
  split
  · rfl
  · split <;> rfl

@[simp]
theorem delivery_close (f : Future) : f.close.delivery = f.delivery := by
  unfold close
  split
  · rfl
  · split <;> rfl

/-- Nothing is delivered into a closed future or behind a first delivery. -/
theorem fulfil_of_settled (f : Future) (result : Completion)
    (settled : f.isClosed = true ∨ f.delivery ≠ .pending)
    : f.fulfil result = f := by
  unfold fulfil
  split
  · next unread pending => simp [unread, pending] at settled
  · rfl

end Future

namespace Scheduler

variable {s next : Scheduler} {ticket : Ticket}

-----------------------------------------------------------------------------------------
-- Tickets that are out
-----------------------------------------------------------------------------------------

/-- A change of workers that leaves the busy ones alone loses no ticket. -/
theorem Outstanding.mapWorkers {change : Worker → Worker} (out : s.Outstanding ticket)
    (busy
      : ∀ w ∈ s.workers, ∀ handler,
          w.activity = .busy ticket handler → (change w).activity = .busy ticket handler)
    : Outstanding { s with workers := s.workers.map change } ticket := by
  refine out.imp_right ?_
  rintro ⟨w, member, handler, doing⟩
  exact ⟨change w, List.mem_map_of_mem member, handler, busy w member handler doing⟩

theorem Outstanding.wakeOne (out : s.Outstanding ticket) : s.wakeOne.Outstanding ticket := by
  unfold Scheduler.wakeOne
  split
  · refine out.mapWorkers ?_
    intro w _ handler doing
    split
    · simp [Worker.wake, doing]
    · exact doing
  · exact out

theorem nextTicket_wakeOne (s : Scheduler) : s.wakeOne.nextTicket = s.nextTicket := by
  unfold Scheduler.wakeOne; split <;> rfl

theorem futures_wakeOne (s : Scheduler) : s.wakeOne.futures = s.futures := by
  unfold Scheduler.wakeOne; split <;> rfl

/-- A step of a worker keeps a ticket out unless the worker works on it and finishes. -/
theorem Outstanding.turn (out : s.Outstanding ticket) (sound : Sound s) {w : Worker}
    (member : w ∈ s.workers) (turn : Turn s w next)
    : next.Outstanding ticket ∨ ∃ handler, w.activity = .busy ticket handler := by
  -- A worker that is not the one that moves keeps its ticket.
  have kept {activity : Activity} {v : Worker} {handler : Option Handler} (known : v ∈ s.workers)
      (doing : v.activity = .busy ticket handler) (idle : w.activity ≠ .busy ticket handler)
      : v ∈ (s.changeWorker w.id fun w => { w with activity }).workers := by
    refine (sound.mem_changeWorker member _ v).mpr (.inr ⟨known, ?_⟩)
    intro same
    rw [sound.eq_of_id_eq known member same] at doing
    exact idle doing
  rcases out with queued | ⟨v, known, handler, doing⟩
  · refine .inl ?_
    cases turn with
    | leave _ _ | sleep _ _ _ | finish _ | rest _ _ => exact .inl queued
    | @take first lanes log gate awake active popped _ =>
        have perm := (Lanes.pop?_eq_some popped).2
        rcases List.mem_cons.mp (perm.mem_iff.mp queued) with rfl | waiting
        · exact .inr ⟨_, (sound.mem_changeWorker member _ _).mpr (.inl rfl), _, rfl⟩
        · exact .inl waiting
  · by_cases mine : w.activity = .busy ticket handler
    · exact .inr ⟨handler, mine⟩
    · refine .inl (.inr ?_)
      cases turn with
      | leave _ _ | sleep _ _ _ | take _ _ _ _ | finish _ =>
          exact ⟨v, kept known doing mine, handler, doing⟩
      | rest _ _ => exact ⟨v, known, handler, doing⟩

-----------------------------------------------------------------------------------------
-- Futures
-----------------------------------------------------------------------------------------

theorem get?_changeFuture (s : Scheduler) (id other : Nat) (change : Future → Future)
    : (s.changeFuture id change).futures.get? other
      = (s.futures.get? other).map fun f => if other = id then change f else f := by
  simp [changeFuture]

/-- What the future of an accepted ticket shows. -/
def Shows (s : Scheduler) (ticket : Ticket) (f : Future) : Prop :=
  match f.delivery with
  | .pending => s.Outstanding ticket ∨ f.isClosed = true
  | .delivered result =>
      result = completion (s.registry.get? ticket.task.consumable) ticket.task
  | .abandoned => s.lanes.closed = true

theorem Shows.abandon {f : Future} (shows : s.Shows ticket f)
    (registry : next.registry = s.registry) (shut : next.lanes.closed = true)
    : next.Shows ticket f.abandon := by
  unfold Shows at shows
  cases delivery : f.delivery with
  | pending => simpa only [Shows, Future.abandon, delivery] using shut
  | abandoned => simpa only [Shows, Future.abandon, delivery] using shut
  | delivered result =>
      rw [delivery] at shows
      simpa only [Shows, Future.abandon, delivery, registry] using shows

/-- A completion under the number of a ticket that is out has to be its own. -/
theorem Shows.fulfil {f : Future} {result : Completion} (shows : s.Shows ticket f)
    (registry : next.registry = s.registry)
    (shut : s.lanes.closed = true → next.lanes.closed = true)
    (own
      : s.Outstanding ticket
        → result = completion (s.registry.get? ticket.task.consumable) ticket.task)
    : next.Shows ticket (f.fulfil result) := by
  unfold Shows at shows
  cases delivery : f.delivery with
  | pending =>
      rw [delivery] at shows
      cases closed : f.isClosed with
      | true =>
          simp only [Future.fulfil, closed, Shows, delivery]
          exact .inr trivial
      | false =>
          have out := shows.resolve_right (by simp [closed])
          simpa only [Future.fulfil, closed, delivery, Shows, registry] using own out
  | delivered known =>
      rw [delivery] at shows
      rw [f.fulfil_of_settled result (.inr (by simp [delivery]))]
      simpa only [delivery, Shows, registry] using shows
  | abandoned =>
      rw [delivery] at shows
      rw [f.fulfil_of_settled result (.inr (by simp [delivery]))]
      simpa only [delivery, Shows] using shut shows

/-- A ticket that was accepted, whatever has become of it. -/
structure Accepted (s : Scheduler) (ticket : Ticket) : Prop where
  issued : ticket.id < s.nextTicket
  kept : ∃ f, s.futures.get? ticket.id = some f ∧ s.Shows ticket f

theorem Shows.mono {f g : Future} (shows : s.Shows ticket f)
    (registry : next.registry = s.registry)
    (out : s.Outstanding ticket → next.Outstanding ticket)
    (shut : s.lanes.closed = true → next.lanes.closed = true)
    (same : g.delivery = f.delivery) (released : f.isClosed = true → g.isClosed = true)
    : next.Shows ticket g := by
  unfold Shows at shows ⊢
  rw [same]
  split at shows
  · exact shows.imp out released
  · rw [registry]
    exact shows
  · exact shut shows

-----------------------------------------------------------------------------------------
-- Accepted tickets through all changes
-----------------------------------------------------------------------------------------

namespace Accepted

/-- What changes neither futures nor tickets leaves what has become of a ticket. -/
theorem keep (accepted : Accepted s ticket) (futures : next.futures = s.futures)
    (nextTicket : next.nextTicket = s.nextTicket) (registry : next.registry = s.registry)
    (out : s.Outstanding ticket → next.Outstanding ticket)
    (shut : s.lanes.closed = true → next.lanes.closed = true)
    : Accepted next ticket := by
  obtain ⟨f, found, shows⟩ := accepted.kept
  exact ⟨nextTicket ▸ accepted.issued, f, futures ▸ found, shows.mono registry out shut rfl id⟩

/-- A wait, its end in vain and a release change at most whether the future is closed. -/
theorem changeFuture (accepted : Accepted s ticket) (id : Nat) {change : Future → Future}
    (same : ∀ f, (change f).delivery = f.delivery)
    (released : ∀ f, f.isClosed = true → (change f).isClosed = true)
    : Accepted (s.changeFuture id change) ticket := by
  obtain ⟨f, found, shows⟩ := accepted.kept
  refine ⟨accepted.issued, _, by rw [get?_changeFuture, found]; rfl, ?_⟩
  refine shows.mono rfl (fun out => out) (fun shut => shut) ?_ ?_
  · split
    · exact same f
    · rfl
  · intro closed
    split
    · exact released f closed
    · exact closed

theorem enqueueOne (accepted : Accepted s ticket) {task : Task} {id : Nat}
    (queued : s.enqueueOne task = .ok (id, next))
    : Accepted next ticket := by
  have same := sameSetting_enqueueOne queued
  obtain ⟨_, lanes, pushed, rfl⟩ := enqueueOne_eq_ok queued
  obtain ⟨_, _, perm⟩ := Lanes.push?_eq_some pushed
  obtain ⟨f, found, shows⟩ := accepted.kept
  have older : ticket.id ≠ s.nextTicket := Nat.ne_of_lt accepted.issued
  refine ⟨?_, f, ?_, shows.mono same.registry ?_ ?_ rfl fun closed => closed⟩
  · rw [nextTicket_wakeOne]
    exact Nat.lt_succ_of_lt accepted.issued
  · rw [futures_wakeOne]
    exact (SortedMap.get?_insert_of_ne _ older _).trans found
  · intro out
    refine Outstanding.wakeOne ?_
    exact out.imp_left fun waiting => perm.mem_iff.mpr (List.mem_cons_of_mem _ waiting)
  · exact same.closed.trans

/-- Closing the lanes abandons what is queued and leaves what is worked on. -/
theorem close (accepted : Accepted s ticket) : Accepted s.close ticket := by
  obtain ⟨f, found, shows⟩ := accepted.kept
  have after : s.close.futures.get? ticket.id
      = some (if (s.lanes.tickets.map (·.id)).contains ticket.id then f.abandon else f) :=
    (SortedMap.get?_map _ _ _).trans (congrArg _ found)
  refine ⟨accepted.issued, _, after, ?_⟩
  split
  · exact shows.abandon rfl rfl
  · next kept =>
      unfold Shows at shows ⊢
      split at shows
      · refine shows.imp_left ?_
        rintro (queued | ⟨w, member, handler, doing⟩)
        · refine absurd ?_ kept
          simpa using ⟨ticket, queued, rfl⟩
        · exact .inr ⟨w.wake, List.mem_map_of_mem member, handler, by simp [Worker.wake, doing]⟩
      · exact shows
      · rfl

/-- A step of a worker delivers the completion of its own ticket, if any, and leaves the others. -/
theorem turn (accepted : Accepted s ticket) (sound : Sound s) {w : Worker} (member : w ∈ s.workers)
    (turn : Turn s w next)
    : Accepted next ticket := by
  have remains (out : s.Outstanding ticket) := out.turn sound member turn
  cases turn with
  | leave awake _ | sleep awake _ _ =>
      refine accepted.keep rfl rfl rfl (fun out => ?_) fun shut => shut
      exact (remains out).resolve_right (by simp [awake])
  | rest idle _ =>
      refine accepted.keep rfl rfl rfl (fun out => out) fun shut => shut
  | take awake _ popped _ =>
      refine accepted.keep rfl rfl rfl (fun out => ?_) fun shut => ?_
      · exact (remains out).resolve_right (by simp [awake])
      · exact (Lanes.pop?_eq_some popped).1.trans shut
  | @finish mine handler busy =>
      obtain ⟨f, found, shows⟩ := accepted.kept
      have after := (s.get?_changeFuture mine.id ticket.id
        fun f => f.fulfil (completion handler mine.task)).trans (congrArg _ found)
      by_cases same : ticket.id = mine.id
      · simp only [Option.map_some, if_pos same] at after
        refine ⟨accepted.issued, _, after, ?_⟩
        refine shows.fulfil rfl (fun shut => shut) ?_
        intro out
        have held : s.Outstanding mine := .inr ⟨w, member, handler, busy⟩
        rw [sound.single ticket mine out held same, (sound.fits w member).handled mine handler busy]
      · simp only [Option.map_some, if_neg same] at after
        refine ⟨accepted.issued, _, after, ?_⟩
        refine shows.mono rfl (fun out => (remains out).resolve_right ?_) (fun shut => shut) rfl
          fun closed => closed
        rintro ⟨again, doing⟩
        rw [busy] at doing
        cases doing
        exact same rfl

/-- No change makes an accepted ticket disappear, by cases on the change. -/
theorem change (accepted : Accepted s ticket) (sound : Sound s) (change : Change s next)
    : Accepted next ticket := by
  cases change with
  | attach =>
      refine accepted.keep rfl rfl rfl (fun out => out.imp_right ?_) fun shut => shut
      rintro ⟨w, member, handler, doing⟩
      exact ⟨w, List.mem_append_left _ member, handler, doing⟩
  | launch launched =>
      rcases launch_eq_ok launched with rfl | ⟨idle, known, rfl, state, rfl⟩
      · exact accepted
      · refine accepted.keep rfl rfl rfl (fun out => out.mapWorkers ?_) fun shut => shut
        intro w member handler doing
        split
        · next same =>
            -- An idle worker holds no ticket.
            have unborn := (sound.fits idle known).unborn state
            rw [← sound.eq_of_id_eq member known (by simpa using same), doing] at unborn
            cases unborn
        · exact doing
  | launchAll =>
      refine accepted.keep rfl rfl rfl (fun out => out.mapWorkers ?_) fun shut => shut
      intro w member handler doing
      split
      · next state =>
          have unborn := (sound.fits w member).unborn (by simpa using state)
          rw [doing] at unborn
          cases unborn
      · exact doing
  | quit told =>
      rw [quit_eq_ok told]
      refine accepted.keep rfl rfl rfl (fun out => out.mapWorkers ?_) fun shut => shut
      intro w member handler doing
      split
      · simp [Worker.wake, Worker.quit, doing]
      · simp [Worker.wake, doing]
  | enqueue queued => exact accepted.enqueueOne queued
  | step member => exact accepted.turn sound member (turn_step _ _)
  | close => exact accepted.close
  | wait id =>
      exact accepted.changeFuture id Future.delivery_wait
        fun f closed => by simp [Future.wait, closed]
  | expire id => exact accepted.changeFuture id (fun _ => rfl) fun _ closed => closed
  | release id =>
      exact accepted.changeFuture id Future.delivery_close
        fun f closed => by simp [Future.close, closed]
  | pass _ => exact accepted.keep rfl rfl rfl (fun out => out) fun shut => shut

theorem changes (accepted : Accepted s ticket) (sound : Sound s) (changes : Changes s next)
    : Accepted next ticket := by
  induction changes using Relation.ReflTransGen.head_induction_on with
  | refl => exact accepted
  | head first _ ih => exact ih (accepted.change sound first) (sound.change first)

/-- An accepted ticket whose future is open and has been settled answers with what its handler makes
of its task, as long as the lanes are open.
-/
theorem wait_eq_ok (accepted : Accepted s ticket) (isOpen : s.lanes.closed = false)
    (unread : (s.future ticket.id).isClosed = false)
    (settled : (s.future ticket.id).delivery ≠ .pending)
    : (s.wait ticket.id).1
      = .ok (completion (s.registry.get? ticket.task.consumable) ticket.task) := by
  obtain ⟨f, found, shows⟩ := accepted.kept
  have same : s.future ticket.id = f := by simp [future, found]
  rw [same] at unread settled
  unfold Shows at shows
  rw [wait, same]
  cases delivery : f.delivery with
  | pending => exact absurd delivery settled
  | delivered result =>
      simp only [delivery] at shows
      simp [Future.wait, unread, delivery, shows]
  | abandoned =>
      simp only [delivery, isOpen] at shows
      cases shows

end Accepted

theorem accepted_enqueueOne {task : Task} {id : Nat} (queued : s.enqueueOne task = .ok (id, next))
    : Accepted next ⟨id, task⟩ ∧ (next.future id).isClosed = false := by
  obtain ⟨rfl, lanes, pushed, equal⟩ := enqueueOne_eq_ok queued
  obtain ⟨_, _, perm⟩ := Lanes.push?_eq_some pushed
  have futures : next.futures = s.futures.insert s.nextTicket .start :=
    equal ▸ futures_wakeOne _
  have nextTicket : next.nextTicket = s.nextTicket + 1 := equal ▸ nextTicket_wakeOne _
  have kept : next.futures.get? s.nextTicket = some .start := by
    rw [futures, SortedMap.get?_insert_self]
  refine ⟨⟨?_, _, kept, .inl ?_⟩, by rw [future, kept]; rfl⟩
  · rw [nextTicket]
    exact Nat.lt_succ_self _
  · rw [equal]
    exact Outstanding.wakeOne (.inl (perm.mem_iff.mpr List.mem_cons_self))

end Scheduler

end TaskFabric
