import TaskFabric.Proofs.Scheduler.WorkerBooks

/-! The lives of workers. Calls that concern them come one after another; between the critical
sections of a call the workers go on, tickets are queued and waited for, and sleepers wake up for no
reason. A worker reads its quit flag and looks at the lanes under their lock, but the flag is raised
without it, so a worker may still take a ticket behind the flag.

What saves the promise of a quit is that it takes the lock once more before it returns. By then the
worker has left the lanes, and whenever it enters them again it reads the flag.
-/

namespace TaskFabric

/-- A scheduler between its critical sections: the worker that has the lock of the lanes, as it was
when it read its flag, the call in progress with its parts to come, and the calls that returned.
-/
structure Crew where
  scheduler : Scheduler
  inside : Option Worker
  call? : Option (CallProgress × List CallPart)
  returned : List CallReport

namespace Crew

/-- What can happen to a crew. -/
inductive Event where
  /-- A call begins, unless another one is in progress. -/
  | call (call : WorkerCall)
  /-- The call in progress makes its next part. -/
  | part
  /-- The call in progress returns. -/
  | answer
  /-- A worker that is awake takes the lock of the lanes and reads its flag. -/
  | enter (id : Nat)
  /-- The worker with the lock looks at the lanes by what it read, and gives the lock back. -/
  | leave
  /-- A worker finishes what it works on. -/
  | finish (id : Nat)
  /-- A sleeper wakes up, notified or not. -/
  | stir (id : Nat)
  | push (task : Task)
  | wait (id : Nat)
  | expire (id : Nat)
  | release (id : Nat)
  /-- All that does not concern lanes, workers and futures becomes as in another scheduler. -/
  | elsewhere (other : Scheduler)

/-- The crew of a new scheduler. -/
def start (registry : Registry) (expire : Duration) : Crew :=
  ⟨.create registry expire, none, none, []⟩

/-- What follows from an event. One that cannot happen now leaves everything as it is. -/
def perform (c : Crew) : Event → Crew
  | .call call =>
      match c.call? with
      | none => { c with call? := some (call.begin c.scheduler, call.parts c.scheduler) }
      | some _ => c
  | .part =>
      match c.call? with
      | some (r, part :: rest) =>
          if part.locks && c.inside.isSome then c
          else
            match part.act c.scheduler with
            | .ok next =>
                { c with scheduler := next, call? := some (r.note part c.scheduler, rest) }
            | .error cause => { c with call? := some ({ r with failure := some cause }, []) }
      | _ => c
  | .answer =>
      match c.call? with
      | some (r, []) => { c with call? := none, returned := c.returned ++ [⟨r, c.scheduler⟩] }
      | _ => c
  | .enter id =>
      match c.inside, c.scheduler.worker? id with
      | none, some w => if w.isAwake then { c with inside := some w } else c
      | _, _ => c
  | .leave =>
      match c.inside with
      | some w => { c with scheduler := c.scheduler.look w, inside := none }
      | none => c
  | .finish id =>
      match c.scheduler.worker? id with
      | some w => { c with scheduler := c.scheduler.finish w }
      | none => c
  | .stir id => { c with scheduler := c.scheduler.wake id }
  | .push task =>
      match c.inside, c.scheduler.push? task with
      | none, some pushed => { c with scheduler := pushed }
      | _, _ => c
  | .wait id => { c with scheduler := (c.scheduler.wait id).2 }
  | .expire id => { c with scheduler := c.scheduler.changeFuture id Future.expire }
  | .release id => { c with scheduler := c.scheduler.closeFuture id }
  | .elsewhere other =>
      { c with
        scheduler :=
          { other with
            lanes := c.scheduler.lanes
            workers := c.scheduler.workers
            nextWorker := c.scheduler.nextWorker
            futures := c.scheduler.futures
            nextTicket := c.scheduler.nextTicket } }

/-- Events one after another. -/
def performAll (c : Crew) (events : List Event) : Crew := events.foldl perform c

/-- The calls that returned and the one in progress, in the order of time. -/
def records (c : Crew) : List CallProgress :=
  c.returned.map CallReport.toCallProgress ++ (c.call?.map Prod.fst).toList

/-- The workers that calls have attached. -/
def attached (c : Crew) : List Nat := c.records.flatMap CallProgress.attached

/-- The workers whose threads calls have started. -/
def started (c : Crew) : List Nat := c.records.flatMap CallProgress.started

/-- The workers that calls have told to quit. -/
def stopped (c : Crew) : List Nat := c.records.flatMap CallProgress.stopped

-----------------------------------------------------------------------------------------
-- What comes of events
-----------------------------------------------------------------------------------------

/-- What workers, submitters and time do between the critical sections of calls. -/
inductive Between (c : Crew) : Event → Crew → Prop
  | enter {w} (free : c.inside = none) (member : w ∈ c.scheduler.workers)
    (awake : w.activity = .awake)
    : Between c (.enter w.id) { c with inside := some w }
  | leave {w} (inside : c.inside = some w)
    : Between c .leave { c with scheduler := c.scheduler.look w, inside := none }
  | finish {w ticket handler} (member : w ∈ c.scheduler.workers)
    (busy : w.activity = .busy ticket handler)
    : Between c (.finish w.id) { c with scheduler := c.scheduler.finish w }
  | stir (id : Nat) : Between c (.stir id) { c with scheduler := c.scheduler.wake id }
  | push {task lanes}
    (pushed : c.scheduler.lanes.push? ⟨c.scheduler.nextTicket, task⟩ = some lanes)
    : Between c (.push task)
        { c with
          scheduler :=
            { c.scheduler with
              lanes
              futures := c.scheduler.futures.insert c.scheduler.nextTicket .start
              nextTicket := c.scheduler.nextTicket + 1 } }
  | drift {e} {next : Scheduler} (other : e ≠ .part) (lanes : next.lanes = c.scheduler.lanes)
    (workers : next.workers = c.scheduler.workers)
    (nextWorker : next.nextWorker = c.scheduler.nextWorker)
    (futures : Scheduler.FuturesFollow c.scheduler next)
    (nextTicket : next.nextTicket = c.scheduler.nextTicket)
    : Between c e { c with scheduler := next }

/-- What can come of an event. -/
inductive Came (c : Crew) : Event → Crew → Prop
  | refused {e} : Came c e c
  | begins {call} (free : c.call? = none)
    : Came c (.call call)
        { c with call? := some (call.begin c.scheduler, call.parts c.scheduler) }
  | acts {r part rest next} (current : c.call? = some (r, part :: rest))
    (unlocked : part.locks = true → c.inside = none) (done : part.act c.scheduler = .ok next)
    : Came c .part
        { c with scheduler := next, call? := some (r.note part c.scheduler, rest) }
  | fails {r part rest cause} (current : c.call? = some (r, part :: rest))
    (failed : part.act c.scheduler = .error cause)
    : Came c .part { c with call? := some ({ r with failure := some cause }, []) }
  | answers {r} (current : c.call? = some (r, []))
    : Came c .answer { c with call? := none, returned := c.returned ++ [⟨r, c.scheduler⟩] }
  | between {e next} (between : Between c e next) : Came c e next

/-- Every event comes to one of these, by cases on the event. -/
theorem came_perform (c : Crew) (e : Event) : Came c e (c.perform e) := by
  cases e with
  | call call =>
      simp only [perform]
      split
      · next free => exact .begins free
      · exact .refused
  | part =>
      simp only [perform]
      split
      · next current =>
          split
          · exact .refused
          · next unlocked =>
              split
              · next done => exact .acts current (by simpa using unlocked) done
              · next failed => exact .fails current failed
      · exact .refused
  | answer =>
      simp only [perform]
      split
      · next current => exact .answers current
      · exact .refused
  | enter id =>
      simp only [perform]
      split
      · next w free found =>
          obtain ⟨member, rfl⟩ := Scheduler.worker?_eq_some found
          split
          · next awake =>
              refine .between (.enter free member ?_)
              unfold Worker.isAwake at awake
              split at awake
              · assumption
              · cases awake
          · exact .refused
      · exact .refused
  | leave =>
      simp only [perform]
      split
      · next inside => exact .between (.leave inside)
      · exact .refused
  | finish id =>
      simp only [perform]
      split
      · next w found =>
          obtain ⟨member, rfl⟩ := Scheduler.worker?_eq_some found
          cases doing : w.activity with
          | busy ticket handler => exact .between (.finish member doing)
          | unborn | awake | asleep | exited =>
              simp only [Scheduler.finish, doing]
              exact .refused
      · exact .refused
  | stir id => exact .between (.stir id)
  | push task =>
      simp only [perform]
      split
      · next accepted =>
          obtain ⟨lanes, pushed, rfl⟩ := Option.map_eq_some_iff.mp accepted
          exact .between (.push pushed)
      · exact .refused
  | wait id =>
      exact .between (.drift (by simp) rfl rfl rfl
        (c.scheduler.futuresFollow_changeFuture id Future.follows_wait) rfl)
  | expire id =>
      exact .between (.drift (by simp) rfl rfl rfl
        (c.scheduler.futuresFollow_changeFuture id Future.follows_expire) rfl)
  | release id =>
      exact .between (.drift (by simp) rfl rfl rfl
        (c.scheduler.futuresFollow_changeFuture id Future.follows_close) rfl)
  | elsewhere other =>
      exact .between (.drift (by simp) rfl rfl rfl (Scheduler.futuresFollow_of_eq rfl) rfl)

open Scheduler (Ages Alike Answered Booked Guarded Manned Pending Shift Steady)

variable {c next : Crew} {e : Event}

-----------------------------------------------------------------------------------------
-- Between the parts of calls
-----------------------------------------------------------------------------------------

/-- Between the parts of calls the workers keep their numbers and states, by cases on what happens:
the worker with the lock and one that finishes have threads.
-/
theorem Between.steady (between : Between c e next) (manned : Manned c.scheduler)
    (guarded : Guarded c.scheduler c.inside)
    : Steady c.scheduler next.scheduler := by
  cases between with
  | enter _ _ _ => exact Scheduler.steady_of_eq rfl rfl
  | @leave w inside =>
      obtain ⟨awake, v, member, same, up⟩ := guarded w inside
      obtain ⟨activity, lives, _, nextWorker, workers⟩ :=
        Scheduler.exists_activity_look (s := c.scheduler) awake
      exact Scheduler.steady_turnTo manned.distinct member (by simp [up]) lives
        (same ▸ workers) nextWorker
  | finish member busy =>
      exact Scheduler.steady_turnTo manned.distinct member (by simp [busy]) (by simp)
        (Scheduler.workers_finish busy) (Scheduler.nextWorker_finish _ _)
  | stir id => exact c.scheduler.steady_wake id
  | push _ => exact Scheduler.steady_of_eq rfl rfl
  | drift _ _ workers nextWorker _ _ => exact Scheduler.steady_of_eq workers nextWorker

theorem Between.guarded (between : Between c e next) (guarded : Guarded c.scheduler c.inside)
    : Guarded next.scheduler next.inside := by
  cases between with
  | @enter w _ member awake =>
      intro v here
      cases here
      exact ⟨awake, w, member, rfl, awake⟩
  | leave _ => exact fun _ here => nomatch here
  | @finish w _ _ _ busy =>
      have freed
          : Guarded (c.scheduler.changeWorker w.id fun w => { w with activity := .awake })
              c.inside :=
        guarded.changeWorker w.id (fun _ => rfl) fun _ _ => rfl
      exact freed.of_eq (Scheduler.workers_finish busy)
  | stir id => exact guarded.changeWorker id Worker.id_wake fun _ up => by simp [Worker.wake, up]
  | push _ => exact guarded.of_eq rfl
  | drift _ _ workers _ _ _ => exact guarded.of_eq workers

theorem Between.exists_shift (between : Between c e next) (manned : Manned c.scheduler)
    (guarded : Guarded c.scheduler c.inside)
    : ∃ fresh settled, Shift c.scheduler next.scheduler fresh settled := by
  cases between with
  | enter _ _ _ =>
      exact ⟨[], [], Scheduler.shift_of_perm (.refl _) rfl (Scheduler.futuresFollow_of_eq rfl)⟩
  | @leave w inside =>
      obtain ⟨awake, v, member, same, up⟩ := guarded w inside
      exact ⟨[], [], Scheduler.shift_look manned.distinct member same up awake⟩
  | finish member busy => exact ⟨[], _, Scheduler.shift_finish manned.distinct member busy⟩
  | stir id =>
      refine ⟨[], [], Scheduler.shift_of_perm ?_ rfl (Scheduler.futuresFollow_of_eq rfl)⟩
      refine List.Perm.append_left _ (.of_eq (Scheduler.held_map fun w _ => ?_))
      split
      · exact Scheduler.ticket?_wake w
      · rfl
  | push pushed => exact ⟨_, [], Scheduler.shift_push pushed⟩
  | drift _ lanes workers _ futures nextTicket =>
      refine ⟨[], [], Scheduler.shift_of_perm ?_ nextTicket futures⟩
      simp [Scheduler.out, Scheduler.held, lanes, workers]

theorem Between.calls (between : Between c e next)
    : next.call? = c.call? ∧ next.returned = c.returned := by
  cases between <;> exact ⟨rfl, rfl⟩

-----------------------------------------------------------------------------------------
-- Crews in order
-----------------------------------------------------------------------------------------

/-- A worker that was told to quit takes no ticket any more: if it has the lock of the lanes, it has
read its flag since.
-/
structure Sealed (c : Crew) (id : Nat) : Prop where
  stopped : c.scheduler.state? id = some .stopped
  inside : ∀ w, c.inside = some w → w.id = id → w.state = .stopped

/-- How far the call in progress is, if it tells a worker to quit. -/
def Quitting (c : Crew) (id : Nat) (r : CallProgress) (parts : List CallPart) : Prop :=
  parts = [.raise id, .broadcast]
  ∨ parts = [.broadcast] ∧ c.scheduler.state? id = some .stopped
  ∨ parts = [] ∧ (r.failure = none → c.Sealed id)

/-- Workers, calls and tickets are in order. -/
structure Orderly (c : Crew) : Prop where
  manned : Manned c.scheduler
  guarded : Guarded c.scheduler c.inside
  pending : Pending c.scheduler
  booked : Booked c.scheduler c.attached c.started c.stopped
  going : ∀ r parts, c.call? = some (r, parts) → r.Going parts c.scheduler
  quitting
    : ∀ r parts id, c.call? = some (r, parts) → r.call = .quit id → c.Quitting id r parts
  lawful : ∀ r ∈ c.returned, r.Lawful
  quitted : ∀ r ∈ c.returned, ∀ id, r.call = .quit id → r.failure = none → c.Sealed id

theorem orderly_start (registry : Registry) (expire : Duration)
    : Orderly (start registry expire) where
  manned := Manned.create registry expire
  guarded := fun _ here => nomatch here
  pending := Scheduler.pending_create registry expire
  booked := by
    constructor <;>
      simp [start, Scheduler.create, attached, started, stopped, records, Scheduler.workerCount]
  going := fun _ _ current => nomatch current
  quitting := fun _ _ _ current => nomatch current
  lawful := by simp [start]
  quitted := by simp [start]

/-- States of workers only advance, by cases on what comes of an event. -/
theorem Came.ages (came : Came c e next) (orderly : c.Orderly)
    : Ages c.scheduler next.scheduler := by
  cases came with
  | refused | begins _ | fails _ _ | answers _ => exact (Alike.refl c.scheduler).ages
  | acts _ _ done => exact (Scheduler.acted_of_act done).ages
  | between between => exact (between.steady orderly.manned orderly.guarded).alike.ages

/-- A worker that enters the lanes reads its flag, so it does not get behind the seal. -/
theorem Sealed.came {id : Nat} (isSealed : c.Sealed id) (came : Came c e next)
    (orderly : c.Orderly)
    : next.Sealed id := by
  refine ⟨(came.ages orderly).stopped isSealed.stopped, fun w here mine => ?_⟩
  cases came with
  | refused | begins _ | acts _ _ _ | fails _ _ | answers _ => exact isSealed.inside w here mine
  | between between =>
      cases between with
      | @enter v _ member _ =>
          cases here
          have known := Scheduler.state?_eq_of_mem orderly.manned.distinct member
          rw [mine, isSealed.stopped] at known
          exact (Option.some.inj known).symm
      | leave _ => cases here
      | finish _ _ | stir _ | push _ | drift _ _ _ _ _ _ => exact isSealed.inside w here mine

theorem Quitting.came {id : Nat} {r : CallProgress} {parts : List CallPart}
    (quitting : c.Quitting id r parts) (came : Came c e next) (orderly : c.Orderly)
    : next.Quitting id r parts := by
  rcases quitting with begun | ⟨raised, stopped⟩ | ⟨made, isSealed⟩
  · exact .inl begun
  · exact .inr (.inl ⟨raised, (came.ages orderly).stopped stopped⟩)
  · exact .inr (.inr ⟨made, fun fine => (isSealed fine).came came orderly⟩)

/-- The flag of a worker is raised in the first part of its quit. The second part takes the lock, so
by then no worker is behind the flag.
-/
theorem Quitting.acts {id : Nat} {r : CallProgress} {part : CallPart} {rest : List CallPart}
    {s : Scheduler} (quitting : c.Quitting id r (part :: rest)) (orderly : c.Orderly)
    (unlocked : part.locks = true → c.inside = none) (done : part.act c.scheduler = .ok s)
    (came : Came c .part { c with scheduler := s, call? := some (r.note part c.scheduler, rest) })
    : Quitting { c with scheduler := s, call? := some (r.note part c.scheduler, rest) } id
        (r.note part c.scheduler) rest := by
  rcases quitting with begun | ⟨raised, stopped⟩ | ⟨made, _⟩
  · obtain ⟨rfl, rfl⟩ := List.cons.inj begun
    refine .inr (.inl ⟨rfl, ?_⟩)
    cases Scheduler.acted_of_act done with
    | raise alive =>
        obtain ⟨w, member, rfl, _⟩ := Scheduler.exists_of_hasAlive alive
        have found := Scheduler.worker?_eq_of_mem orderly.manned.distinct member
        simp [Scheduler.state?, Scheduler.worker?_changeWorker Worker.id_quit, found,
          Worker.state_quit]
    | wake notifies => simp at notifies
  · obtain ⟨rfl, rfl⟩ := List.cons.inj raised
    -- The broadcast has the lock, so no worker is left that read its flag before it was raised.
    refine .inr (.inr ⟨rfl, fun _ => ⟨(came.ages orderly).stopped stopped, ?_⟩⟩)
    intro w here
    rw [unlocked rfl] at here
    cases here
  · cases made

namespace Orderly

theorem booked_of_came (orderly : c.Orderly) (came : Came c e next)
    : Booked next.scheduler next.attached next.started next.stopped := by
  have booked := orderly.booked
  simp only [attached, started, stopped, records] at booked ⊢
  cases came with
  | refused => exact booked
  | begins free => simpa [free, WorkerCall.begin] using booked
  | acts current _ done =>
      have noted := booked.acted orderly.manned (Scheduler.acted_of_act done)
      simpa [current, CallProgress.note] using noted
  | fails current _ => simpa [current] using booked
  | answers current => simpa [current] using booked
  | between between =>
      obtain ⟨call, returned⟩ := between.calls
      rw [call, returned]
      exact booked.steady (between.steady orderly.manned orderly.guarded)

theorem exists_shift (orderly : c.Orderly) (came : Came c e next)
    : ∃ fresh settled, Shift c.scheduler next.scheduler fresh settled := by
  cases came with
  | refused | begins _ | fails _ _ | answers _ =>
      exact ⟨[], [], Scheduler.shift_of_perm (.refl _) rfl (Scheduler.futuresFollow_of_eq rfl)⟩
  | acts _ _ done => exact ⟨[], (Scheduler.acted_of_act done).exists_shift orderly.manned⟩
  | between between => exact between.exists_shift orderly.manned orderly.guarded

/-- Every event leaves a crew in order, by cases on what comes of it. -/
theorem came (orderly : c.Orderly) (came : Came c e next) : next.Orderly := by
  have booked := orderly.booked_of_came came
  have pending : Pending next.scheduler := by
    obtain ⟨_, _, shift⟩ := orderly.exists_shift came
    exact shift.pending orderly.pending
  have quitted (r : CallReport) (before : r ∈ c.returned) (id : Nat) (mine : r.call = .quit id)
      (fine : r.failure = none)
      : next.Sealed id :=
    (orderly.quitted r before id mine fine).came came orderly
  have carried (r : CallProgress) (parts : List CallPart) (id : Nat)
      (current : c.call? = some (r, parts)) (mine : r.call = .quit id)
      : next.Quitting id r parts :=
    (orderly.quitting r parts id current mine).came came orderly
  cases came with
  | refused => exact orderly
  | @begins call free =>
      refine { orderly with booked, pending, quitted, going := ?_, quitting := ?_ }
      · rintro r parts ⟨⟩
        exact .begin orderly.manned.distinct call
      · rintro r parts id ⟨⟩ mine
        cases mine
        exact .inl rfl
  | @acts r part rest s current unlocked done =>
      have acted := Scheduler.acted_of_act done
      refine {
        manned := orderly.manned.acted acted
        guarded := orderly.guarded.acted acted
        pending
        booked
        going := ?_
        quitting := ?_
        lawful := orderly.lawful
        quitted
      }
      · rintro _ _ ⟨⟩
        exact (orderly.going r _ current).acts done
      · rintro _ _ id ⟨⟩ mine
        exact (orderly.quitting r _ id current mine).acts orderly unlocked done
          (.acts current unlocked done)
  | @fails r part rest cause current failed =>
      refine { orderly with booked, pending, quitted, going := ?_, quitting := ?_ }
      · rintro _ _ ⟨⟩
        exact (orderly.going r _ current).fails failed
      · rintro _ _ id ⟨⟩ _
        exact .inr (.inr ⟨rfl, fun fine => nomatch fine⟩)
  | @answers r current =>
      refine {
        orderly with
        booked
        pending
        going := fun _ _ none => nomatch none
        quitting := fun _ _ _ none => nomatch none
        lawful := ?_
        quitted := ?_
      }
      · intro report listed
        rcases List.mem_append.mp listed with before | new
        · exact orderly.lawful report before
        · rw [List.mem_singleton.mp new]
          exact (orderly.going r [] current).lawful
      · intro report listed id mine fine
        rcases List.mem_append.mp listed with before | new
        · exact quitted report before id mine fine
        · obtain rfl := List.mem_singleton.mp new
          rcases carried r [] id current mine with begun | ⟨raised, _⟩ | ⟨_, isSealed⟩
          · cases begun
          · cases raised
          · exact isSealed fine
  | between between =>
      have steady := between.steady orderly.manned orderly.guarded
      obtain ⟨call, returned⟩ := between.calls
      refine {
        manned := orderly.manned.steady steady
        guarded := between.guarded orderly.guarded
        pending
        booked
        going := ?_
        quitting := ?_
        lawful := fun r listed => orderly.lawful r (returned ▸ listed)
        quitted := fun r listed => quitted r (returned ▸ listed)
      }
      · intro r parts current
        exact (orderly.going r parts (call ▸ current)).alike_of steady.alike
      · exact fun r parts id current => carried r parts id (call ▸ current)

theorem perform (orderly : c.Orderly) (e : Event) : (c.perform e).Orderly :=
  orderly.came (c.came_perform e)

/-- A crew is in order whatever happens, by induction on the events. -/
theorem performAll (orderly : c.Orderly) (events : List Event) : (c.performAll events).Orderly := by
  induction events generalizing c with
  | nil => exact orderly
  | cons e rest ih => exact ih (orderly.perform e)

end Orderly

-----------------------------------------------------------------------------------------
-- Lives of workers
-----------------------------------------------------------------------------------------

variable {id : Nat} {ticket : Ticket} {handler : Option Handler}

/-- What comes of an event for the work of one worker, by cases on what happens. Only the worker
that gives the lock of the lanes back may begin, and it holds nothing before and nothing after if it
has read that it is to quit; and only the worker that finishes ends.
-/
theorem Came.worksOn_cases (came : Came c e next) (orderly : c.Orderly) (id : Nat)
    (ticket : Ticket) (handler : Option Handler)
    : (next.scheduler.WorksOn id ticket handler ↔ c.scheduler.WorksOn id ticket handler)
      ∨ (∃ w,
          c.inside = some w
          ∧ w.id = id
          ∧ ¬c.scheduler.WorksOn id ticket handler
          ∧ (w.state = .stopped → ¬next.scheduler.WorksOn id ticket handler))
      ∨ e = .finish id ∧ ¬next.scheduler.WorksOn id ticket handler := by
  cases came with
  | refused | begins _ | fails _ _ | answers _ => exact .inl .rfl
  | acts _ _ done => exact .inl ((Scheduler.acted_of_act done).worksOn_iff orderly.manned)
  | between between =>
      cases between with
      | enter _ _ _ | push _ => exact .inl .rfl
      | @leave w inside =>
          obtain ⟨awake, v, member, same, up⟩ := orderly.guarded w inside
          obtain ⟨activity, _, leaves, _, workers⟩ :=
            Scheduler.exists_activity_look (s := c.scheduler) awake
          by_cases mine : id = w.id
          · subst mine
            refine .inr (.inl ⟨w, inside, rfl, ?_, ?_⟩)
            · intro works
              have busy := (same ▸ works).activity_eq orderly.manned.distinct member
              simp [up] at busy
            · intro stopped works
              have busy := works.eq_of_turnTo workers
              simp [leaves stopped] at busy
          · exact .inl (Scheduler.worksOn_turnTo_iff workers mine)
      | @finish w _ _ _ busy =>
          have workers := Scheduler.workers_finish (s := c.scheduler) busy
          by_cases mine : id = w.id
          · subst mine
            refine .inr (.inr ⟨rfl, ?_⟩)
            intro works
            cases works.eq_of_turnTo workers
          · exact .inl (Scheduler.worksOn_turnTo_iff workers mine)
      | stir woken => exact .inl (Scheduler.worksOn_wake_iff woken)
      | drift _ _ workers _ _ _ =>
          refine .inl ?_
          simp only [Scheduler.WorksOn, workers]

/-- A ticket stays with its worker until the worker finishes it. -/
theorem Came.worksOn (came : Came c e next) (orderly : c.Orderly)
    (works : c.scheduler.WorksOn id ticket handler) (other : e ≠ .finish id)
    : next.scheduler.WorksOn id ticket handler := by
  rcases came.worksOn_cases orderly id ticket handler with
    same | ⟨_, _, _, free, _⟩ | ⟨finishes, _⟩
  · exact same.mpr works
  · exact absurd works free
  · exact absurd finishes other

/-- A worker behind the seal works on nothing that it did not work on before. -/
theorem Sealed.worksOn (isSealed : c.Sealed id) (came : Came c e next) (orderly : c.Orderly)
    (works : next.scheduler.WorksOn id ticket handler)
    : c.scheduler.WorksOn id ticket handler := by
  rcases came.worksOn_cases orderly id ticket handler with
    same | ⟨w, inside, mine, _, leaves⟩ | ⟨_, idle⟩
  · exact same.mp works
  · exact absurd works (leaves (isSealed.inside w inside mine))
  · exact absurd works idle

theorem ages_performAll (orderly : c.Orderly) (events : List Event)
    : Ages c.scheduler (c.performAll events).scheduler := by
  induction events generalizing c with
  | nil => exact (Alike.refl _).ages
  | cons e rest ih =>
      exact ((c.came_perform e).ages orderly).trans (ih (orderly.perform e))

/-- What a worker behind the seal works on later it works on already, by induction on the events. -/
theorem Sealed.worksOn_performAll (isSealed : c.Sealed id) (orderly : c.Orderly)
    (events : List Event) (works : (c.performAll events).scheduler.WorksOn id ticket handler)
    : c.scheduler.WorksOn id ticket handler := by
  induction events generalizing c with
  | nil => exact works
  | cons e rest ih =>
      have came := c.came_perform e
      have known := ih (isSealed.came came orderly) (orderly.perform e) works
      exact isSealed.worksOn came orderly known

theorem worksOn_performAll (orderly : c.Orderly)
    (works : c.scheduler.WorksOn id ticket handler) {events : List Event}
    (unfinished : .finish id ∉ events)
    : (c.performAll events).scheduler.WorksOn id ticket handler := by
  induction events generalizing c with
  | nil => exact works
  | cons e rest ih =>
      obtain ⟨other, later⟩ := not_or.mp (mt List.mem_cons.mpr unfinished)
      refine ih (orderly.perform e) ?_ later
      exact (c.came_perform e).worksOn orderly works (Ne.symm other)

theorem answered_performAll {result : Completion} (orderly : c.Orderly)
    (answered : Answered c.scheduler ticket result) (events : List Event)
    : Answered (c.performAll events).scheduler ticket result := by
  induction events generalizing c with
  | nil => exact answered
  | cons e rest ih =>
      obtain ⟨_, _, shift⟩ := orderly.exists_shift (c.came_perform e)
      exact ih (orderly.perform e) (shift.answered answered)

/-- Once a worker has finished, the future of its ticket has got the completion, by induction on the
events up to that one.
-/
theorem answered_of_finish (orderly : c.Orderly) (works : c.scheduler.WorksOn id ticket handler)
    {events : List Event} (finished : .finish id ∈ events)
    : Answered (c.performAll events).scheduler ticket
        (Scheduler.completion handler ticket.task) := by
  induction events generalizing c with
  | nil => cases finished
  | cons e rest ih =>
      by_cases now : e = .finish id
      · subst now
        obtain ⟨w, member, rfl, busy⟩ := works
        have found := Scheduler.worker?_eq_of_mem orderly.manned.distinct member
        have reached : c.perform (.finish w.id) = { c with scheduler := c.scheduler.finish w } := by
          simp only [perform, found]
        refine answered_performAll (orderly.perform _) ?_ rest
        rw [reached]
        exact Scheduler.answered_finish orderly.pending orderly.manned.distinct member busy
      · refine ih (orderly.perform e) ?_ ?_
        · exact (c.came_perform e).worksOn orderly works now
        · exact (List.mem_cons.mp finished).resolve_left (Ne.symm now)

/-- A call that fails has changed nothing in the part that failed. -/
theorem scheduler_eq_of_failure (orderly : c.Orderly) {r : CallProgress} {parts : List CallPart}
    (current : (c.perform .part).call? = some (r, parts)) (failed : r.failure ≠ none)
    : (c.perform .part).scheduler = c.scheduler := by
  have came := c.came_perform .part
  generalize c.perform .part = next at came current
  cases came with
  | refused | fails _ _ => rfl
  | acts before _ _ =>
      cases current
      exact absurd ((orderly.going _ _ before).unfailed (by simp)) failed
  | between between =>
      cases between with
      | drift other _ _ _ _ _ => exact absurd rfl other

/-- Workers live once. Whatever happens between the parts of calls, the workers are attached under
rising numbers, at most one thread is started for each, and those that are counted are the attached
ones that have not quit. Every call answers what it answers at one go: a launch and a quit fail
just for workers that were never attached or have quit, and then change nothing, and a launch of all
starts just the idle ones and tells their number. From then on states only advance. A worker whose
quit has returned works on no ticket that it did not work on before; and a ticket that a worker
holds, told to quit or not, stays with it until it is finished, and then its future has its
completion unless it was released before.
-/
theorem workers_live_once (registry : Registry) (expire : Duration) (events : List Event)
    : let c := (start registry expire).performAll events
      c.scheduler.workers.map Worker.id = c.attached
      ∧ c.attached.Pairwise (· < ·)
      ∧ c.started.Nodup
      ∧ (∀ w ∈ c.scheduler.workers, w.id ∈ c.started ↔ w.activity ≠ .unborn)
      ∧ c.scheduler.workerCount + c.stopped.length = c.attached.length
      ∧ (∀ r ∈ c.returned, r.Lawful)
      ∧ (∀ r parts, (c.perform .part).call? = some (r, parts) → r.failure ≠ none
          → (c.perform .part).scheduler = c.scheduler)
      ∧ ∀ more,
          let d := c.performAll more
          (∀ id state, c.scheduler.state? id = some state
            → ∃ later, d.scheduler.state? id = some later ∧ state.age ≤ later.age)
          ∧ (∀ r ∈ c.returned, ∀ id, r.call = .quit id → r.failure = none
              → ∀ ticket handler, d.scheduler.WorksOn id ticket handler
              → c.scheduler.WorksOn id ticket handler)
          ∧ ∀ id ticket handler, c.scheduler.WorksOn id ticket handler
              → (.finish id ∉ more → d.scheduler.WorksOn id ticket handler)
                ∧ (.finish id ∈ more
                    → d.scheduler.FutureIs ticket
                        (·.Served (Scheduler.completion handler ticket.task))) := by
  intro c
  have orderly : c.Orderly := (orderly_start registry expire).performAll events
  have booked := orderly.booked
  refine ⟨booked.ids.symm, ?_, booked.once, booked.threads, ?_, orderly.lawful,
    fun r parts => scheduler_eq_of_failure orderly, fun more => ⟨?_, ?_, ?_⟩⟩
  · rw [booked.ids, orderly.manned.numbered]
    exact List.pairwise_lt_range'
  · rw [booked.counted, booked.ids, List.length_map]
  · exact ages_performAll orderly more
  · intro r returned id mine fine ticket handler works
    exact (orderly.quitted r returned id mine fine).worksOn_performAll orderly more works
  · intro id ticket handler works
    exact ⟨worksOn_performAll orderly works,
      fun finished => (answered_of_finish orderly works finished).served⟩

/-- A worker that has read its flag takes one more ticket after its quit has raised it. -/
example
    : let c := (start .empty Scheduler.defaultExpire).performAll
        [.call .attach, .part, .answer, .call (.launch 1), .part, .answer, .push .empty, .enter 1,
          .call (.quit 1), .part, .leave]
      c.scheduler.state? 1 = some .stopped ∧ c.scheduler.held? 1 = some ⟨0, .empty⟩ :=
  ⟨rfl, rfl⟩

end Crew

end TaskFabric
