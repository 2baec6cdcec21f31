import TaskFabric.Proofs.Scheduler.Wakeups

/-! The calls that concern workers, critical section by critical section. A worker is attached, or
started, in one; a launch of all workers notes who is idle and then launches them one by one; a quit
raises the flag of its worker before it wakes the sleepers.

What a part of a call does to the table of the workers, who was attached and the state of each,
depends on nothing but this table. And without interruption the parts of a call do what the call
does at one go.
-/

namespace TaskFabric

namespace Worker

theorem id_launch (w : Worker) : w.launch.id = w.id := rfl

theorem state_launch (w : Worker) : w.launch.state = .running := rfl

theorem id_quit (w : Worker) : w.quit.id = w.id := rfl

theorem state_quit (w : Worker) : w.quit.state = .stopped := rfl

end Worker

namespace Scheduler

/-- The state of the worker of a number. -/
def state? (s : Scheduler) (id : Nat) : Option WorkerState := (s.worker? id).map Worker.state

/-- Whether the worker of a number was attached and has not quit. -/
def hasAlive (s : Scheduler) (id : Nat) : Bool := (s.worker? id).any Worker.isAlive

/-- The workers that were attached and not started. -/
def idle (s : Scheduler) : List Nat := (s.workers.filter (·.state == .idle)).map Worker.id

/-- The table of the workers: the number and the state of each. -/
def roster (s : Scheduler) : List (Nat × WorkerState) := s.workers.map fun w => (w.id, w.state)

end Scheduler

/-- A call that concerns workers. -/
inductive WorkerCall where
  | attach
  | attachMany (count : Nat)
  | launch (id : Nat)
  | launchAll
  | quit (id : Nat)
  | close

/-- A critical section of such a call. -/
inductive CallPart where
  | attach
  | launch (id : Nat)
  /-- The flag of a worker is raised. -/
  | raise (id : Nat)
  /-- All sleepers are woken, under the lock of the lanes. -/
  | broadcast
  /-- The lanes are closed, under their lock. -/
  | shut
  /-- All sleepers are woken, without the lock. -/
  | notifyAll

namespace CallPart

/-- Whether a part needs the lock of the lanes. -/
def locks : CallPart → Bool
  | .broadcast | .shut => true
  | _ => false

/-- What a part does, unless it fails. -/
def act (s : Scheduler) : CallPart → Except SchedulerError Scheduler
  | .attach => .ok s.attach
  | .launch id => s.launch id
  | .raise id => (s.quit id).map fun _ => s.changeWorker id Worker.quit
  | .broadcast | .notifyAll => .ok s.wakeAll
  | .shut => .ok s.shut

/-- The worker that a part attaches. -/
def attaches (s : Scheduler) : CallPart → List Nat
  | .attach => [s.nextWorker]
  | _ => []

/-- The worker whose thread a part starts. -/
def starts (s : Scheduler) : CallPart → List Nat
  | .launch id => if s.state? id = some .idle then [id] else []
  | _ => []

/-- The worker that a part tells to quit. -/
def stops : CallPart → List Nat
  | .raise id => [id]
  | _ => []

end CallPart

/-- A call, the scheduler it was made on, and what it has done so far. -/
structure CallProgress where
  call : WorkerCall
  before : Scheduler
  attached : List Nat
  started : List Nat
  stopped : List Nat
  failure : Option SchedulerError

namespace CallProgress

/-- Notes what a part does. -/
def note (r : CallProgress) (part : CallPart) (s : Scheduler) : CallProgress :=
  { r with
    attached := r.attached ++ part.attaches s
    started := r.started ++ part.starts s
    stopped := r.stopped ++ part.stops }

/-- Makes the parts of a call one right after another, up to the first that fails. -/
def complete : List CallPart → CallProgress → Scheduler → CallProgress × Scheduler
  | [], r, s => (r, s)
  | part :: rest, r, s =>
      match part.act s with
      | .ok next => complete rest (r.note part s) next
      | .error cause => ({ r with failure := some cause }, s)

end CallProgress

namespace WorkerCall

/-- What a call answers. -/
inductive Answer where
  | numbers (ids : List Nat)
  | count (started : Nat)
  | done
  | failed (cause : SchedulerError)

/-- The parts of a call. A launch of all workers finds out at its beginning who is idle. -/
def parts (s : Scheduler) : WorkerCall → List CallPart
  | .attach => [.attach]
  | .attachMany count => List.replicate count .attach
  | .launch id => [.launch id]
  | .launchAll => s.idle.map .launch
  | .quit id => [.raise id, .broadcast]
  | .close => [.shut, .notifyAll]

/-- The record of a call that has done nothing yet. -/
def begin (s : Scheduler) (call : WorkerCall) : CallProgress := ⟨call, s, [], [], [], none⟩

/-- A call without interruption. -/
def run (s : Scheduler) (call : WorkerCall) : CallProgress × Scheduler :=
  (call.begin s).complete (call.parts s) s

/-- The scheduler behind a call that is made at one go. -/
def apply (s : Scheduler) : WorkerCall → Scheduler
  | .attach => s.attach
  | .attachMany count => s.attachMany count
  | .launch id => (s.launch id).toOption.getD s
  | .launchAll => s.launchAll
  | .quit id => (s.quit id).toOption.getD s
  | .close => s.close

/-- The number of workers that a call attaches. -/
def places : WorkerCall → Nat
  | .attach => 1
  | .attachMany count => count
  | _ => 0

/-- The workers whose threads a call starts. -/
def starts (s : Scheduler) : WorkerCall → List Nat
  | .launch id => if s.state? id = some .idle then [id] else []
  | .launchAll => s.idle
  | _ => []

/-- The worker that a call tells to quit. -/
def stops (s : Scheduler) : WorkerCall → List Nat
  | .quit id => if s.hasAlive id then [id] else []
  | _ => []

/-- Why a call fails: its worker was never attached, or has quit. -/
def failure? (s : Scheduler) : WorkerCall → Option SchedulerError
  | .launch id | .quit id =>
      match s.state? id with
      | none | some .stopped => some (.workerNotFound id.toUInt64)
      | some .idle | some .running => none
  | _ => none

/-- What a call answers that is made at one go. -/
def answer (s : Scheduler) (call : WorkerCall) : Answer :=
  match call.failure? s with
  | some cause => .failed cause
  | none =>
      match call with
      | .attach => .numbers [s.nextWorker]
      | .attachMany count => .numbers (List.range' s.nextWorker count)
      | .launchAll => .count s.idle.length
      | .launch _ | .quit _ | .close => .done

end WorkerCall

/-- What a call answers that has made all its parts. -/
def CallProgress.answer (r : CallProgress) : WorkerCall.Answer :=
  match r.failure with
  | some cause => .failed cause
  | none =>
      match r.call with
      | .attach | .attachMany _ => .numbers r.attached
      | .launchAll => .count r.before.idleCount
      | .launch _ | .quit _ | .close => .done

namespace Scheduler

variable {s t next : Scheduler} {w : Worker}

-----------------------------------------------------------------------------------------
-- Workers by their numbers
-----------------------------------------------------------------------------------------

theorem worker?_map {change : Worker → Worker} (ids : ∀ w, (change w).id = w.id) (id : Nat)
    : worker? { s with workers := s.workers.map change } id = (s.worker? id).map change := by
  simp only [worker?, List.find?_map, Function.comp_def, ids]

/-- A change of one worker keeps all numbers if it keeps its own. -/
theorem id_ite {change : Worker → Worker} (ids : ∀ w, (change w).id = w.id) (id : Nat) (w : Worker)
    : (if w.id == id then change w else w).id = w.id := by
  split
  · exact ids w
  · rfl

theorem worker?_changeWorker {change : Worker → Worker} (ids : ∀ w, (change w).id = w.id)
    (id other : Nat)
    : (s.changeWorker id change).worker? other
      = if other = id then (s.worker? other).map change else s.worker? other := by
  refine (worker?_map (id_ite ids id) other).trans ?_
  cases found : s.worker? other with
  | none => simp
  | some w =>
      obtain ⟨_, rfl⟩ := worker?_eq_some found
      by_cases same : w.id = id <;> simp [same]

theorem exists_of_state? {id : Nat} {state : WorkerState} (found : s.state? id = some state)
    : ∃ w ∈ s.workers, w.id = id ∧ w.state = state := by
  obtain ⟨w, there, same⟩ := Option.map_eq_some_iff.mp found
  obtain ⟨member, mine⟩ := worker?_eq_some there
  exact ⟨w, member, mine, same⟩

theorem exists_of_hasAlive {id : Nat} (alive : s.hasAlive id = true)
    : ∃ w ∈ s.workers, w.id = id ∧ w.isAlive = true := by
  unfold hasAlive at alive
  cases there : s.worker? id with
  | none => simp [there] at alive
  | some w =>
      obtain ⟨member, mine⟩ := worker?_eq_some there
      exact ⟨w, member, mine, by simpa [there] using alive⟩

theorem state?_eq_of_mem (distinct : (s.workers.map Worker.id).Nodup) (member : w ∈ s.workers)
    : s.state? w.id = some w.state := by
  simp [state?, worker?_eq_of_mem distinct member]

theorem hasAlive_eq (s : Scheduler) (id : Nat)
    : s.hasAlive id = (s.state? id).any (· != .stopped) := by
  unfold hasAlive state?
  cases s.worker? id <;> rfl

/-- A launch goes by the state of its worker. -/
theorem launch_eq (s : Scheduler) (id : Nat)
    : s.launch id
      = match s.state? id with
        | some .idle => .ok (s.changeWorker id Worker.launch)
        | some .running => .ok s
        | _ => .error (.workerNotFound id.toUInt64) := by
  unfold launch state?
  cases s.worker? id with
  | none => rfl
  | some w => cases state : w.state <;> simp [state]

theorem quit_eq (s : Scheduler) (id : Nat)
    : s.quit id
      = if s.hasAlive id then .ok (s.changeWorker id Worker.quit).wakeAll
        else .error (.workerNotFound id.toUInt64) := by
  unfold quit hasAlive
  cases s.worker? id <;> rfl

-----------------------------------------------------------------------------------------
-- The table of the workers
-----------------------------------------------------------------------------------------

theorem state?_eq_roster (s : Scheduler) (id : Nat)
    : s.state? id = (s.roster.find? (·.1 == id)).map Prod.snd := by
  simp [state?, worker?, roster, List.find?_map, Function.comp_def]

/-- Workers may change as long as they keep their numbers and states. -/
theorem roster_map {change : Worker → Worker} (ids : ∀ w, (change w).id = w.id)
    (states : ∀ w, (change w).state = w.state)
    : roster { s with workers := s.workers.map change } = s.roster := by
  simp [roster, Function.comp_def, ids, states]

theorem roster_changeWorker {change : Worker → Worker} {state : WorkerState}
    (ids : ∀ w, (change w).id = w.id) (states : ∀ w, (change w).state = state) (id : Nat)
    : (s.changeWorker id change).roster
      = s.roster.map fun entry => if entry.1 == id then (entry.1, state) else entry := by
  simp only [roster, changeWorker, List.map_map]
  refine List.map_congr_left fun w _ => ?_
  simp only [Function.comp_apply]
  split
  · rw [ids, states]
  · rfl

theorem roster_attach (s : Scheduler) : s.attach.roster = s.roster ++ [(s.nextWorker, .idle)] := by
  simp [roster, attach, Worker.attached]

@[simp]
theorem roster_wakeAll (s : Scheduler) : s.wakeAll.roster = s.roster :=
  roster_map Worker.id_wake Worker.state_wake

/-- Two schedulers have the same table of workers and go on with the same number. -/
structure Alike (s t : Scheduler) : Prop where
  roster : s.roster = t.roster
  nextWorker : s.nextWorker = t.nextWorker

namespace Alike

theorem refl (s : Scheduler) : Alike s s := ⟨rfl, rfl⟩

theorem trans {u : Scheduler} (first : Alike s t) (second : Alike t u) : Alike s u :=
  ⟨first.roster.trans second.roster, first.nextWorker.trans second.nextWorker⟩

theorem state? (alike : Alike s t) (id : Nat) : s.state? id = t.state? id := by
  rw [state?_eq_roster, state?_eq_roster, alike.roster]

theorem hasAlive (alike : Alike s t) (id : Nat) : s.hasAlive id = t.hasAlive id := by
  rw [hasAlive_eq, hasAlive_eq, alike.state? id]

theorem attach (alike : Alike s t) : Alike s.attach t.attach where
  roster := by rw [roster_attach, roster_attach, alike.roster, alike.nextWorker]
  nextWorker := congrArg (· + 1) alike.nextWorker

/-- A worker may be put into the same state in both. -/
theorem changeWorker (alike : Alike s t) {change : Worker → Worker} {state : WorkerState}
    (ids : ∀ w, (change w).id = w.id) (states : ∀ w, (change w).state = state) (id : Nat)
    : Alike (s.changeWorker id change) (t.changeWorker id change) where
  roster := by rw [roster_changeWorker ids states, roster_changeWorker ids states, alike.roster]
  nextWorker := alike.nextWorker

/-- A part of a call fails on both for one reason, or leaves them alike, by cases on the part. -/
theorem act (alike : Alike s t) (part : CallPart)
    : (∃ cause, part.act s = .error cause ∧ part.act t = .error cause)
      ∨ ∃ next other,
          part.act s = .ok next ∧ part.act t = .ok other ∧ Alike next other := by
  cases part with
  | attach => exact .inr ⟨_, _, rfl, rfl, alike.attach⟩
  | launch id =>
      simp only [CallPart.act, launch_eq, alike.state? id]
      cases t.state? id with
      | none => exact .inl ⟨_, rfl, rfl⟩
      | some state =>
          cases state with
          | idle =>
              exact .inr
                ⟨_, _, rfl, rfl, alike.changeWorker Worker.id_launch Worker.state_launch id⟩
          | running => exact .inr ⟨_, _, rfl, rfl, alike⟩
          | stopped => exact .inl ⟨_, rfl, rfl⟩
  | raise id =>
      simp only [CallPart.act, quit_eq, alike.hasAlive id]
      cases t.hasAlive id with
      | true =>
          exact .inr ⟨_, _, rfl, rfl, alike.changeWorker Worker.id_quit Worker.state_quit id⟩
      | false => exact .inl ⟨_, rfl, rfl⟩
  | broadcast | notifyAll =>
      refine .inr ⟨_, _, rfl, rfl, ⟨?_, alike.nextWorker⟩⟩
      rw [roster_wakeAll, roster_wakeAll, alike.roster]
  | shut => exact .inr ⟨_, _, rfl, rfl, ⟨alike.roster, alike.nextWorker⟩⟩

theorem note (alike : Alike s t) (r : CallProgress) (part : CallPart)
    : r.note part s = r.note part t := by
  cases part with
  | attach => simp [CallProgress.note, CallPart.attaches, CallPart.starts, alike.nextWorker]
  | launch id => simp [CallProgress.note, CallPart.attaches, CallPart.starts, alike.state? id]
  | raise _ | broadcast | shut | notifyAll => rfl

/-- What the parts of a call record and do to the table of workers depends on nothing but this
table, by induction on the parts.
-/
theorem complete (alike : Alike s t) (parts : List CallPart) (r : CallProgress)
    : (r.complete parts s).1 = (r.complete parts t).1
      ∧ Alike (r.complete parts s).2 (r.complete parts t).2 := by
  induction parts generalizing r s t with
  | nil => exact ⟨rfl, alike⟩
  | cons part rest ih =>
      rcases alike.act part with ⟨cause, here, there⟩ | ⟨next, other, here, there, after⟩
      · simp only [CallProgress.complete, here, there]
        exact ⟨trivial, alike⟩
      · simp only [CallProgress.complete, here, there, alike.note r part]
        exact ih after (r.note part t)

end Alike

/-- What the parts of calls do when they do not fail. -/
inductive Acted (s : Scheduler) : CallPart → Scheduler → Prop
  | attach : Acted s .attach s.attach
  | start {id} (idle : s.state? id = some .idle)
    : Acted s (.launch id) (s.changeWorker id Worker.launch)
  | runs {id} (running : s.state? id = some .running) : Acted s (.launch id) s
  | raise {id} (alive : s.hasAlive id = true)
    : Acted s (.raise id) (s.changeWorker id Worker.quit)
  | wake {part} (notifies : part = .broadcast ∨ part = .notifyAll) : Acted s part s.wakeAll
  | shut : Acted s .shut s.shut

theorem acted_of_act {part : CallPart} (done : part.act s = .ok next) : Acted s part next := by
  cases part with
  | attach | shut =>
      simp only [CallPart.act, Except.ok.injEq] at done
      subst done
      constructor
  | broadcast | notifyAll =>
      simp only [CallPart.act, Except.ok.injEq] at done
      subst done
      exact .wake (by simp)
  | launch id =>
      simp only [CallPart.act, launch_eq] at done
      split at done
      · next idle =>
          cases done
          exact .start idle
      · next running =>
          cases done
          exact .runs running
      · cases done
  | raise id =>
      simp only [CallPart.act, quit_eq] at done
      split at done
      · next alive =>
          cases done
          exact .raise alive
      · cases done

-----------------------------------------------------------------------------------------
-- Calls without interruption
-----------------------------------------------------------------------------------------

theorem complete_attaches (count : Nat) (r : CallProgress) (s : Scheduler)
    : r.complete (List.replicate count .attach) s
      = ({ r with attached := r.attached ++ List.range' s.nextWorker count },
        s.attachMany count) := by
  induction count generalizing r s with
  | zero => simp [CallProgress.complete, attachMany]
  | succ count ih =>
      simp only [List.replicate_succ, CallProgress.complete, CallPart.act, ih, attachMany]
      simp [CallProgress.note, CallPart.attaches, CallPart.starts, CallPart.stops, attach,
        List.range'_succ]

/-- Workers that are idle are launched one after another, by induction on them: the launch of one
leaves the others idle.
-/
theorem complete_launches {ids : List Nat} (apart : ids.Nodup) (r : CallProgress) (s : Scheduler)
    (waiting : ∀ id ∈ ids, s.state? id = some .idle)
    : r.complete (ids.map .launch) s
      = ({ r with started := r.started ++ ids },
        { s with workers := s.workers.map fun w => if w.id ∈ ids then w.launch else w }) := by
  induction ids generalizing r s with
  | nil => simp [CallProgress.complete]
  | cons id rest ih =>
      obtain ⟨fresh, apart⟩ := List.nodup_cons.mp apart
      have idle := waiting id List.mem_cons_self
      have others (other : Nat) (member : other ∈ rest)
          : (s.changeWorker id Worker.launch).state? other = some .idle := by
        have different : other ≠ id := fun same => fresh (same ▸ member)
        rw [state?, worker?_changeWorker Worker.id_launch, if_neg different]
        exact waiting other (List.mem_cons_of_mem id member)
      have launched (w : Worker)
          : (if (if w.id = id then w.launch else w).id ∈ rest
              then (if w.id = id then w.launch else w).launch
              else if w.id = id then w.launch else w)
            = if w.id = id ∨ w.id ∈ rest then w.launch else w := by
        by_cases same : w.id = id
        · simp [same, Worker.id_launch, fresh]
        · simp [same]
      simp only [List.map_cons, CallProgress.complete, CallPart.act, launch_eq, idle,
        ih apart _ _ others]
      simp [CallProgress.note, CallPart.attaches, CallPart.starts, CallPart.stops, idle,
        changeWorker, Function.comp_def, launched]

theorem mem_idle_iff (distinct : (s.workers.map Worker.id).Nodup) (member : w ∈ s.workers)
    : w.id ∈ s.idle ↔ w.state = .idle := by
  simp only [idle, List.mem_map, List.mem_filter, beq_iff_eq]
  constructor
  · rintro ⟨v, ⟨known, state⟩, same⟩
    rwa [← eq_of_id_eq distinct known member same]
  · intro state
    exact ⟨w, ⟨member, state⟩, rfl⟩

theorem nodup_idle (distinct : (s.workers.map Worker.id).Nodup) : s.idle.Nodup :=
  distinct.sublist (List.filter_sublist.map Worker.id)

theorem state?_of_mem_idle (distinct : (s.workers.map Worker.id).Nodup) {id : Nat}
    (idle : id ∈ s.idle)
    : s.state? id = some .idle := by
  obtain ⟨w, member, rfl⟩ := List.mem_map.mp idle
  obtain ⟨known, state⟩ := List.mem_filter.mp member
  simp [state?, worker?_eq_of_mem distinct known, beq_iff_eq.mp state]

end Scheduler

/-- Without interruption the parts of a call do what the call does at one go, and nothing else goes
on record, by cases on the call.
-/
theorem WorkerCall.run_eq {s : Scheduler} (distinct : (s.workers.map Worker.id).Nodup)
    (call : WorkerCall)
    : call.run s
      = (⟨call, s, List.range' s.nextWorker call.places, call.starts s, call.stops s,
          call.failure? s⟩,
        call.apply s) := by
  cases call with
  | attach => rfl
  | attachMany count => exact s.complete_attaches count _
  | launch id =>
      simp only [run, begin, parts, CallProgress.complete, CallPart.act, Scheduler.launch_eq, apply,
        starts, stops, failure?, places]
      cases state : s.state? id with
      | none => rfl
      | some known =>
          cases known <;>
            simp [CallProgress.note, CallPart.attaches, CallPart.starts, CallPart.stops, state,
              Except.toOption]
  | launchAll =>
      refine (Scheduler.complete_launches (Scheduler.nodup_idle distinct) _ _
        fun id => Scheduler.state?_of_mem_idle distinct).trans ?_
      have chosen : (s.workers.map fun w => if w.id ∈ s.idle then w.launch else w)
          = s.workers.map fun w => if w.state == .idle then w.launch else w := by
        refine List.map_congr_left fun w member => ?_
        simp only [Scheduler.mem_idle_iff distinct member, beq_iff_eq]
      simp only [chosen, begin, apply, Scheduler.launchAll, starts, stops, failure?, places,
        List.nil_append, List.range'_zero]
  | quit id =>
      simp only [run, begin, parts, CallProgress.complete, CallPart.act, Scheduler.quit_eq, apply,
        starts, stops, failure?, places, Scheduler.hasAlive_eq]
      cases s.state? id with
      | none => rfl
      | some known => cases known <;> rfl
  | close => rfl

/-- A call that fails changes nothing. -/
theorem WorkerCall.apply_of_failure? {s : Scheduler} {call : WorkerCall}
    (failed : call.failure? s ≠ none)
    : call.apply s = s := by
  cases call with
  | launch id =>
      simp only [failure?] at failed
      simp only [apply, Scheduler.launch_eq]
      cases state : s.state? id with
      | none => rfl
      | some known => cases known <;> simp [state, Except.toOption] at failed ⊢
  | quit id =>
      simp only [failure?] at failed
      simp only [apply, Scheduler.quit_eq, Scheduler.hasAlive_eq]
      cases state : s.state? id with
      | none => rfl
      | some known => cases known <;> simp [state, Except.toOption] at failed ⊢
  | attach | attachMany _ | launchAll | close => exact absurd rfl failed

/-- Without interruption a call answers what it answers at one go. -/
theorem WorkerCall.answer_run {s : Scheduler} (distinct : (s.workers.map Worker.id).Nodup)
    (call : WorkerCall)
    : (call.run s).1.answer = call.answer s := by
  simp only [call.run_eq distinct, CallProgress.answer, answer]
  cases call with
  | launchAll => simp [failure?, Scheduler.idle, Scheduler.idleCount]
  | attach | attachMany _ | launch _ | quit _ | close => rfl

-----------------------------------------------------------------------------------------
-- Calls in progress and calls that returned
-----------------------------------------------------------------------------------------

open Scheduler (Alike)

/-- The parts to come of a call lead to what the call leads to without interruption. -/
structure CallProgress.Going (r : CallProgress) (parts : List CallPart) (s : Scheduler) : Prop where
  distinct : (r.before.workers.map Worker.id).Nodup
  unfailed : parts ≠ [] → r.failure = none
  record : (r.complete parts s).1 = (r.call.run r.before).1
  alike : Alike (r.complete parts s).2 (r.call.run r.before).2

/-- A call that has returned, and the scheduler it left. -/
structure CallReport extends CallProgress where
  after : Scheduler

/-- A call that returned answers what it answers at one go, starts the threads of just the workers
that it has to start, and leaves the table of workers as it leaves it at one go; if it fails, as it
was.
-/
structure CallReport.Lawful (r : CallReport) : Prop where
  answer : r.answer = r.call.answer r.before
  attached : r.attached = List.range' r.before.nextWorker r.call.places
  started : r.started = r.call.starts r.before
  stopped : r.stopped = r.call.stops r.before
  roster : r.after.roster = (r.call.apply r.before).roster
  failed : r.failure ≠ none → r.after.roster = r.before.roster

namespace CallProgress.Going

variable {r : CallProgress} {part : CallPart} {parts rest : List CallPart} {s next : Scheduler}

theorem begin (distinct : (s.workers.map Worker.id).Nodup) (call : WorkerCall)
    : Going (call.begin s) (call.parts s) s :=
  ⟨distinct, fun _ => rfl, rfl, .refl _⟩

theorem acts (going : Going r (part :: rest) s) (done : part.act s = .ok next)
    : Going (r.note part s) rest next := by
  obtain ⟨distinct, unfailed, record, alike⟩ := going
  simp only [complete, done] at record alike
  exact ⟨distinct, fun _ => unfailed (by simp), record, alike⟩

theorem fails {cause : SchedulerError} (going : Going r (part :: rest) s)
    (failed : part.act s = .error cause)
    : Going { r with failure := some cause } [] s := by
  obtain ⟨distinct, _, record, alike⟩ := going
  simp only [complete, failed] at record alike
  exact ⟨distinct, fun more => absurd rfl more, record, alike⟩

/-- What does not concern the table of workers does not lead the call astray. -/
theorem alike_of (going : Going r parts s) (alike : Alike s next) : Going r parts next := by
  obtain ⟨distinct, unfailed, record, same⟩ := going
  obtain ⟨equal, after⟩ := alike.complete parts r
  exact ⟨distinct, unfailed, equal ▸ record, ⟨after.roster.symm.trans same.roster,
    after.nextWorker.symm.trans same.nextWorker⟩⟩

theorem lawful (going : Going r [] s) : CallReport.Lawful ⟨r, s⟩ := by
  obtain ⟨distinct, _, record, alike⟩ := going
  have answer := r.call.answer_run distinct
  rw [← record] at answer
  rw [r.call.run_eq distinct] at record alike
  simp only [complete] at record alike answer
  refine {
    answer := answer
    attached := congrArg CallProgress.attached record
    started := congrArg CallProgress.started record
    stopped := congrArg CallProgress.stopped record
    roster := alike.roster
    failed := fun failed => ?_
  }
  have cause : r.failure = r.call.failure? r.before := congrArg CallProgress.failure record
  rw [alike.roster, WorkerCall.apply_of_failure? (cause ▸ failed)]

end CallProgress.Going

end TaskFabric
