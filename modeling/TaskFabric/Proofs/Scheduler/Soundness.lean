import Mathlib.Data.List.Nodup
import TaskFabric.Proofs.Scheduler.Changes
import TaskFabric.Proofs.Scheduler.LaneContents

/-! What holds of a scheduler in every state that it can be in. No two workers have one number, only
workers that run may sleep, nobody sleeps on waiting tickets unless a worker is up that will take
them, and no two tickets that are out have one number.
-/

namespace TaskFabric

-----------------------------------------------------------------------------------------
-- Workers
-----------------------------------------------------------------------------------------

namespace Worker

/-- A worker that will look for tickets again: it runs, and is awake or works on a ticket. -/
def Active (w : Worker) : Prop :=
  w.state = .running ∧ (w.activity = .awake ∨ ∃ ticket handler, w.activity = .busy ticket handler)

/-- The state and the activity of a worker fit together. A worker sleeps or has a thread only if it
was started, a thread ends only if its worker was told to quit or the lanes are closed, and a ticket
is worked on with the handler of its name.
-/
structure Fits (registry : Registry) (closed : Bool) (w : Worker) : Prop where
  unborn : w.state = .idle → w.activity = .unborn
  asleep : w.activity = .asleep → w.state = .running
  born : w.state = .running → w.activity ≠ .unborn
  exited : w.state = .running → w.activity = .exited → closed = true
  handled
    : ∀ ticket handler,
        w.activity = .busy ticket handler → handler = registry.get? ticket.task.consumable

variable {registry : Registry} {closed : Bool} {w : Worker}

theorem fits_attached (registry : Registry) (closed : Bool) (id : Nat)
    : Fits registry closed (.attached id) where
  unborn _ := rfl
  asleep doing := by cases doing
  born running := by cases running
  exited running := by cases running
  handled _ _ doing := by cases doing

theorem fits_launch (registry : Registry) (closed : Bool) (w : Worker)
    : Fits registry closed w.launch where
  unborn idle := by cases idle
  asleep doing := by cases doing
  born _ doing := by cases doing
  exited _ doing := by cases doing
  handled _ _ doing := by cases doing

theorem Fits.wake (fits : Fits registry closed w) : Fits registry closed w.wake where
  unborn idle := by
    have unborn := fits.unborn (w.state_wake.symm.trans idle)
    simp [Worker.wake, unborn]
  asleep doing := absurd doing w.activity_wake_ne_asleep
  born running := by
    rcases w.activity_wake with same | ⟨_, awake⟩
    · exact same ▸ fits.born (w.state_wake.symm.trans running)
    · simp [awake]
  exited running doing := by
    rcases w.activity_wake with same | ⟨_, awake⟩
    · exact fits.exited (w.state_wake.symm.trans running) (same.symm.trans doing)
    · simp [awake] at doing
  handled ticket handler doing := fits.handled ticket handler (w.busy_of_busy_wake doing)

/-- A worker that was told to quit fits as soon as it is woken. -/
theorem Fits.quit (fits : Fits registry closed w) : Fits registry closed w.quit.wake where
  unborn idle := by simp [Worker.quit] at idle
  asleep doing := absurd doing w.quit.activity_wake_ne_asleep
  born running := by simp [Worker.quit] at running
  exited running := by simp [Worker.quit] at running
  handled ticket handler doing := fits.handled ticket handler (w.quit.busy_of_busy_wake doing)

theorem Fits.close (fits : Fits registry closed w) : Fits registry true w :=
  { fits with exited := fun _ _ => rfl }

end Worker

namespace Scheduler

-----------------------------------------------------------------------------------------
-- Tickets and workers of a scheduler
-----------------------------------------------------------------------------------------

/-- A ticket that is queued or that a worker holds. -/
def Outstanding (s : Scheduler) (ticket : Ticket) : Prop :=
  ticket ∈ s.lanes.tickets ∨ ∃ w ∈ s.workers, ∃ handler, w.activity = .busy ticket handler

/-- The workers and the tickets of a scheduler are in order. -/
structure Sound (s : Scheduler) : Prop where
  distinct : (s.workers.map Worker.id).Nodup
  numbered : ∀ w ∈ s.workers, w.id < s.nextWorker
  fits : ∀ w ∈ s.workers, w.Fits s.registry s.lanes.closed
  issued : ∀ ticket, s.Outstanding ticket → ticket.id < s.nextTicket
  single
    : ∀ ticket other,
        s.Outstanding ticket → s.Outstanding other → ticket.id = other.id → ticket = other

/-- Nobody sleeps on waiting tickets unless a worker is up that will take them. -/
def Vigilant (s : Scheduler) : Prop :=
  s.lanes.tickets ≠ []
  → ∀ w ∈ s.workers, w.activity = .asleep → ∃ active ∈ s.workers, active.Active

theorem sound_create (registry : Registry) (expire : Duration)
    : Sound (create registry expire) where
  distinct := .nil
  numbered := by simp [create]
  fits := by simp [create]
  issued ticket out := by simp [Outstanding, create, Lanes.empty, Lanes.tickets_eq] at out
  single ticket _ out := by simp [Outstanding, create, Lanes.empty, Lanes.tickets_eq] at out

variable {s next : Scheduler} {w : Worker}

-----------------------------------------------------------------------------------------
-- Workers whose numbers are apart
-----------------------------------------------------------------------------------------

section Numbers

variable (distinct : (s.workers.map Worker.id).Nodup)
include distinct

theorem eq_of_id_eq {v w : Worker} (here : v ∈ s.workers) (there : w ∈ s.workers)
    (same : v.id = w.id)
    : v = w :=
  List.inj_on_of_nodup_map distinct here there same

theorem worker?_eq_of_mem (member : w ∈ s.workers) : s.worker? w.id = some w := by
  unfold worker?
  cases found : s.workers.find? (·.id == w.id) with
  | none => simpa using List.find?_eq_none.mp found w member
  | some other =>
      have same := List.find?_some found
      rw [eq_of_id_eq distinct (List.mem_of_find?_eq_some found) member (by simpa using same)]

theorem mem_changeWorker (member : w ∈ s.workers) (change : Worker → Worker) (v : Worker)
    : v ∈ (s.changeWorker w.id change).workers ↔ v = change w ∨ v ∈ s.workers ∧ v.id ≠ w.id := by
  simp only [changeWorker, List.mem_map]
  constructor
  · rintro ⟨u, known, rfl⟩
    by_cases same : u.id = w.id
    · have equal := eq_of_id_eq distinct known member same
      subst equal
      simp
    · simp [known, same]
  · rintro (rfl | ⟨known, different⟩)
    · exact ⟨w, member, by simp⟩
    · exact ⟨v, known, by simp [different]⟩

/-- A worker that changes keeps its place among the others, which stay as they are. -/
theorem exists_parts (member : w ∈ s.workers)
    : ∃ before behind,
        s.workers = before ++ w :: behind
        ∧ (∀ v ∈ before ++ behind, v.id ≠ w.id)
        ∧ ∀ change, (s.changeWorker w.id change).workers = before ++ change w :: behind := by
  obtain ⟨before, behind, split⟩ := List.append_of_mem member
  have others : ∀ v ∈ before ++ behind, v.id ≠ w.id := by
    rw [split, List.map_append, List.map_cons] at distinct
    have fresh := (List.nodup_cons.mp (List.perm_middle.nodup_iff.mp distinct)).1
    intro v known same
    exact fresh (same ▸ List.map_append ▸ List.mem_map_of_mem known)
  have keep (change : Worker → Worker) (part : List Worker) (within : part ⊆ before ++ behind)
      : part.map (fun v => if v.id == w.id then change v else v) = part := by
    refine (List.map_congr_left ?_).trans part.map_id
    intro v known
    simp [others v (within known)]
  refine ⟨before, behind, split, others, fun change => ?_⟩
  simp only [changeWorker, split, List.map_append, List.map_cons,
    keep change before (List.subset_append_left _ _),
    keep change behind (List.subset_append_right _ _), BEq.rfl, if_true]

/-- Changing one worker changes a count of workers by its own part, if the count is about the
others as before.
-/
theorem countP_changeWorker (member : w ∈ s.workers) (change : Worker → Worker)
    (before after : Worker → Bool) (others : ∀ v ∈ s.workers, v.id ≠ w.id → after v = before v)
    : (s.changeWorker w.id change).workers.countP after + (before w).toNat
      = s.workers.countP before + (after (change w)).toNat := by
  obtain ⟨front, behind, split, apart, changed⟩ := exists_parts distinct member
  have known (part : List Worker) (within : part ⊆ front ++ behind)
      : part.countP after = part.countP before := by
    refine List.countP_congr fun v member => ?_
    have listed : v ∈ s.workers := by
      rw [split]
      exact List.perm_middle.mem_iff.mpr (List.mem_cons_of_mem w (within member))
    rw [others v listed (apart v (within member))]
  rw [changed, split]
  simp only [List.countP_append, List.countP_cons, known front (List.subset_append_left _ _),
    known behind (List.subset_append_right _ _)]
  cases before w <;> cases after (change w) <;> simp <;> omega

end Numbers

namespace Sound

theorem eq_of_id_eq (sound : Sound s) {v w : Worker} (here : v ∈ s.workers) (there : w ∈ s.workers)
    (same : v.id = w.id)
    : v = w :=
  Scheduler.eq_of_id_eq sound.distinct here there same

theorem mem_changeWorker (sound : Sound s) (member : w ∈ s.workers) (change : Worker → Worker)
    (v : Worker)
    : v ∈ (s.changeWorker w.id change).workers ↔ v = change w ∨ v ∈ s.workers ∧ v.id ≠ w.id :=
  Scheduler.mem_changeWorker sound.distinct member change v

theorem worker?_eq (sound : Sound s) (member : w ∈ s.workers) : s.worker? w.id = some w :=
  worker?_eq_of_mem sound.distinct member

/-- Workers may change as long as they keep their numbers, fit, and work on tickets that were out
before.
-/
theorem mapWorkers (sound : Sound s) {change : Worker → Worker} (ids : ∀ w, (change w).id = w.id)
    (fits : ∀ w ∈ s.workers, (change w).Fits s.registry s.lanes.closed)
    (busy
      : ∀ w ∈ s.workers, ∀ ticket handler,
          (change w).activity = .busy ticket handler → s.Outstanding ticket)
    : Sound { s with workers := s.workers.map change } := by
  have fewer {ticket} (out : Outstanding { s with workers := s.workers.map change } ticket)
      : s.Outstanding ticket := by
    rcases out with queued | ⟨v, member, handler, doing⟩
    · exact .inl queued
    · obtain ⟨w, known, rfl⟩ := List.mem_map.mp member
      exact busy w known ticket handler doing
  refine {
    distinct := ?_
    numbered := ?_
    fits := ?_
    issued := ?_
    single := ?_
  }
  · simpa only [List.map_map, Function.comp_def, ids] using sound.distinct
  · intro v member
    obtain ⟨w, known, rfl⟩ := List.mem_map.mp member
    exact ids w ▸ sound.numbered w known
  · intro v member
    obtain ⟨w, known, rfl⟩ := List.mem_map.mp member
    exact fits w known
  · exact fun ticket out => sound.issued ticket (fewer out)
  · exact fun ticket other out also => sound.single ticket other (fewer out) (fewer also)

-----------------------------------------------------------------------------------------
-- Workers come, are started, and are told to quit
-----------------------------------------------------------------------------------------

theorem attach (sound : Sound s) : Sound s.attach := by
  have fewer {ticket} (out : s.attach.Outstanding ticket) : s.Outstanding ticket := by
    refine out.imp_right ?_
    rintro ⟨v, member, handler, doing⟩
    rcases List.mem_append.mp member with known | new
    · exact ⟨v, known, handler, doing⟩
    · simp only [List.mem_singleton] at new
      subst new
      cases doing
  refine {
    distinct := ?_
    numbered := ?_
    fits := ?_
    issued := ?_
    single := ?_
  }
  · simp only [Scheduler.attach, List.map_append, List.map_singleton]
    refine List.nodup_append.mpr ⟨sound.distinct, by simp, ?_⟩
    intro id member other new same
    obtain ⟨w, known, rfl⟩ := List.mem_map.mp member
    have lower := sound.numbered w known
    simp only [List.mem_singleton, Worker.attached] at new
    omega
  · intro v member
    rcases List.mem_append.mp member with known | new
    · exact Nat.lt_succ_of_lt (sound.numbered v known)
    · simp only [List.mem_singleton] at new
      subst new
      exact Nat.lt_succ_self _
  · intro v member
    rcases List.mem_append.mp member with known | new
    · exact sound.fits v known
    · simp only [List.mem_singleton] at new
      subst new
      exact Worker.fits_attached _ _ _
  · exact fun ticket out => sound.issued ticket (fewer out)
  · exact fun ticket other out also => sound.single ticket other (fewer out) (fewer also)

theorem launch (sound : Sound s) {id : Nat} (launched : s.launch id = .ok next) : Sound next := by
  rcases launch_eq_ok launched with rfl | ⟨w, _, _, _, rfl⟩
  · exact sound
  · refine sound.mapWorkers ?_ ?_ ?_
    · intro w
      split <;> rfl
    · intro w member
      split
      · exact Worker.fits_launch _ _ w
      · exact sound.fits w member
    · intro w member ticket handler doing
      split at doing
      · cases doing
      · exact .inr ⟨w, member, handler, doing⟩

theorem launchAll (sound : Sound s) : Sound s.launchAll := by
  refine sound.mapWorkers ?_ ?_ ?_
  · intro w
    split <;> rfl
  · intro w member
    split
    · exact Worker.fits_launch _ _ w
    · exact sound.fits w member
  · intro w member ticket handler doing
    split at doing
    · cases doing
    · exact .inr ⟨w, member, handler, doing⟩

theorem quit (sound : Sound s) {id : Nat} (told : s.quit id = .ok next) : Sound next := by
  rw [quit_eq_ok told]
  refine sound.mapWorkers ?_ ?_ ?_
  · intro w
    split <;> simp [Worker.quit]
  · intro w member
    split
    · exact (sound.fits w member).quit
    · exact (sound.fits w member).wake
  · intro w member ticket handler doing
    split at doing
    · exact .inr ⟨w, member, handler, w.quit.busy_of_busy_wake doing⟩
    · exact .inr ⟨w, member, handler, w.busy_of_busy_wake doing⟩

-----------------------------------------------------------------------------------------
-- Tickets come and go
-----------------------------------------------------------------------------------------

/-- Tickets may leave the lanes, and the lanes may be closed. -/
theorem withLanes (sound : Sound s) (lanes : Lanes) (fewer : lanes.tickets ⊆ s.lanes.tickets)
    (closed : lanes.closed = s.lanes.closed ∨ lanes.closed = true)
    : Sound { s with lanes } := by
  have out {ticket} (out : Outstanding { s with lanes } ticket) : s.Outstanding ticket :=
    out.imp_left fun queued => fewer queued
  refine { sound with fits := ?_, issued := ?_, single := ?_ }
  · intro w member
    rcases closed with same | shut
    · exact same ▸ sound.fits w member
    · exact shut ▸ (sound.fits w member).close
  · exact fun ticket found => sound.issued ticket (out found)
  · exact fun ticket other found also => sound.single ticket other (out found) (out also)

theorem wake (sound : Sound s) (id : Nat) : Sound (s.wake id) := by
  refine sound.mapWorkers ?_ ?_ ?_
  · intro w
    split <;> simp
  · intro w member
    split
    · exact (sound.fits w member).wake
    · exact sound.fits w member
  · intro w member ticket handler doing
    split at doing
    · exact .inr ⟨w, member, handler, w.busy_of_busy_wake doing⟩
    · exact .inr ⟨w, member, handler, doing⟩

theorem wakeOne (sound : Sound s) : Sound s.wakeOne := by
  unfold Scheduler.wakeOne
  split
  · exact sound.wake _
  · exact sound

/-- A ticket that is pushed gets a number that no ticket has that is out. -/
theorem push (sound : Sound s) {task : Task} {lanes : Lanes}
    (pushed : s.lanes.push? ⟨s.nextTicket, task⟩ = some lanes) (futures : SortedMap Nat Future)
    : Sound { s with lanes, futures, nextTicket := s.nextTicket + 1 } := by
  obtain ⟨wasOpen, isOpen, perm⟩ := Lanes.push?_eq_some pushed
  -- A ticket that is out was out before, or it is the new one.
  have split {ticket} (out : Outstanding { s with lanes } ticket)
      : ticket = ⟨s.nextTicket, task⟩ ∨ s.Outstanding ticket := by
    rcases out with queued | held
    · exact (List.mem_cons.mp (perm.mem_iff.mp queued)).imp_right .inl
    · exact .inr (.inr held)
  refine {
    distinct := sound.distinct
    numbered := sound.numbered
    fits := ?_
    issued := ?_
    single := ?_
  }
  · intro w member
    exact isOpen.trans wasOpen.symm ▸ sound.fits w member
  · intro ticket out
    rcases split out with rfl | known
    · exact Nat.lt_succ_self _
    · exact Nat.lt_succ_of_lt (sound.issued ticket known)
  · intro ticket other out also same
    rcases split out with rfl | known <;> rcases split also with rfl | known'
    · rfl
    · exact absurd same (Nat.ne_of_gt (sound.issued other known'))
    · exact absurd same (Nat.ne_of_lt (sound.issued ticket known))
    · exact sound.single ticket other known known' same

theorem enqueueOne (sound : Sound s) {task : Task} {id : Nat}
    (accepted : s.enqueueOne task = .ok (id, next))
    : Sound next := by
  obtain ⟨_, lanes, pushed, rfl⟩ := enqueueOne_eq_ok accepted
  exact (sound.push pushed _).wakeOne

theorem close (sound : Sound s) : Sound s.close := by
  have shut : Sound { s with lanes := s.lanes.close } :=
    sound.withLanes _ (by simp) (.inr rfl)
  have woken := shut.mapWorkers Worker.id_wake (fun w member => (shut.fits w member).wake)
    fun w member ticket handler doing => .inr ⟨w, member, handler, w.busy_of_busy_wake doing⟩
  exact { woken with }

-----------------------------------------------------------------------------------------
-- Workers take their steps
-----------------------------------------------------------------------------------------

/-- A worker may turn to something else that fits its state. -/
theorem changeActivity (sound : Sound s) (member : w ∈ s.workers) {activity : Activity}
    (fits : Worker.Fits s.registry s.lanes.closed { w with activity })
    (busy : ∀ ticket handler, activity = .busy ticket handler → s.Outstanding ticket)
    : Sound (s.changeWorker w.id fun w => { w with activity }) := by
  refine sound.mapWorkers ?_ ?_ ?_
  · intro v
    split <;> rfl
  · intro v known
    split
    · next same =>
        rw [sound.eq_of_id_eq known member (by simpa using same)]
        exact fits
    · exact sound.fits v known
  · intro v known ticket handler doing
    split at doing
    · exact busy ticket handler doing
    · exact .inr ⟨v, known, handler, doing⟩

theorem turn (sound : Sound s) (member : w ∈ s.workers) (turn : Turn s w next) : Sound next := by
  have fits := sound.fits w member
  -- A worker that is awake has been started.
  have started (awake : w.activity = .awake) : w.state ≠ .idle := fun idle => by
    have unborn := fits.unborn idle
    rw [awake] at unborn
    cases unborn
  cases turn with
  | leave awake sent =>
      refine sound.changeActivity member ?_ (by simp)
      refine {
        unborn := fun idle => absurd idle (started awake)
        asleep := by simp
        born := by simp
        exited := ?_
        handled := by simp
      }
      intro running _
      rcases sent with stopped | ⟨shut, _⟩
      · simp only [stopped] at running
        cases running
      · exact shut
  | sleep awake active _ =>
      refine sound.changeActivity member ?_ (by simp)
      refine {
        unborn := fun idle => absurd idle (started awake)
        asleep := ?_
        born := by simp
        exited := by simp
        handled := by simp
      }
      intro _
      cases state : w.state with
      | idle => exact absurd state (started awake)
      | running => rfl
      | stopped => exact absurd state active
  | @take ticket lanes log gate awake active popped _ =>
      obtain ⟨closed, perm⟩ := Lanes.pop?_eq_some popped
      have waiting : ticket ∈ s.lanes.tickets := perm.mem_iff.mpr List.mem_cons_self
      have taken : Sound (s.changeWorker w.id fun w =>
          { w with activity := .busy ticket (s.registry.get? ticket.task.consumable) }) := by
        refine sound.changeActivity member ?_ ?_
        · refine {
            unborn := fun idle => absurd idle (started awake)
            asleep := by simp
            born := by simp
            exited := by simp
            handled := ?_
          }
          intro other handler same
          cases same
          rfl
        · intro other handler same
          cases same
          exact .inl waiting
      have left := taken.withLanes lanes
        (fun other queued => perm.mem_iff.mpr (List.mem_cons_of_mem ticket queued)) (.inl closed)
      exact { left with }
  | @finish ticket handler busy =>
      have freed : Sound (s.changeWorker w.id fun w => { w with activity := .awake }) := by
        refine sound.changeActivity member ?_ (by simp)
        refine {
          unborn := ?_
          asleep := by simp
          born := by simp
          exited := by simp
          handled := by simp
        }
        intro idle
        have unborn := fits.unborn idle
        rw [busy] at unborn
        cases unborn
      exact { freed with }
  | rest _ _ => exact sound

/-- Every change leaves workers and tickets in order, by cases on the change. -/
theorem change (sound : Sound s) (change : Change s next) : Sound next := by
  cases change with
  | attach => exact sound.attach
  | launch launched => exact sound.launch launched
  | launchAll => exact sound.launchAll
  | quit told => exact sound.quit told
  | enqueue accepted => exact sound.enqueueOne accepted
  | step member => exact sound.turn member (turn_step _ _)
  | close => exact sound.close
  | wait _ | expire _ | release _ | pass _ => exact { sound with }

theorem changes (sound : Sound s) (changes : Changes s next) : Sound next := by
  induction changes with
  | refl => exact sound
  | tail _ change ih => exact ih.change change

end Sound

-----------------------------------------------------------------------------------------
-- Nobody sleeps on waiting tickets
-----------------------------------------------------------------------------------------

/-- A worker that is woken because a ticket came is up, and without sleepers nobody sleeps. -/
theorem Sound.vigilant_wakeOne (sound : Sound s) : Vigilant s.wakeOne := by
  intro _ v member doing
  unfold Scheduler.wakeOne at member ⊢
  split at member
  · next sleeper found =>
      have known := List.mem_of_find?_eq_some found
      have asleep : sleeper.activity = .asleep := by
        have test := List.find?_some found
        unfold Worker.isAsleep at test
        split at test
        · assumption
        · cases test
      have woken := (sound.mem_changeWorker known Worker.wake sleeper.wake).mpr (.inl rfl)
      refine ⟨sleeper.wake, woken, ?_, .inl ?_⟩
      · exact sleeper.state_wake.trans ((sound.fits sleeper known).asleep asleep)
      · simp [Worker.wake, asleep]
  · next missing =>
      have up := List.find?_eq_none.mp missing v member
      simp [Worker.isAsleep, doing] at up

/-- A step of a worker keeps the others from sleeping on tickets: the worker sleeps only if there
are none, and leaves only if it was told to quit or the lanes are empty.
-/
theorem Vigilant.turn (vigilant : Vigilant s) (sound : Sound s) (member : w ∈ s.workers)
    (turn : Turn s w next)
    : Vigilant next := by
  cases turn with
  | leave awake sent =>
      intro waiting v known doing
      rcases (sound.mem_changeWorker member _ v).mp known with rfl | ⟨before, _⟩
      · cases doing
      · obtain ⟨active, here, running, up⟩ := vigilant waiting v before doing
        refine ⟨active, (sound.mem_changeWorker member _ active).mpr (.inr ⟨here, ?_⟩), running, up⟩
        intro same
        rw [sound.eq_of_id_eq here member same] at running
        rcases sent with stopped | ⟨_, empty⟩
        · simp [stopped] at running
        · exact waiting (Lanes.pop?_eq_none_iff.mp empty)
  | sleep _ _ empty => exact fun waiting => absurd (Lanes.pop?_eq_none_iff.mp empty) waiting
  | @take ticket lanes log gate awake active popped _ =>
      intro _ _ _ _
      refine ⟨_, (sound.mem_changeWorker member _ _).mpr (.inl rfl), ?_, .inr ⟨ticket, _, rfl⟩⟩
      cases state : w.state with
      | idle =>
          have unborn := (sound.fits w member).unborn state
          simp [awake] at unborn
      | running => rfl
      | stopped => exact absurd state active
  | finish busy =>
      intro waiting v known doing
      rcases (sound.mem_changeWorker member _ v).mp known with rfl | ⟨before, _⟩
      · cases doing
      · obtain ⟨active, here, running, up⟩ := vigilant waiting v before doing
        by_cases same : active.id = w.id
        · rw [sound.eq_of_id_eq here member same] at running
          exact ⟨_, (sound.mem_changeWorker member _ _).mpr (.inl rfl), running, .inl rfl⟩
        · refine ⟨active, ?_, running, up⟩
          exact (sound.mem_changeWorker member _ active).mpr (.inr ⟨here, same⟩)
  | rest _ _ => exact vigilant

/-- No change leaves a worker asleep on waiting tickets with nobody up, by cases on the change. -/
theorem Vigilant.change (vigilant : Vigilant s) (sound : Sound s) (change : Change s next)
    : Vigilant next := by
  cases change with
  | attach =>
      intro waiting v member doing
      rcases List.mem_append.mp member with known | new
      · obtain ⟨active, here, up⟩ := vigilant waiting v known doing
        exact ⟨active, List.mem_append_left _ here, up⟩
      · simp only [List.mem_singleton] at new
        subst new
        cases doing
  | launch launched =>
      rcases launch_eq_ok launched with rfl | ⟨w, member, rfl, _, rfl⟩
      · exact vigilant
      · intro _ _ _ _
        exact ⟨w.launch, (sound.mem_changeWorker member _ _).mpr (.inl rfl), rfl, .inl rfl⟩
  | launchAll =>
      intro waiting v member doing
      obtain ⟨w, known, rfl⟩ := List.mem_map.mp member
      have asleep : w.activity = .asleep := by
        split at doing
        · cases doing
        · exact doing
      obtain ⟨active, here, running, up⟩ := vigilant waiting w known asleep
      exact ⟨active, List.mem_map.mpr ⟨active, here, by simp [running]⟩, running, up⟩
  | quit told =>
      rw [quit_eq_ok told]
      intro _ v member doing
      obtain ⟨w, _, rfl⟩ := List.mem_map.mp member
      split at doing
      · exact absurd doing w.quit.activity_wake_ne_asleep
      · exact absurd doing w.activity_wake_ne_asleep
  | enqueue accepted =>
      obtain ⟨_, lanes, pushed, rfl⟩ := enqueueOne_eq_ok accepted
      exact (sound.push pushed _).vigilant_wakeOne
  | step member => exact vigilant.turn sound member (turn_step _ _)
  | close => exact fun waiting => absurd rfl waiting
  | wait _ | expire _ | release _ | pass _ => exact vigilant

theorem Reached.sound_and_vigilant {registry : Registry} (reached : Reached registry s)
    : Sound s ∧ Vigilant s := by
  obtain ⟨expire, changes⟩ := reached
  induction changes with
  | refl => exact ⟨sound_create registry expire, fun waiting => absurd rfl waiting⟩
  | tail _ change ih => exact ⟨ih.1.change change, ih.2.change ih.1 change⟩

end Scheduler

end TaskFabric
