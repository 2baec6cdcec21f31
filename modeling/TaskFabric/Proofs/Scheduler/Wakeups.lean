import TaskFabric.Proofs.Scheduler.Soundness

/-! Workers never sleep on available work, whatever comes between a call and its notification. A
call changes the lanes or raises a quit in one critical section and notifies the sleepers in a later
one: a push wakes one of them, a quit and a close wake all. In between the workers go on, other
calls come, and sleepers wake up for no reason; the notification of a push may reach a worker that
was told to quit and takes nothing.

What saves the ticket then is the broadcast of the quit, which is owed as long as such a worker may
sleep. Once nothing is owed, only workers that run are asleep, and each queued ticket has a worker
that runs, was woken, and has not looked at the lanes since.
-/

namespace TaskFabric

namespace Scheduler

/-- Closes the lanes and abandons their tickets. The workers are not woken yet. -/
def shut (s : Scheduler) : Scheduler :=
  let dropped := s.lanes.tickets.map (·.id)
  { s with
    lanes := s.lanes.close
    futures :=
      s.futures.map fun id (f : Future) => if dropped.contains id then f.abandon else f }

end Scheduler

/-- A notification of the workers that sleep: of one of them, or of all. -/
inductive Notice where
  | one
  | all
deriving DecidableEq

/-- A scheduler between its critical sections: the notifications that calls still owe, and the
workers that were woken and have not looked at the lanes since.
-/
structure Floor where
  scheduler : Scheduler
  owed : List Notice
  woken : List Nat

/-- What happens on the floor in one critical section. -/
inductive Move where
  | attach
  | launch (id : Nat)
  | launchAll
  /-- The first part of a submission: the ticket is queued. -/
  | push (task : Task)
  /-- The first part of a quit: the flag of the worker is raised. -/
  | raise (id : Nat)
  /-- The first part of a close. -/
  | shut
  /-- The second part of a submission: a sleeper is woken, if anyone sleeps. -/
  | notifyOne (id : Nat)
  /-- The second part of a quit or a close: all sleepers are woken. -/
  | notifyAll
  /-- A sleeper wakes up without a notification. -/
  | stir (id : Nat)
  /-- A worker looks at the lanes, or finishes what it works on. -/
  | step (id : Nat)
  /-- All that does not concern lanes and workers becomes as it is in another scheduler. -/
  | elsewhere (other : Scheduler)

namespace Floor

/-- The floor of a new scheduler. -/
def start (registry : Registry) (expire : Duration) : Floor := ⟨.create registry expire, [], []⟩

/-- The numbers of the workers that sleep. -/
def sleepers (f : Floor) : List Nat := (f.scheduler.workers.filter Worker.isAsleep).map Worker.id

/-- Wakes one worker. -/
def rouse (f : Floor) (id : Nat) : Floor :=
  { f with scheduler := f.scheduler.wake id, woken := id :: f.woken }

/-- Makes a move. One that cannot be made now leaves everything as it is. -/
def perform (f : Floor) : Move → Floor
  | .attach => { f with scheduler := f.scheduler.attach }
  | .launch id =>
      match f.scheduler.launch id with
      | .ok launched => { f with scheduler := launched }
      | .error _ => f
  | .launchAll => { f with scheduler := f.scheduler.launchAll }
  | .push task =>
      match f.scheduler.push? task with
      | some pushed => { f with scheduler := pushed, owed := .one :: f.owed }
      | none => f
  | .raise id =>
      match f.scheduler.worker? id with
      | some w =>
          if w.isAlive then
            { f with
              scheduler := f.scheduler.changeWorker id Worker.quit
              owed := .all :: f.owed }
          else f
      | none => f
  | .shut => { f with scheduler := f.scheduler.shut, owed := .all :: f.owed }
  | .notifyOne id =>
      if .one ∈ f.owed then
        if id ∈ f.sleepers then { f.rouse id with owed := f.owed.erase .one }
        else if f.sleepers = [] then { f with owed := f.owed.erase .one }
        else f
      else f
  | .notifyAll =>
      if .all ∈ f.owed then
        ⟨f.scheduler.wakeAll, f.owed.erase .all, f.sleepers ++ f.woken⟩
      else f
  | .stir id => if id ∈ f.sleepers then f.rouse id else f
  | .step id =>
      match f.scheduler.worker? id with
      | some w => { f with scheduler := f.scheduler.step w, woken := f.woken.filter (· != id) }
      | none => f
  | .elsewhere other =>
      { f with
        scheduler :=
          { other with
            lanes := f.scheduler.lanes
            workers := f.scheduler.workers
            nextWorker := f.scheduler.nextWorker } }

/-- Makes moves one after another. -/
def performAll (f : Floor) (moves : List Move) : Floor := moves.foldl perform f

end Floor

/-- Whether a worker has not quit, was woken, and has not looked at the lanes since. -/
def Worker.isRoused (woken : List Nat) (w : Worker) : Bool :=
  w.state == .running && woken.contains w.id

namespace Floor

/-- The number of workers that have not quit, were woken, and have not looked at the lanes since. -/
def roused (f : Floor) : Nat := f.scheduler.workers.countP (Worker.isRoused f.woken)

variable {f next : Floor} {w : Worker}

theorem mem_sleepers {id : Nat}
    : id ∈ f.sleepers ↔ ∃ w ∈ f.scheduler.workers, w.id = id ∧ w.activity = .asleep := by
  have asleep (w : Worker) : w.isAsleep = true ↔ w.activity = .asleep := by
    cases doing : w.activity <;> simp [Worker.isAsleep, doing]
  simp only [sleepers, List.mem_map, List.mem_filter, asleep]
  constructor
  · rintro ⟨w, ⟨member, doing⟩, rfl⟩
    exact ⟨w, member, rfl, doing⟩
  · rintro ⟨w, member, rfl, doing⟩
    exact ⟨w, ⟨member, doing⟩, rfl⟩

-----------------------------------------------------------------------------------------
-- Workers in order
-----------------------------------------------------------------------------------------

/-- Workers have numbers of their own and no threads before they are started, and one that was woken
and has not looked since is awake.
-/
structure Tidy (f : Floor) : Prop where
  distinct : (f.scheduler.workers.map Worker.id).Nodup
  numbered : ∀ w ∈ f.scheduler.workers, w.id < f.scheduler.nextWorker
  unborn : ∀ w ∈ f.scheduler.workers, w.state = .idle → w.activity = .unborn
  awake : ∀ id ∈ f.woken, ∃ w ∈ f.scheduler.workers, w.id = id ∧ w.activity = .awake

namespace Tidy

theorem activity_of_mem_woken (tidy : Tidy f) (member : w ∈ f.scheduler.workers)
    (woken : w.id ∈ f.woken)
    : w.activity = .awake := by
  obtain ⟨v, known, same, awake⟩ := tidy.awake w.id woken
  rwa [Scheduler.eq_of_id_eq tidy.distinct known member same] at awake

/-- Workers may change as long as they keep their numbers, are not started or stopped by halves, and
those that were woken are awake.
-/
theorem mapWorkers (tidy : Tidy f) {change : Worker → Worker}
    (workers : next.scheduler.workers = f.scheduler.workers.map change)
    (numbers : next.scheduler.nextWorker = f.scheduler.nextWorker)
    (ids : ∀ w, (change w).id = w.id)
    (unborn : ∀ w ∈ f.scheduler.workers, (change w).state = .idle → (change w).activity = .unborn)
    (awake
      : ∀ id ∈ next.woken,
          ∃ w ∈ f.scheduler.workers, w.id = id ∧ (change w).activity = .awake)
    : Tidy next where
  distinct := by simpa only [workers, List.map_map, Function.comp_def, ids] using tidy.distinct
  numbered v member := by
    obtain ⟨w, known, rfl⟩ := List.mem_map.mp (workers ▸ member)
    rw [ids w, numbers]
    exact tidy.numbered w known
  unborn v member := by
    obtain ⟨w, known, rfl⟩ := List.mem_map.mp (workers ▸ member)
    exact unborn w known
  awake id listed := by
    obtain ⟨w, known, same, doing⟩ := awake id listed
    exact ⟨change w, workers ▸ List.mem_map_of_mem known, (ids w).trans same, doing⟩

end Tidy

/-- Workers are in order. Unless a broadcast is owed, only those sleep that run, and if one sleeps,
every ticket has a worker that was woken and has not looked since, or a notification that is owed.
-/
structure Attended (f : Floor) : Prop extends Tidy f where
  covered
    : .all ∉ f.owed
      → ∀ w ∈ f.scheduler.workers,
          w.activity = .asleep
          → w.state = .running ∧ f.scheduler.lanes.total ≤ f.roused + f.owed.count .one

namespace Attended

theorem start (registry : Registry) (expire : Duration) : Attended (start registry expire) where
  distinct := .nil
  numbered := by simp [Floor.start, Scheduler.create]
  unborn := by simp [Floor.start, Scheduler.create]
  awake := by simp [Floor.start]
  covered := by simp [Floor.start, Scheduler.create]

-----------------------------------------------------------------------------------------
-- Workers come and are started
-----------------------------------------------------------------------------------------

/-- A worker that is not started sleeps as little as one that was woken. -/
theorem attach (attended : Attended f) : Attended { f with scheduler := f.scheduler.attach } := by
  have known {w : Worker} (member : w ∈ f.scheduler.attach.workers)
      : w ∈ f.scheduler.workers ∨ w = .attached f.scheduler.nextWorker := by
    simpa [Scheduler.attach] using member
  refine {
    distinct := ?_
    numbered := ?_
    unborn := ?_
    awake := ?_
    covered := ?_
  }
  · simp only [Scheduler.attach, List.map_append, List.map_singleton]
    refine List.nodup_append.mpr ⟨attended.distinct, by simp, ?_⟩
    intro id member other new same
    obtain ⟨w, known, rfl⟩ := List.mem_map.mp member
    have lower := attended.numbered w known
    simp only [List.mem_singleton, Worker.attached] at new
    omega
  · intro w member
    rcases known member with before | rfl
    · exact Nat.lt_succ_of_lt (attended.numbered w before)
    · exact Nat.lt_succ_self _
  · intro w member
    rcases known member with before | rfl
    · exact attended.unborn w before
    · exact fun _ => rfl
  · intro id woken
    obtain ⟨w, before, same, awake⟩ := attended.awake id woken
    exact ⟨w, List.mem_append_left _ before, same, awake⟩
  · intro unowed w member asleep
    rcases known member with before | rfl
    · have covered := attended.covered unowed w before asleep
      simpa [roused, Scheduler.attach, Worker.isRoused, Worker.attached] using covered
    · cases asleep

/-- Workers that are started sleep as little as before, and were not woken before. -/
theorem launch (attended : Attended f) (starts : Worker → Bool)
    (idle : ∀ w ∈ f.scheduler.workers, starts w = true → w.state = .idle)
    : Attended
        { f with
          scheduler :=
            { f.scheduler with
              workers := f.scheduler.workers.map fun w => if starts w then w.launch else w } } := by
  have unwoken : ∀ w ∈ f.scheduler.workers, starts w = true → w.id ∉ f.woken := by
    intro w member chosen woken
    have unborn := attended.unborn w member (idle w member chosen)
    rw [attended.activity_of_mem_woken member woken] at unborn
    cases unborn
  refine { toTidy := attended.mapWorkers rfl rfl ?_ ?_ ?_, covered := ?_ }
  · intro w
    split <;> rfl
  · intro w member
    split
    · exact fun idle => nomatch idle
    · exact attended.unborn w member
  · intro id woken
    obtain ⟨w, member, rfl, awake⟩ := attended.awake id woken
    refine ⟨w, member, rfl, ?_⟩
    split
    · rfl
    · exact awake
  · intro unowed v member asleep
    have same : roused { f with
          scheduler :=
            { f.scheduler with
              workers := f.scheduler.workers.map fun w => if starts w then w.launch else w } }
        = f.roused := by
      simp only [roused, List.countP_map]
      refine List.countP_congr fun w member => ?_
      cases chosen : starts w with
      | true => simp [Worker.isRoused, Worker.launch, chosen, unwoken w member chosen]
      | false => simp [chosen]
    obtain ⟨w, known, rfl⟩ := List.mem_map.mp member
    split at asleep
    · cases asleep
    · next kept =>
        rw [same, if_neg kept]
        exact attended.covered unowed w known asleep

-----------------------------------------------------------------------------------------
-- The first parts of calls
-----------------------------------------------------------------------------------------

/-- A ticket is queued and its notification is owed. -/
theorem push (attended : Attended f) {task : Task} {pushed : Scheduler}
    (accepted : f.scheduler.push? task = some pushed)
    : Attended { f with scheduler := pushed, owed := .one :: f.owed } := by
  obtain ⟨lanes, queued, rfl⟩ := Option.map_eq_some_iff.mp accepted
  have longer := (Lanes.push?_eq_some queued).2.2.length_eq
  refine { attended.toTidy with covered := ?_ }
  intro unowed w member asleep
  obtain ⟨running, covered⟩ :=
    attended.covered (fun owed => unowed (List.mem_cons_of_mem _ owed)) w member asleep
  refine ⟨running, ?_⟩
  simp only [List.length_cons] at longer
  simp only [Lanes.total, roused, List.count_cons_self] at covered ⊢
  omega

/-- A worker is told to quit, which may sleep until the broadcast that is owed. -/
theorem raise (attended : Attended f) (id : Nat)
    : Attended
        { f with
          scheduler := f.scheduler.changeWorker id Worker.quit
          owed := .all :: f.owed } := by
  refine { toTidy := attended.mapWorkers rfl rfl ?_ ?_ ?_, covered := ?_ }
  · intro w
    split <;> rfl
  · intro w member
    split
    · exact fun idle => nomatch idle
    · exact attended.unborn w member
  · intro id woken
    obtain ⟨w, member, rfl, awake⟩ := attended.awake id woken
    refine ⟨w, member, rfl, ?_⟩
    split <;> exact awake
  · exact fun unowed => absurd List.mem_cons_self unowed

theorem shut (attended : Attended f)
    : Attended { f with scheduler := f.scheduler.shut, owed := .all :: f.owed } :=
  { attended.toTidy with covered := fun unowed => absurd List.mem_cons_self unowed }

-----------------------------------------------------------------------------------------
-- Sleepers wake up
-----------------------------------------------------------------------------------------

theorem unborn_wake (tidy : Tidy f) (member : w ∈ f.scheduler.workers)
    (idle : w.wake.state = .idle)
    : w.wake.activity = .unborn := by
  have unborn := tidy.unborn w member (w.state_wake.symm.trans idle)
  simp [Worker.wake, unborn]

theorem tidy_rouse (tidy : Tidy f) (member : w ∈ f.scheduler.workers)
    (asleep : w.activity = .asleep)
    : Tidy (f.rouse w.id) := by
  refine tidy.mapWorkers rfl rfl ?_ ?_ ?_
  · intro v
    split <;> simp
  · intro v known
    split
    · exact unborn_wake tidy known
    · exact tidy.unborn v known
  · intro id woken
    rcases List.mem_cons.mp woken with rfl | before
    · exact ⟨w, member, rfl, by simp [Worker.wake, asleep]⟩
    · obtain ⟨v, known, rfl, awake⟩ := tidy.awake id before
      refine ⟨v, known, rfl, ?_⟩
      split
      · simp [Worker.wake, awake]
      · exact awake

/-- A sleeper that runs is one more worker that was woken. -/
theorem roused_rouse (tidy : Tidy f) (member : w ∈ f.scheduler.workers)
    (asleep : w.activity = .asleep) (running : w.state = .running)
    : (f.rouse w.id).roused = f.roused + 1 := by
  have unwoken : w.id ∉ f.woken := fun woken => by
    have awake := tidy.activity_of_mem_woken member woken
    rw [asleep] at awake
    cases awake
  have count := Scheduler.countP_changeWorker tidy.distinct member Worker.wake
    (Worker.isRoused f.woken) (Worker.isRoused (w.id :: f.woken)) ?_
  · simpa [roused, rouse, Scheduler.wake, Worker.isRoused, running, unwoken] using count
  · intro v _ different
    simp [Worker.isRoused, different]

/-- When a sleeper is woken, there is one worker more than needed for what was queued. -/
theorem covered_rouse (attended : Attended f) (unowed : .all ∉ f.owed)
    (member : w ∈ f.scheduler.workers) (asleep : w.activity = .asleep) {v : Worker}
    (known : v ∈ (f.rouse w.id).scheduler.workers) (sleeps : v.activity = .asleep)
    : v.state = .running
      ∧ f.scheduler.lanes.total + 1 ≤ (f.rouse w.id).roused + f.owed.count .one := by
  obtain ⟨running, enough⟩ := attended.covered unowed w member asleep
  have more := roused_rouse attended.toTidy member asleep running
  rcases (Scheduler.mem_changeWorker attended.distinct member Worker.wake v).mp known with
    rfl | ⟨before, _⟩
  · exact absurd sleeps w.activity_wake_ne_asleep
  · exact ⟨(attended.covered unowed v before sleeps).1, by omega⟩

theorem stir (attended : Attended f) {id : Nat} (sleeps : id ∈ f.sleepers)
    : Attended (f.rouse id) := by
  obtain ⟨w, member, rfl, asleep⟩ := mem_sleepers.mp sleeps
  refine { toTidy := tidy_rouse attended.toTidy member asleep, covered := ?_ }
  intro unowed v known sleeps
  obtain ⟨running, enough⟩ := attended.covered_rouse unowed member asleep known sleeps
  exact ⟨running, Nat.le_of_succ_le enough⟩

/-- The worker that is woken takes the place of the notification that was owed. If it was told to
quit, a broadcast is owed still.
-/
theorem notifyOne (attended : Attended f) {id : Nat} (sleeps : id ∈ f.sleepers)
    (due : .one ∈ f.owed)
    : Attended { f.rouse id with owed := f.owed.erase .one } := by
  obtain ⟨w, member, rfl, asleep⟩ := mem_sleepers.mp sleeps
  refine { tidy_rouse attended.toTidy member asleep with covered := ?_ }
  intro unowed v known sleeps
  have unowed : .all ∉ f.owed := fun owed =>
    unowed ((List.mem_erase_of_ne (by simp)).mpr owed)
  obtain ⟨running, enough⟩ := attended.covered_rouse unowed member asleep known sleeps
  have paid : (f.owed.erase .one).count .one = f.owed.count .one - 1 := List.count_erase_self
  have positive := List.count_pos_iff.mpr due
  have still
      : f.scheduler.lanes.total ≤ (f.rouse w.id).roused + (f.owed.erase .one).count .one := by
    omega
  exact ⟨running, still⟩

/-- A notification that finds nobody asleep is lost, and nobody needs it. -/
theorem notifyNobody (attended : Attended f) (nobody : f.sleepers = [])
    : Attended { f with owed := f.owed.erase .one } := by
  refine { attended.toTidy with covered := ?_ }
  intro _ w member asleep
  have sleeps : w.id ∈ f.sleepers := mem_sleepers.mpr ⟨w, member, rfl, asleep⟩
  simp [nobody] at sleeps

theorem notifyAll (attended : Attended f)
    : Attended ⟨f.scheduler.wakeAll, f.owed.erase .all, f.sleepers ++ f.woken⟩ := by
  refine { toTidy := attended.mapWorkers rfl rfl Worker.id_wake ?_ ?_, covered := ?_ }
  · exact fun w member => unborn_wake attended.toTidy member
  · intro id woken
    rcases List.mem_append.mp woken with sleeps | before
    · obtain ⟨w, member, rfl, asleep⟩ := mem_sleepers.mp sleeps
      exact ⟨w, member, rfl, by simp [Worker.wake, asleep]⟩
    · obtain ⟨w, member, rfl, awake⟩ := attended.awake id before
      exact ⟨w, member, rfl, by simp [Worker.wake, awake]⟩
  · intro _ v member asleep
    obtain ⟨w, _, rfl⟩ := List.mem_map.mp member
    exact absurd asleep w.activity_wake_ne_asleep

-----------------------------------------------------------------------------------------
-- Workers take their steps
-----------------------------------------------------------------------------------------

/-- A worker that turns to something else is no longer counted. It may go if it was not counted, if
it takes a ticket along, or if no ticket is queued, and may sleep only if none is.
-/
theorem turnTo (attended : Attended f) (member : w ∈ f.scheduler.workers) {s : Scheduler}
    (activity : Activity)
    (workers
      : s.workers = (f.scheduler.changeWorker w.id fun w => { w with activity }).workers)
    (numbers : s.nextWorker = f.scheduler.nextWorker) (born : w.activity ≠ .unborn)
    (sleeps : activity = .asleep → w.state = .running ∧ s.lanes.total = 0)
    (leaves
      : s.lanes.total = 0
        ∨ s.lanes.total + (w.isRoused f.woken).toNat ≤ f.scheduler.lanes.total)
    : Attended { f with scheduler := s, woken := f.woken.filter (· != w.id) } := by
  refine { toTidy := attended.mapWorkers workers numbers ?_ ?_ ?_, covered := ?_ }
  · intro v
    split <;> rfl
  · intro v known
    split
    · next same =>
        rw [Scheduler.eq_of_id_eq attended.distinct known member (by simpa using same)]
        exact fun idle => absurd (attended.unborn w member idle) born
    · exact attended.unborn v known
  · intro id listed
    obtain ⟨before, different⟩ := List.mem_filter.mp listed
    obtain ⟨v, known, rfl, awake⟩ := attended.awake id before
    refine ⟨v, known, rfl, ?_⟩
    rw [if_neg (by simpa using different)]
    exact awake
  · intro unowed v known asleep
    have counts
        : roused { f with scheduler := s, woken := f.woken.filter (· != w.id) }
            + (w.isRoused f.woken).toNat
          = f.roused := by
      have count := Scheduler.countP_changeWorker attended.distinct member
        (fun w => { w with activity }) (Worker.isRoused f.woken)
        (Worker.isRoused (f.woken.filter (· != w.id))) ?_
      · simpa [roused, workers, Worker.isRoused] using count
      · intro v _ different
        simp [Worker.isRoused, different]
    rw [workers] at known
    rcases (Scheduler.mem_changeWorker attended.distinct member _ v).mp known with
      rfl | ⟨before, _⟩
    · obtain ⟨running, nothing⟩ := sleeps asleep
      exact ⟨running, by simp only [nothing]; exact Nat.zero_le _⟩
    · obtain ⟨running, enough⟩ := attended.covered unowed v before asleep
      exact ⟨running, by simp only; omega⟩

/-- A step keeps the sleepers attended, by cases on the step: a worker that sleeps or leaves found
no ticket or was told to quit, and one that finishes was not woken.
-/
theorem step (attended : Attended f) (member : w ∈ f.scheduler.workers) {s : Scheduler}
    (turn : Scheduler.Turn f.scheduler w s)
    : Attended { f with scheduler := s, woken := f.woken.filter (· != w.id) } := by
  have unwoken (different : w.activity ≠ .awake) : w.id ∉ f.woken := fun woken =>
    different (attended.activity_of_mem_woken member woken)
  have empty_of_pop (nothing : f.scheduler.lanes.pop? = none) : f.scheduler.lanes.total = 0 :=
    List.length_eq_zero_iff.mpr (Lanes.pop?_eq_none_iff.mp nothing)
  cases turn with
  | leave awake sent =>
      refine attended.turnTo member .exited rfl rfl (by simp [awake]) (by simp) ?_
      rcases sent with stopped | ⟨_, nothing⟩
      · have uncounted : w.isRoused f.woken = false := by
          rw [Worker.isRoused, stopped]
          rfl
        exact .inr (by simp [uncounted, Scheduler.changeWorker])
      · exact .inl (empty_of_pop nothing)
  | sleep awake active nothing =>
      have running : w.state = .running := by
        cases state : w.state with
        | idle =>
            have unborn := attended.unborn w member state
            simp [awake] at unborn
        | running => rfl
        | stopped => exact absurd state active
      have empty := empty_of_pop nothing
      exact attended.turnTo member .asleep rfl rfl (by simp [awake]) (fun _ => ⟨running, empty⟩)
        (.inl empty)
  | @take ticket lanes log gate awake active popped gated =>
      have shorter := (Lanes.pop?_eq_some popped).2.length_eq
      refine attended.turnTo member _ rfl rfl (by simp [awake]) (by simp) (.inr ?_)
      have most := Bool.toNat_le (w.isRoused f.woken)
      simp only [List.length_cons] at shorter
      simp only [Lanes.total, Scheduler.changeWorker]
      omega
  | finish busy =>
      refine attended.turnTo member .awake rfl rfl (by simp [busy]) (by simp) (.inr ?_)
      simp [Worker.isRoused, unwoken (by simp [busy]), Scheduler.changeWorker,
        Scheduler.changeFuture]
  | rest idle resting =>
      have same : f.woken.filter (· != w.id) = f.woken := by
        refine List.filter_eq_self.mpr fun id woken => ?_
        have different : id ≠ w.id := fun same => unwoken resting (same ▸ woken)
        simpa using different
      rw [same]
      exact attended

/-- Every move keeps the sleepers attended, by cases on the move. -/
theorem perform (attended : Attended f) (move : Move) : Attended (f.perform move) := by
  cases move with
  | attach => exact attended.attach
  | launch id =>
      simp only [Floor.perform]
      split
      · next launched =>
          rcases Scheduler.launch_eq_ok launched with rfl | ⟨w, member, rfl, idle, rfl⟩
          · exact attended
          · refine attended.launch (·.id == w.id) fun v known same => ?_
            rwa [Scheduler.eq_of_id_eq attended.distinct known member (by simpa using same)]
      · exact attended
  | launchAll => exact attended.launch (·.state == .idle) fun w _ idle => by simpa using idle
  | push task =>
      simp only [Floor.perform]
      split
      · next accepted => exact attended.push accepted
      · exact attended
  | raise id =>
      simp only [Floor.perform]
      split
      · split
        · exact attended.raise id
        · exact attended
      · exact attended
  | shut => exact attended.shut
  | notifyOne id =>
      simp only [Floor.perform]
      split
      · next due =>
          split
          · next sleeps => exact attended.notifyOne sleeps due
          · split
            · next nobody => exact attended.notifyNobody nobody
            · exact attended
      · exact attended
  | notifyAll =>
      simp only [Floor.perform]
      split
      · exact attended.notifyAll
      · exact attended
  | stir id =>
      simp only [Floor.perform]
      split
      · next sleeps => exact attended.stir sleeps
      · exact attended
  | step id =>
      simp only [Floor.perform]
      split
      · next w found =>
          obtain ⟨member, rfl⟩ := Scheduler.worker?_eq_some found
          exact attended.step member (Scheduler.turn_step _ w)
      · exact attended
  | elsewhere other => exact { attended with }

theorem performAll (attended : Attended f) (moves : List Move)
    : Attended (f.performAll moves) := by
  induction moves generalizing f with
  | nil => exact attended
  | cons move rest ih => exact ih (attended.perform move)

end Attended

-----------------------------------------------------------------------------------------
-- Calls as moves
-----------------------------------------------------------------------------------------

/-- A call makes the moves of its parts one right after the other, and owes nothing at its end. -/
theorem exists_moves_change {s next : Scheduler} (sound : s.Sound)
    (change : Scheduler.Change s next) (woken : List Nat)
    : ∃ moves after, performAll ⟨s, [], woken⟩ moves = ⟨next, [], after⟩ := by
  cases change with
  | attach => exact ⟨[.attach], woken, rfl⟩
  | @launch id _ launched =>
      exact ⟨[.launch id], woken, by simp [performAll, perform, launched]⟩
  | launchAll => exact ⟨[.launchAll], woken, rfl⟩
  | @quit id _ told =>
      unfold Scheduler.quit at told
      split at told
      · next w found =>
          split at told
          · next alive =>
              simp only [Except.ok.injEq] at told
              refine ⟨[.raise id, .notifyAll],
                sleepers ⟨s.changeWorker id Worker.quit, [.all], woken⟩ ++ woken, ?_⟩
              simp only [performAll, perform, List.foldl_cons, List.foldl_nil, found, alive,
                if_true, List.mem_cons_self, told, List.erase_cons_head]
          · cases told
      · cases told
  | @enqueue task id _ accepted =>
      unfold Scheduler.enqueueOne at accepted
      split at accepted
      · next pushed queued =>
          simp only [Except.ok.injEq, Prod.mk.injEq] at accepted
          obtain ⟨_, rfl⟩ := accepted
          unfold Scheduler.wakeOne
          split
          · next w found =>
              have sleeps : w.id ∈ sleepers ⟨pushed, [.one], woken⟩ :=
                List.mem_map_of_mem (List.mem_filter.mpr
                  ⟨List.mem_of_find?_eq_some found, List.find?_some found⟩)
              refine ⟨[.push task, .notifyOne w.id], w.id :: woken, ?_⟩
              simp only [performAll, perform, List.foldl_cons, List.foldl_nil, queued, sleeps,
                if_true, List.mem_cons_self, List.erase_cons_head, rouse]
          · next missing =>
              have nobody : sleepers ⟨pushed, [.one], woken⟩ = [] := by
                simpa [sleepers] using missing
              refine ⟨[.push task, .notifyOne 0], woken, ?_⟩
              simp only [performAll, perform, List.foldl_cons, List.foldl_nil, queued, nobody,
                if_true, List.mem_cons_self, List.erase_cons_head, List.not_mem_nil, if_false]
      · cases accepted
  | @step w member =>
      refine ⟨[.step w.id], woken.filter (· != w.id), ?_⟩
      simp only [performAll, perform, List.foldl_cons, List.foldl_nil, sound.worker?_eq member]
  | close => exact ⟨[.shut, .notifyAll], _, rfl⟩
  | wait id => exact ⟨[.elsewhere (s.wait id).2], woken, rfl⟩
  | expire id => exact ⟨[.elsewhere (s.changeFuture id Future.expire)], woken, rfl⟩
  | release id => exact ⟨[.elsewhere (s.closeFuture id)], woken, rfl⟩
  | @pass now _ => exact ⟨[.elsewhere { s with clock := now }], woken, rfl⟩

/-- Every state that calls lead a scheduler to is one of its floor in which nothing is owed. -/
theorem exists_moves {registry : Registry} {expire : Duration} {s : Scheduler}
    (changes : Scheduler.Changes (.create registry expire) s)
    : ∃ moves woken, (start registry expire).performAll moves = ⟨s, [], woken⟩ := by
  induction changes with
  | refl => exact ⟨[], [], rfl⟩
  | tail before change ih =>
      obtain ⟨moves, woken, reached⟩ := ih
      have sound := (Scheduler.sound_create registry expire).changes before
      obtain ⟨more, after, further⟩ := exists_moves_change sound change woken
      refine ⟨moves ++ more, after, ?_⟩
      rw [performAll, List.foldl_append]
      exact (congrArg (performAll · more) reached).trans further

-----------------------------------------------------------------------------------------
-- No lost wake-up
-----------------------------------------------------------------------------------------

/-- When no call owes a notification, every ticket behind which a worker that runs sleeps has a
worker of its own that runs, was woken, and has not looked at the lanes since. So no ticket is
queued when all workers that run sleep.
-/
theorem total_le_roused (registry : Registry) (expire : Duration) (moves : List Move)
    (unowed : ((start registry expire).performAll moves).owed = [])
    : let f := (start registry expire).performAll moves
      (∀ w ∈ f.scheduler.workers,
          w.state = .running → w.activity = .asleep → f.scheduler.lanes.total ≤ f.roused)
      ∧ ((∃ w ∈ f.scheduler.workers, w.state = .running)
          → (∀ w ∈ f.scheduler.workers, w.state = .running → w.activity = .asleep)
          → f.scheduler.lanes.total = 0) := by
  intro f
  have attended : Attended f := (Attended.start registry expire).performAll moves
  have enough
      : ∀ w ∈ f.scheduler.workers, w.activity = .asleep → f.scheduler.lanes.total ≤ f.roused := by
    intro w member asleep
    have covered := (attended.covered (by simp [f, unowed]) w member asleep).2
    simpa [f, unowed] using covered
  refine ⟨fun w member _ => enough w member, ?_⟩
  rintro ⟨w, member, running⟩ allAsleep
  have nobody : f.roused = 0 := by
    refine List.countP_eq_zero.mpr fun v known roused => ?_
    simp only [Worker.isRoused, Bool.and_eq_true, beq_iff_eq, List.contains_iff_mem] at roused
    have awake := attended.activity_of_mem_woken known roused.2
    rw [allAsleep v known roused.1] at awake
    cases awake
  have most := enough w member (allAsleep w member running)
  omega

/-- Four workers sleep, and the first is told to quit before a ticket comes. The notification of the
ticket reaches that worker, the broadcast of the quit the others; the second takes the ticket, the
next two sleep again, and the third is woken for another ticket.
-/
def misdirected : List Move :=
  [.attach, .attach, .attach, .attach, .launchAll, .step 1, .step 2, .step 3, .step 4, .raise 1,
    .push .empty, .notifyOne 1, .notifyAll, .step 1, .step 2, .step 3, .step 4, .push .empty,
    .notifyOne 3]

theorem total_le_roused_misdirected
    : let f := (start .empty Scheduler.defaultExpire).performAll misdirected
      f.owed = []
      ∧ f.sleepers = [4]
      ∧ (f.scheduler.worker? 4).map Worker.state = some .running
      ∧ f.scheduler.lanes.total = 1
      ∧ f.scheduler.lanes.total ≤ f.roused := by
  intro f
  have asleep : (⟨4, .running, .asleep⟩ : Worker) ∈ f.scheduler.workers := by
    have workers
        : f.scheduler.workers
          = [⟨1, .stopped, .exited⟩, ⟨2, .running, .busy ⟨0, .empty⟩ none⟩,
            ⟨3, .running, .awake⟩, ⟨4, .running, .asleep⟩] :=
      rfl
    simp [workers]
  have enough := (total_le_roused .empty Scheduler.defaultExpire misdirected rfl).1
  exact ⟨rfl, rfl, rfl, rfl, enough _ asleep rfl rfl⟩

end Floor

end TaskFabric
