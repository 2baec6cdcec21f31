import TaskFabric.Proofs.Scheduler.Watching

/-! The order in which tickets are served. The lanes of a scheduler are one line, from which a
worker takes the earliest ticket of the most urgent priority, so a batch that was queued is taken in
the order of its priorities and, within each, of its indices, whatever else happens. A worker that
is alone finishes one ticket before it takes the next.
-/

namespace TaskFabric

-----------------------------------------------------------------------------------------
-- The lanes of a scheduler
-----------------------------------------------------------------------------------------

theorem Lanes.performAll_append (l : Lanes) (first second : List Op)
    : (l.performAll (first ++ second)).2 = ((l.performAll first).2.performAll second).2 := by
  induction first generalizing l with
  | nil => rfl
  | cons op rest ih => exact ih (l.perform op).2

namespace Scheduler

variable {s next queued : Scheduler}

/-- A worker that is awake pops with its quit flag, and what is answered decides what it does. -/
theorem look_eq (s : Scheduler) (w : Worker)
    : s.look w
      = match s.lanes.perform (.pop (w.state == .stopped)) with
        | (.popped ticket, lanes) =>
            let handler := s.registry.get? ticket.task.consumable
            { s with
              lanes
              log := s.log ++ s.registry.notes ticket
              gate := if handler.any Handler.gated then s.gate ++ [w.id] else s.gate }.changeWorker
                w.id fun w => { w with activity := .busy ticket handler }
        | (.nothing, _) => s.changeWorker w.id fun w => { w with activity := .exited }
        | _ => s.changeWorker w.id fun w => { w with activity := .asleep } := by
  unfold look Lanes.perform
  cases quit : w.state == .stopped with
  | true => rfl
  | false =>
      cases popped : s.lanes.pop? with
      | some _ => rfl
      | none => cases shut : s.lanes.closed <;> rfl

theorem lanes_step (s : Scheduler) (w : Worker)
    : (s.step w).lanes
      = (s.lanes.performAll (if w.isAwake then [.pop (w.state == .stopped)] else [])).2 := by
  cases doing : w.activity with
  | awake =>
      simp only [step, doing, look_eq, Worker.isAwake, if_true, Lanes.performAll, Lanes.perform]
      cases w.state == .stopped with
      | true => rfl
      | false =>
          cases s.lanes.pop? with
          | some _ => rfl
          | none => cases s.lanes.closed <;> rfl
  | busy _ _ => simp only [step, doing, finish, Worker.isAwake]; rfl
  | unborn | asleep | exited => simp only [step, doing, Worker.isAwake]; rfl

/-- The lanes of a scheduler change only by operations on lanes, by cases on what comes of the
action.
-/
theorem exists_ops_perform (s : Scheduler) (a : Action)
    : ∃ ops, (s.perform a).lanes = (s.lanes.performAll ops).2 := by
  have performed := performed_perform s a
  generalize s.perform a = next at performed
  cases performed with
  | launch launched =>
      refine ⟨[], ?_⟩
      rcases launch_eq_ok launched with rfl | ⟨_, _, _, _, rfl⟩ <;> rfl
  | quit told => exact ⟨[], by rw [quit_eq_ok told]; rfl⟩
  | @submit task _ pushed =>
      exact ⟨[.push ⟨s.nextTicket, task⟩], by simp only [Lanes.performAll, Lanes.perform, pushed]⟩
  | step _ => exact ⟨_, lanes_step s _⟩
  | close => exact ⟨[.close], rfl⟩
  | refused | attach | launchAll | wake _ | changeFuture _ _ | pass _ => exact ⟨[], rfl⟩

/-- So the lanes of a scheduler are always what a sequence of operations makes of them. -/
theorem exists_ops_performAll (s : Scheduler) (actions : List Action)
    : ∃ ops, (s.performAll actions).lanes = (s.lanes.performAll ops).2 := by
  induction actions generalizing s with
  | nil => exact ⟨[], rfl⟩
  | cons a rest ih =>
      obtain ⟨later, reached⟩ := ih (s.perform a)
      obtain ⟨first, performed⟩ := s.exists_ops_perform a
      refine ⟨first ++ later, ?_⟩
      rw [Lanes.performAll_append, ← performed]
      exact reached

-----------------------------------------------------------------------------------------
-- Batches in the lanes
-----------------------------------------------------------------------------------------

/-- The tickets that were answered for a batch, in the order of its indices. -/
def ticketsFor (ids : List (UInt64 × Nat)) (tasks : List (UInt64 × Task)) : List Ticket :=
  List.zipWith (fun entry task => ⟨entry.2, task.2⟩) ids tasks

/-- Tickets in the order of their priorities, and those of one priority as they stood. -/
def byUrgency (tickets : List Ticket) : List Ticket :=
  Priority.descending.flatMap fun p => tickets.filter (·.task.priority = p)

/-- A ticket is one of those that were answered for a batch. -/
def isAmong (ids : List (UInt64 × Nat)) (ticket : Ticket) : Bool :=
  (ids.map Prod.snd).contains ticket.id

theorem isAmong_of_mem_ticketsFor {ids : List (UInt64 × Nat)} {tasks : List (UInt64 × Task)}
    {ticket : Ticket} (member : ticket ∈ ticketsFor ids tasks)
    : isAmong ids ticket = true := by
  rw [ticketsFor, ← List.map_uncurry_zip_eq_zipWith] at member
  obtain ⟨⟨entry, task⟩, paired, rfl⟩ := List.mem_map.mp member
  simpa [isAmong] using ⟨entry.1, (List.of_mem_zip paired).1⟩

/-- What queueing tasks leaves: a number for each of them in turn, and their tickets behind the
others in the lanes.
-/
structure Entered (s : Scheduler) (tasks : List (UInt64 × Task)) (ids : List (UInt64 × Nat))
    (queued : Scheduler) : Prop where
  indices : ids.map Prod.fst = tasks.map Prod.fst
  numbers : ids.map Prod.snd = List.range' s.nextTicket tasks.length
  nextTicket : queued.nextTicket = s.nextTicket + tasks.length
  log : queued.log = s.log
  workers : queued.workers.length = s.workers.length
  lanes
    : ∀ p,
        queued.lanes.queue p
        = s.lanes.queue p ++ (ticketsFor ids tasks).filter (·.task.priority = p)

theorem entered_enqueueOne {index : UInt64} {task : Task} {id : Nat}
    (accepted : s.enqueueOne task = .ok (id, queued))
    : Entered s [(index, task)] [(index, id)] queued := by
  obtain ⟨rfl, lanes, pushed, rfl⟩ := enqueueOne_eq_ok accepted
  have queue := Lanes.queue_of_push? pushed
  unfold wakeOne
  split <;> refine ⟨rfl, rfl, rfl, rfl, by simp [wake, changeWorker], fun p => ?_⟩
  all_goals
    refine (queue p).trans ?_
    split
    · next same => simp [ticketsFor, same]
    · next other => simp [ticketsFor, Ne.symm other]

theorem Entered.cons {index : UInt64} {task : Task} {id : Nat} {tasks : List (UInt64 × Task)}
    {ids : List (UInt64 × Nat)} (first : Entered s [(index, task)] [(index, id)] next)
    (rest : Entered next tasks ids queued)
    : Entered s ((index, task) :: tasks) ((index, id) :: ids) queued where
  indices := by simp [rest.indices]
  numbers := by
    have number : id = s.nextTicket := by simpa using first.numbers
    rw [List.map_cons, rest.numbers, first.nextTicket, number]
    rfl
  nextTicket := by
    rw [rest.nextTicket, first.nextTicket]
    simp only [List.length_cons, List.length_nil]
    omega
  log := rest.log.trans first.log
  workers := rest.workers.trans first.workers
  lanes p := by
    rw [rest.lanes, first.lanes, List.append_assoc, ← List.filter_append]
    rfl

theorem entered_enqueueEach {tasks : List (UInt64 × Task)} {ids : List (UInt64 × Nat)}
    (accepted : s.enqueueEach tasks = .ok (ids, queued))
    : Entered s tasks ids queued := by
  induction tasks generalizing s ids with
  | nil =>
      simp only [enqueueEach, Except.ok.injEq, Prod.mk.injEq] at accepted
      obtain ⟨rfl, rfl⟩ := accepted
      exact ⟨rfl, rfl, rfl, rfl, rfl, fun p => (List.append_nil _).symm⟩
  | cons entry rest ih =>
      obtain ⟨index, task⟩ := entry
      obtain ⟨id, next, others, first, later, rfl⟩ := enqueueEach_cons_eq_ok accepted
      exact (entered_enqueueOne first).cons (ih later)

theorem Entered.isAmong_iff {tasks : List (UInt64 × Task)} {ids : List (UInt64 × Nat)}
    (entered : Entered s tasks ids queued) {ticket : Ticket}
    : isAmong ids ticket = true ↔ s.nextTicket ≤ ticket.id ∧ ticket.id < queued.nextTicket := by
  simp [isAmong, entered.numbers, entered.nextTicket, -List.contains_map]

/-- The batch stands in the lanes in the order of its priorities, and in each lane in that of its
indices.
-/
theorem Entered.filter_tickets {tasks : List (UInt64 × Task)} {ids : List (UInt64 × Nat)}
    (entered : Entered s tasks ids queued) (sound : Sound s)
    : queued.lanes.tickets.filter (isAmong ids) = byUrgency (ticketsFor ids tasks) := by
  have older {p : Priority} : (s.lanes.queue p).filter (isAmong ids) = [] := by
    refine List.filter_eq_nil_iff.mpr fun ticket waiting among => ?_
    have out : ticket ∈ s.lanes.tickets :=
      List.mem_flatMap.mpr ⟨p, Priority.mem_descending p, waiting⟩
    have lower := sound.issued ticket (.inl out)
    have higher := (entered.isAmong_iff.mp among).1
    omega
  have mine {p : Priority}
      : ((ticketsFor ids tasks).filter (·.task.priority = p)).filter (isAmong ids)
        = (ticketsFor ids tasks).filter (·.task.priority = p) :=
    List.filter_eq_self.mpr fun ticket member =>
      isAmong_of_mem_ticketsFor (List.mem_filter.mp member).1
  simp only [Lanes.tickets, List.filter_flatMap, entered.lanes, List.filter_append, older, mine,
    List.nil_append, byUrgency]

namespace Watch

-----------------------------------------------------------------------------------------
-- Tickets in their order
-----------------------------------------------------------------------------------------

/-- Some tickets are served in an order: first come those that were taken, then those that are
queued, and then those that were dropped, which are none as long as the lanes are open.
-/
structure Serves (mine : Ticket → Bool) (order : List Ticket) (w : Watch) : Prop where
  sound : Sound w.scheduler
  issued : ∀ ticket, mine ticket = true → ticket.id < w.scheduler.nextTicket
  order : (w.taken ++ w.scheduler.lanes.tickets ++ w.dropped).filter mine = order
  shut : w.scheduler.lanes.closed = true → w.scheduler.lanes.tickets = []
  kept : w.scheduler.lanes.closed = false → w.dropped = []

variable {w : Watch} {mine : Ticket → Bool} {order : List Ticket}

/-- A ticket that is queued later stands among others, but it leaves them in their order. -/
theorem filter_tickets_of_push? {l lanes : Lanes} {ticket : Ticket}
    (pushed : l.push? ticket = some lanes) (other : mine ticket = false)
    : lanes.tickets.filter mine = l.tickets.filter mine := by
  simp only [Lanes.tickets, List.filter_flatMap]
  refine List.flatMap_congr fun p _ => ?_
  rw [Lanes.queue_of_push? pushed]
  split
  · simp [other]
  · rfl

/-- No action changes the order, by cases on what it comes to. -/
theorem Serves.perform (serves : w.Serves mine order) (a : Action)
    : (w.perform a).Serves mine order := by
  have sound : Sound (w.perform a).scheduler := w.scheduler_perform a ▸ serves.sound.perform a
  have effect := effect_perform serves.sound a
  generalize w.perform a = next at effect sound
  cases effect with
  | calm lanes _ _ nextTicket _ | finishes lanes _ _ nextTicket _ =>
      refine ⟨sound, fun ticket own => nextTicket ▸ serves.issued ticket own, ?_, ?_, ?_⟩
      all_goals simp only [lanes]
      · exact serves.order
      · exact serves.shut
      · exact serves.kept
  | @accepts task next pushed _ _ nextTicket _ =>
      obtain ⟨wasOpen, isOpen, _⟩ := Lanes.push?_eq_some pushed
      have other : mine ⟨w.scheduler.nextTicket, task⟩ = false := by
        refine Bool.eq_false_iff.mpr fun own => ?_
        exact absurd (serves.issued _ own) (Nat.lt_irrefl _)
      refine ⟨sound, fun ticket own => ?_, ?_, ?_, fun _ => serves.kept wasOpen⟩
      · rw [nextTicket]
        exact Nat.lt_succ_of_lt (serves.issued ticket own)
      · rw [← serves.order]
        simp only [List.filter_append, filter_tickets_of_push? pushed other]
      · intro shut
        rw [isOpen] at shut
        cases shut
  | @takes ticket next popped _ _ nextTicket _ =>
      have closed := (Lanes.pop?_eq_some popped).1
      have first := Lanes.tickets_of_pop? popped
      refine ⟨sound, fun ticket own => nextTicket ▸ serves.issued ticket own, ?_, ?_, ?_⟩
      · rw [← serves.order, first]
        simp only [List.append_assoc, List.cons_append, List.nil_append]
      · intro shut
        have empty := serves.shut (closed.symm.trans shut)
        rw [first] at empty
        cases empty
      · exact fun isOpen => serves.kept (closed.symm.trans isOpen)
  | closes =>
      refine ⟨sound, serves.issued, ?_, fun _ => rfl, nofun⟩
      rw [← serves.order]
      have none : w.scheduler.close.lanes.tickets = [] := rfl
      simp only [none, List.append_nil]
      -- Either nothing is queued, or nothing was dropped before.
      cases shut : w.scheduler.lanes.closed with
      | true => simp only [serves.shut shut, List.append_nil]
      | false => simp only [serves.kept shut, List.nil_append, List.append_nil]

theorem Serves.performAll (serves : w.Serves mine order) (actions : List Action)
    : (w.performAll actions).Serves mine order := by
  induction actions generalizing w with
  | nil => exact serves
  | cons a rest ih => exact ih (serves.perform a)

-----------------------------------------------------------------------------------------
-- The only worker
-----------------------------------------------------------------------------------------

end Watch

/-- Whether an action attaches a worker. -/
def Action.attaches (a : Action) : Bool := a matches .attach

theorem length_workers_perform_le (s : Scheduler) (a : Action)
    : (s.perform a).workers.length ≤ s.workers.length + a.attaches.toNat := by
  have performed := performed_perform s a
  generalize s.perform a = next at performed
  cases performed with
  | attach => simp [attach, Action.attaches]
  | launch launched =>
      rcases launch_eq_ok launched with rfl | ⟨_, _, _, _, rfl⟩ <;> simp [changeWorker]
  | quit told => simp [quit_eq_ok told]
  | @step w _ =>
      have states := congrArg List.length (sameSetting_step s w).states
      simp only [List.length_map] at states
      simp [states]
  | launchAll | wake _ | close => simp [launchAll, wake, changeWorker, close, wakeAll]
  | refused | submit _ | changeFuture _ _ | pass _ => exact Nat.le_add_right _ _

theorem length_held_le (s : Scheduler) : s.held.length ≤ s.workers.length :=
  List.length_filterMap_le _ _

namespace Watch

variable {w : Watch} {mine : Ticket → Bool} {order : List Ticket}

/-- What was taken was finished, but for what is held. -/
def OneByOne (w : Watch) : Prop := w.taken = w.finished ++ w.scheduler.held

/-- A worker that is alone takes a ticket only when it holds none. -/
theorem OneByOne.perform (one : w.OneByOne) (sound : Sound w.scheduler) {a : Action}
    (alone : w.scheduler.workers.length + a.attaches.toNat ≤ 1)
    : (w.perform a).OneByOne := by
  have few : w.scheduler.held.length ≤ 1 :=
    Nat.le_trans w.scheduler.length_held_le (Nat.le_trans (Nat.le_add_right _ _) alone)
  have still : (w.perform a).scheduler.held.length ≤ 1 := by
    refine Nat.le_trans (length_held_le _) ?_
    rw [scheduler_perform]
    exact Nat.le_trans (length_workers_perform_le _ _) alone
  have effect := effect_perform sound a
  unfold OneByOne at one ⊢
  generalize w.perform a = next at effect still
  cases effect with
  | calm _ held _ _ _ | accepts _ held _ _ _ => simp only [held, one]
  | @takes ticket _ _ held _ _ _ =>
      have free : w.scheduler.held = [] := by
        have size := held.length_eq
        simp only [List.length_cons] at size still
        exact List.length_eq_zero_iff.mp (by omega)
      rw [free] at held one
      simp only [List.perm_singleton.mp held, one, List.append_nil]
  | @finishes ticket next _ held _ _ _ =>
      have free : next.held = [] := by
        have size := held.length_eq
        simp only [List.length_cons] at size
        exact List.length_eq_zero_iff.mp (by omega)
      rw [free] at held
      simp only [free, one, List.perm_singleton.mp held, List.append_nil]
  | closes =>
      have held : w.scheduler.close.held = w.scheduler.held :=
        held_map fun v _ => ticket?_wake v
      simp only [held, one]

theorem OneByOne.performAll (one : w.OneByOne) (sound : Sound w.scheduler) {actions : List Action}
    (alone : w.scheduler.workers.length + actions.countP Action.attaches ≤ 1)
    : (w.performAll actions).OneByOne := by
  induction actions generalizing w with
  | nil => exact one
  | cons a rest ih =>
      have own : (if a.attaches = true then 1 else 0) = a.attaches.toNat := by
        cases a.attaches <;> rfl
      rw [List.countP_cons, own] at alone
      have stillSound : Sound (w.perform a).scheduler := w.scheduler_perform a ▸ sound.perform a
      refine ih (one.perform sound (by omega)) stillSound ?_
      have size := length_workers_perform_le w.scheduler a
      rw [scheduler_perform]
      omega

end Watch

/-- Workers that were not started hold nothing. -/
theorem Sound.held_eq_nil (sound : Sound s) (idle : ∀ w ∈ s.workers, w.state = .idle)
    : s.held = [] := by
  refine List.filterMap_eq_nil_iff.mpr fun w member => ?_
  have unborn := (sound.fits w member).unborn (idle w member)
  simp [Worker.ticket?, unborn]

-----------------------------------------------------------------------------------------
-- The whole batch
-----------------------------------------------------------------------------------------

/-- The steps of workers are actions that attach nobody. -/
theorem exists_actions_run (fuel : Nat) (sound : Sound s)
    : ∃ actions, actions.countP Action.attaches = 0 ∧ s.performAll actions = run fuel s := by
  obtain ⟨ids, reached⟩ := exists_steps_run fuel sound
  exact ⟨ids.map .step, by simp [Action.attaches], reached⟩

/-- When the only worker of an open scheduler was started and has come to rest, no ticket is out. -/
theorem Reached.settled_launchAll {registry : Registry} (reached : Reached registry s)
    (prompt : registry.Prompt) (isOpen : s.lanes.closed = false)
    (idle : s.workers.map Worker.state = [.idle])
    : s.launchAll.settle.lanes.closed = false
      ∧ s.launchAll.settle.lanes.tickets = []
      ∧ s.launchAll.settle.held = [] := by
  have changes : Changes s s.launchAll.settle := .head .launchAll (changes_settle _)
  have settled := reached.changes changes
  obtain ⟨sound, vigilant⟩ := settled.sound_and_vigilant
  have same := sameSetting_settle s.launchAll
  have stillOpen : s.launchAll.settle.lanes.closed = false := same.closed.trans isOpen
  have running : s.launchAll.workers.map Worker.state = [.running] := by
    obtain ⟨w, only, state⟩ := List.map_eq_singleton_iff.mp idle
    simp [launchAll, only, state, Worker.launch]
  have quiet := quiet_settle (reached.changes (.single .launchAll)).sound_and_vigilant.1
  have done := quiet.not_outstanding sound vigilant (settled.gate_eq_nil prompt) stillOpen
    (by simp [same.states, running])
  refine ⟨stillOpen, ?_, ?_⟩
  · refine List.eq_nil_iff_forall_not_mem.mpr fun ticket queued => done ticket (.inl queued)
  · refine List.filterMap_eq_nil_iff.mpr fun w member => ?_
    unfold Worker.ticket?
    split
    · next ticket handler busy => exact absurd (.inr ⟨w, member, handler, busy⟩) (done ticket)
    · rfl

/-- When the only worker was started and has come to rest, it has finished in their order all
tickets that are served, by the steps that it took.
-/
theorem Watch.Serves.exists_finished {registry : Registry} {w : Watch} {mine : Ticket → Bool}
    {order : List Ticket} (serves : w.Serves mine order) (one : w.OneByOne)
    (reached : Reached registry w.scheduler) (prompt : registry.Prompt)
    (isOpen : w.scheduler.lanes.closed = false)
    (idle : w.scheduler.workers.map Worker.state = [.idle])
    : ∃ actions,
        let last := w.performAll actions
        last.scheduler = w.scheduler.launchAll.settle
        ∧ last.taken = last.finished
        ∧ last.finished.filter mine = order := by
  obtain ⟨steps, none, settled⟩ := exists_actions_run w.scheduler.launchAll.work
    (serves.sound.change .launchAll)
  obtain ⟨stillOpen, empty, free⟩ := reached.settled_launchAll prompt isOpen idle
  have scheduler : (w.performAll (.launchAll :: steps)).scheduler = w.scheduler.launchAll.settle :=
    (w.scheduler_performAll _).trans settled
  have alone : w.scheduler.workers.length + (Action.launchAll :: steps).countP Action.attaches
      ≤ 1 := by
    have size := congrArg List.length idle
    simp only [List.length_map, List.length_singleton] at size
    simp [none, Action.attaches, size]
  have taken := one.performAll serves.sound alone
  have served := serves.performAll (.launchAll :: steps)
  have order := served.order
  have kept := served.kept (scheduler ▸ stillOpen)
  rw [OneByOne, scheduler, free, List.append_nil] at taken
  rw [scheduler, empty, kept, List.append_nil, List.append_nil, taken] at order
  exact ⟨.launchAll :: steps, scheduler, taken, order⟩

-----------------------------------------------------------------------------------------
-- Batches in order
-----------------------------------------------------------------------------------------

/-- A batch that was queued is served in the order of its priorities and, within each, of its
indices. Whatever happens, its tickets that were taken, then those that are queued and then those
that were dropped stand in this order, and handlers note what they note in the order in which
tickets are taken. A worker that is alone and was started later finishes each ticket that it takes
before the next one, and once it was started and has come to rest, it has finished the batch.
-/
structure InOrder (registry : Registry) (s : Scheduler) (batch : Batch) (ids : List (UInt64 × Nat))
    (queued : Scheduler) : Prop where
  indices : ids.map Prod.fst = batch.keys
  ordered
    : ∀ actions,
        let w := (Watch.start queued).performAll actions
        (w.taken ++ w.scheduler.lanes.tickets ++ w.dropped).filter (isAmong ids)
        = byUrgency (ticketsFor ids batch.toList)
  noted
    : ∀ actions,
        let w := (Watch.start queued).performAll actions
        w.scheduler.log = s.log ++ w.taken.flatMap registry.notes
  oneByOne
    : (∀ v ∈ s.workers, v.state = .idle) →
        ∀ actions,
          s.workers.length + actions.countP Action.attaches ≤ 1 →
            ((Watch.start queued).performAll actions).OneByOne
  completed
    : registry.Prompt →
        ∀ ready,
          ready = queued ∨ ready = queued.attach →
            ready.workers.map Worker.state = [.idle] →
              ∃ actions,
                let w := (Watch.start queued).performAll actions
                w.scheduler = ready.launchAll.settle
                ∧ w.taken = w.finished
                ∧ w.finished.filter (isAmong ids) = byUrgency (ticketsFor ids batch.toList)

variable {registry : Registry} {batch : Batch} {ids : List (UInt64 × Nat)}

theorem Entered.serves (entered : Entered s batch.toList ids queued) (sound : Sound s)
    (stillSound : Sound queued) (isOpen : queued.lanes.closed = false)
    : (Watch.start queued).Serves (isAmong ids) (byUrgency (ticketsFor ids batch.toList)) where
  sound := stillSound
  issued _ among := (entered.isAmong_iff.mp among).2
  order := by
    rw [← entered.filter_tickets sound]
    simp [Watch.start]
  shut shut := by
    rw [Watch.start, isOpen] at shut
    cases shut
  kept _ := rfl

theorem oneByOne_start (sound : Sound s) (idle : ∀ w ∈ s.workers, w.state = .idle)
    : (Watch.start s).OneByOne :=
  (sound.held_eq_nil idle).symm

theorem inOrder_enqueueEach (reached : Reached registry s) (isOpen : s.lanes.closed = false)
    (accepted : s.enqueueEach batch.toList = .ok (ids, queued))
    : InOrder registry s batch ids queued := by
  have entered := entered_enqueueEach accepted
  have same := sameSetting_enqueueEach accepted
  have queuedReached := reached.changes (changes_enqueueEach accepted)
  have sound := reached.sound_and_vigilant.1
  have stillSound := queuedReached.sound_and_vigilant.1
  have stillOpen : queued.lanes.closed = false := same.closed.trans isOpen
  have serves := entered.serves sound stillSound stillOpen
  refine {
    indices := entered.indices
    ordered := fun actions => (serves.performAll actions).order
    noted := fun actions => ?_
    oneByOne := fun idle actions alone => ?_
    completed := fun prompt ready which only => ?_
  }
  · obtain ⟨taken, all, noted⟩ :=
      Watch.exists_taken_performAll (w := .start queued) stillSound actions
    simp only [all, ← queuedReached.registry_eq, ← entered.log]
    exact noted
  · refine (oneByOne_start stillSound fun v member => ?_).performAll stillSound ?_
    · have known : v.state ∈ s.workers.map Worker.state :=
        same.states ▸ List.mem_map_of_mem member
      obtain ⟨u, before, equal⟩ := List.mem_map.mp known
      exact equal.symm.trans (idle u before)
    · exact entered.workers ▸ alone
  · obtain ⟨readyServes, readyReached, readyOpen⟩ :
        (Watch.start ready).Serves (isAmong ids) (byUrgency (ticketsFor ids batch.toList))
        ∧ Reached registry ready
        ∧ ready.lanes.closed = false := by
      rcases which with rfl | rfl
      · exact ⟨serves, queuedReached, stillOpen⟩
      · exact ⟨serves.perform .attach, queuedReached.changes (.single .attach), stillOpen⟩
    have idle : ∀ v ∈ ready.workers, v.state = .idle := fun v member => by
      have known := List.mem_map_of_mem (f := Worker.state) member
      simpa [only] using known
    obtain ⟨actions, finished⟩ := readyServes.exists_finished
      (oneByOne_start readyReached.sound_and_vigilant.1 idle) readyReached prompt readyOpen only
    rcases which with rfl | rfl
    · exact ⟨actions, finished⟩
    · exact ⟨.attach :: actions, finished⟩

/-- The lanes are a stable priority queue. Whatever is done to them, they answer as one line of
tickets does that stands in the order of the pushes, and each lane is the part of the line that has
its priority; once they are closed they are empty, stay as they are and refuse everything. The lanes
of a scheduler are such lanes at any time. So a batch that is queued before the only worker is
started is executed in the order of its priorities and, within each, of its indices.
-/
theorem stable_priority_order
    : (∀ ops,
        let l := (Lanes.empty.performAll ops).2
        ∃ line,
          Lanes.Line.Run ⟨[], false⟩ ops (Lanes.empty.performAll ops).1 line
          ∧ l.Holds line
          ∧ (l.closed = true
            → (∀ p, l.queue p = [])
              ∧ ∀ more, l.performAll more = (more.map Lanes.Op.refusal, l)))
      ∧ (∀ registry expire actions, ∃ ops,
          ((create registry expire).performAll actions).lanes = (Lanes.empty.performAll ops).2)
      ∧ (∀ registry s, Reached registry s → s.lanes.closed = false → ∀ batch : Batch,
          ∃ ids queued,
            s.enqueueEach batch.toList = .ok (ids, queued)
            ∧ InOrder registry s batch ids queued) := by
  refine ⟨fun ops => ?_, fun registry expire actions => ?_, ?_⟩
  · obtain ⟨line, run, holds⟩ := Lanes.holds_empty.run ops
    refine ⟨line, run, holds, fun shut => ⟨fun p => ?_, holds.performAll_of_closed shut⟩⟩
    rw [holds.queue, holds.shut (holds.closed.symm.trans shut), List.filter_nil]
  · exact (create registry expire).exists_ops_performAll actions
  · intro registry s reached isOpen batch
    obtain ⟨ids, queued, accepted, _⟩ :=
      exists_enqueueEach isOpen reached.sound_and_vigilant.1 batch.toList
    exact ⟨ids, queued, accepted, inOrder_enqueueEach reached isOpen accepted⟩

end Scheduler

end TaskFabric
