import TaskFabric.Proofs.Scheduler.Completion
import TaskFabric.Proofs.Scheduler.LaneOrder

/-! A scheduler under watch. Anything can happen to it, one action at a time and in any order, and
it is recorded which tickets were accepted, taken by a worker, finished by one, and dropped. An
action comes to one of five things for these records. The calls that queue tasks and wait for them
are made of such actions.
-/

namespace TaskFabric

/-- What the handler of a ticket notes when it starts. -/
def Registry.notes (r : Registry) (ticket : Ticket) : List Value :=
  ((r.get? ticket.task.consumable).map fun (h : Handler) => h.notes ticket.task.source).getD []

namespace Future

/-- A future tells the same as another one, which may still have been open. -/
def Follows (f g : Future) : Prop :=
  g.delivery = f.delivery ∧ (f.isClosed = true → g.isClosed = true)

theorem Follows.refl (f : Future) : f.Follows f := ⟨rfl, id⟩

theorem follows_wait (f : Future) : f.Follows f.wait.2 :=
  ⟨f.delivery_wait, fun closed => by simp [wait, closed]⟩

theorem follows_expire (f : Future) : f.Follows f.expire := ⟨rfl, id⟩

theorem follows_close (f : Future) : f.Follows f.close :=
  ⟨f.delivery_close, fun closed => by simp [close, closed]⟩

end Future

namespace Scheduler

-----------------------------------------------------------------------------------------
-- Actions
-----------------------------------------------------------------------------------------

/-- What can happen to a scheduler at one go. A ticket is queued and a worker is woken for it at two
goes, and the one that is woken may be any; a call that is refused changes nothing.
-/
inductive Action where
  | attach
  | launch (id : Nat)
  | launchAll
  | quit (id : Nat)
  | submit (task : Task)
  | wake (id : Nat)
  | step (id : Nat)
  | wait (id : Nat)
  | expire (id : Nat)
  | release (id : Nat)
  | close
  | pass (now : Instant)

/-- The scheduler behind an action. -/
def perform (s : Scheduler) : Action → Scheduler
  | .attach => s.attach
  | .launch id => (s.launch id).toOption.getD s
  | .launchAll => s.launchAll
  | .quit id => (s.quit id).toOption.getD s
  | .submit task => (s.push? task).getD s
  | .wake id => s.wake id
  | .step id => ((s.worker? id).map s.step).getD s
  | .wait id => (s.wait id).2
  | .expire id => s.changeFuture id Future.expire
  | .release id => s.closeFuture id
  | .close => s.close
  | .pass now => { s with clock := now }

/-- What can come of an action. -/
inductive Performed (s : Scheduler) : Action → Scheduler → Prop
  | refused {a} : Performed s a s
  | attach : Performed s .attach s.attach
  | launch {id next} (launched : s.launch id = .ok next) : Performed s (.launch id) next
  | launchAll : Performed s .launchAll s.launchAll
  | quit {id next} (told : s.quit id = .ok next) : Performed s (.quit id) next
  | submit {task lanes} (pushed : s.lanes.push? ⟨s.nextTicket, task⟩ = some lanes)
    : Performed s (.submit task)
        { s with
          lanes
          futures := s.futures.insert s.nextTicket .start
          nextTicket := s.nextTicket + 1 }
  | wake (id : Nat) : Performed s (.wake id) (s.wake id)
  | step {w} (member : w ∈ s.workers) : Performed s (.step w.id) (s.step w)
  | changeFuture {a} (id : Nat) (change : Future → Future)
    : Performed s a (s.changeFuture id change)
  | close : Performed s .close s.close
  | pass (now : Instant) : Performed s (.pass now) { s with clock := now }

theorem performed_perform (s : Scheduler) (a : Action) : Performed s a (s.perform a) := by
  cases a with
  | attach => exact .attach
  | launch id =>
      simp only [perform]
      cases launched : s.launch id with
      | error _ => exact .refused
      | ok next => exact .launch launched
  | launchAll => exact .launchAll
  | quit id =>
      simp only [perform]
      cases told : s.quit id with
      | error _ => exact .refused
      | ok next => exact .quit told
  | submit task =>
      simp only [perform, push?]
      cases pushed : s.lanes.push? ⟨s.nextTicket, task⟩ with
      | none => exact .refused
      | some lanes => exact .submit pushed
  | wake id => exact .wake id
  | step id =>
      simp only [perform]
      cases found : s.worker? id with
      | none => exact .refused
      | some w =>
          obtain ⟨member, rfl⟩ := worker?_eq_some found
          exact .step member
  | wait id => exact .changeFuture id _
  | expire id => exact .changeFuture id _
  | release id => exact .changeFuture id _
  | close => exact .close
  | pass now => exact .pass now

/-- Actions one after another. -/
def performAll (s : Scheduler) (actions : List Action) : Scheduler := actions.foldl perform s

theorem performAll_append (s : Scheduler) (first second : List Action)
    : s.performAll (first ++ second) = (s.performAll first).performAll second :=
  List.foldl_append

/-- The tickets that workers hold. -/
def held (s : Scheduler) : List Ticket := s.workers.filterMap Worker.ticket?

/-- The ticket that the worker of a number holds. -/
def held? (s : Scheduler) (id : Nat) : Option Ticket := (s.worker? id).bind Worker.ticket?

-----------------------------------------------------------------------------------------
-- Records
-----------------------------------------------------------------------------------------

/-- A scheduler with the tickets that were accepted, that a worker took, that a worker finished, and
that were dropped when the lanes were closed, each in the order of time.
-/
structure Watch where
  scheduler : Scheduler
  accepted : List Ticket
  taken : List Ticket
  finished : List Ticket
  dropped : List Ticket

namespace Watch

/-- A scheduler of which nothing has been recorded. -/
def start (s : Scheduler) : Watch := ⟨s, [], [], [], []⟩

/-- An action and what is recorded of it: a worker has taken a ticket if it holds one that it did
not hold, and finished one that it holds no more.
-/
def perform (w : Watch) (a : Action) : Watch :=
  let s := w.scheduler
  let next := s.perform a
  match a with
  | .submit task =>
      match s.push? task with
      | some _ => { w with scheduler := next, accepted := w.accepted ++ [⟨s.nextTicket, task⟩] }
      | none => { w with scheduler := next }
  | .step id =>
      match s.held? id, next.held? id with
      | none, some ticket => { w with scheduler := next, taken := w.taken ++ [ticket] }
      | some ticket, none => { w with scheduler := next, finished := w.finished ++ [ticket] }
      | _, _ => { w with scheduler := next }
  | .close => { w with scheduler := next, dropped := w.dropped ++ s.lanes.tickets }
  | _ => { w with scheduler := next }

/-- Actions one after another. -/
def performAll (w : Watch) (actions : List Action) : Watch := actions.foldl perform w

theorem performAll_append (w : Watch) (first second : List Action)
    : w.performAll (first ++ second) = (w.performAll first).performAll second :=
  List.foldl_append

@[simp]
theorem scheduler_perform (w : Watch) (a : Action)
    : (w.perform a).scheduler = w.scheduler.perform a := by
  cases a with
  | submit task =>
      simp only [perform]
      split <;> rfl
  | step id =>
      simp only [perform]
      split <;> rfl
  | _ => rfl

/-- The scheduler goes its way whatever was recorded before. -/
theorem scheduler_performAll (w : Watch) (actions : List Action)
    : (w.performAll actions).scheduler = w.scheduler.performAll actions := by
  induction actions generalizing w with
  | nil => rfl
  | cons a rest ih =>
      have later := ih (w.perform a)
      rw [scheduler_perform] at later
      exact later

/-- The records of a watch, and behind them those of a later one. -/
def append (w later : Watch) : Watch :=
  ⟨later.scheduler, w.accepted ++ later.accepted, w.taken ++ later.taken,
    w.finished ++ later.finished, w.dropped ++ later.dropped⟩

theorem append_perform (w later : Watch) (a : Action)
    : (w.append later).perform a = w.append (later.perform a) := by
  cases a with
  | submit task =>
      simp only [perform, append]
      split <;> simp only [List.append_assoc]
  | step id =>
      simp only [perform, append]
      split <;> simp only [List.append_assoc]
  | close => simp only [perform, append, List.append_assoc]
  | _ => rfl

/-- What is recorded of actions does not depend on what was recorded before. -/
theorem performAll_eq_append (w : Watch) (actions : List Action)
    : w.performAll actions = w.append ((start w.scheduler).performAll actions) := by
  have behind (later : Watch)
      : (w.append later).performAll actions = w.append (later.performAll actions) := by
    induction actions generalizing later with
    | nil => rfl
    | cons a rest ih =>
        have next := ih (later.perform a)
        rw [← append_perform] at next
        exact next
  have whole : w.append (start w.scheduler) = w := by simp [append, start]
  rw [← behind, whole]

end Watch

-----------------------------------------------------------------------------------------
-- Workers
-----------------------------------------------------------------------------------------

variable {s next : Scheduler} {w : Worker}

/-- With a worker its own ticket changes, and the others stay held. -/
theorem held_changeWorker (distinct : (s.workers.map Worker.id).Nodup) (member : w ∈ s.workers)
    : ∃ others,
        s.held.Perm (w.ticket?.toList ++ others)
        ∧ ∀ change,
            (s.changeWorker w.id change).held.Perm ((change w).ticket?.toList ++ others) := by
  obtain ⟨before, behind, split, _, changed⟩ := exists_parts distinct member
  have front (v : Worker)
      : ((before ++ v :: behind).filterMap Worker.ticket?).Perm
          (v.ticket?.toList
            ++ (before.filterMap Worker.ticket? ++ behind.filterMap Worker.ticket?)) := by
    rw [List.filterMap_append, List.filterMap_cons]
    cases v.ticket? with
    | none => exact .refl _
    | some ticket => exact List.perm_middle
  refine ⟨_, split ▸ front w, fun change => ?_⟩
  exact (changed change ▸ front (change w) : List.Perm (List.filterMap _ _) _)

theorem ticket?_wake (w : Worker) : w.wake.ticket? = w.ticket? := by
  cases doing : w.activity <;> simp [Worker.ticket?, Worker.wake, doing]

/-- Workers may change as long as they hold what they held. -/
theorem held_map {change : Worker → Worker}
    (same : ∀ w ∈ s.workers, (change w).ticket? = w.ticket?)
    : (s.workers.map change).filterMap Worker.ticket? = s.held := by
  rw [List.filterMap_map]
  exact List.filterMap_congr same

theorem held_changeWorker_of_eq (distinct : (s.workers.map Worker.id).Nodup)
    (member : w ∈ s.workers) {change : Worker → Worker} (same : (change w).ticket? = w.ticket?)
    : (s.changeWorker w.id change).held = s.held := by
  refine held_map fun v known => ?_
  split
  · next equal =>
      rw [eq_of_id_eq distinct known member (by simpa using equal)]
      exact same
  · rfl

theorem held?_changeWorker (found : s.worker? w.id = some w) (change : Worker → Worker)
    (ids : ∀ v, (change v).id = v.id)
    : (s.changeWorker w.id change).held? w.id = (change w).ticket? := by
  have kept : (fun v : Worker => (if v.id == w.id then change v else v).id == w.id)
      = fun v => v.id == w.id := by
    funext v
    split
    · rw [ids]
    · rfl
  unfold worker? at found
  simp only [held?, worker?, changeWorker, List.find?_map, Function.comp_def, kept, found,
    Option.map_some, beq_self_eq_true, if_true, Option.bind_some]

theorem Sound.perform_step (sound : Sound s) (member : w ∈ s.workers)
    : s.perform (.step w.id) = s.step w := by
  simp only [Scheduler.perform, sound.worker?_eq member, Option.map_some, Option.getD_some]

/-- Every action leaves workers and tickets in order, by cases on what comes of it. -/
theorem Sound.perform (sound : Sound s) (a : Action) : Sound (s.perform a) := by
  have performed := performed_perform s a
  generalize s.perform a = next at performed
  cases performed with
  | refused => exact sound
  | attach => exact sound.attach
  | launch launched => exact sound.launch launched
  | launchAll => exact sound.launchAll
  | quit told => exact sound.quit told
  | submit pushed => exact sound.push pushed _
  | wake id => exact sound.wake id
  | step member => exact sound.turn member (turn_step _ _)
  | close => exact sound.close
  | changeFuture _ _ | pass _ => exact { sound with }

theorem registry_perform (s : Scheduler) (a : Action) : (s.perform a).registry = s.registry := by
  have performed := performed_perform s a
  generalize s.perform a = next at performed
  cases performed with
  | launch launched => exact (Change.launch launched).registry_eq
  | quit told => exact (Change.quit told).registry_eq
  | step _ => exact (sameSetting_step _ _).registry
  | refused | attach | launchAll | submit _ | wake _ | changeFuture _ _ | close | pass _ => rfl

-----------------------------------------------------------------------------------------
-- Effects
-----------------------------------------------------------------------------------------

/-- Every future tells what it told before, and is closed if it was. -/
def FuturesFollow (s next : Scheduler) : Prop :=
  ∀ id f, s.futures.get? id = some f → ∃ g, next.futures.get? id = some g ∧ f.Follows g

theorem futuresFollow_of_eq (same : next.futures = s.futures) : FuturesFollow s next :=
  fun _ f found => ⟨f, same ▸ found, .refl f⟩

theorem futuresFollow_changeFuture (s : Scheduler) (id : Nat) {change : Future → Future}
    (follows : ∀ f : Future, f.Follows (change f))
    : FuturesFollow s (s.changeFuture id change) := by
  intro other f found
  refine ⟨_, by rw [get?_changeFuture, found]; rfl, ?_⟩
  split
  · exact follows f
  · exact .refl f

namespace Watch

variable {w : Watch} {ticket : Ticket}

/-- What an action comes to. It may be nothing but the release of futures; or a ticket is queued,
goes from the lanes to a worker, or is finished by one and its completion delivered; or the tickets
in the lanes are dropped.
-/
inductive Effect (w : Watch) : Watch → Prop
  | calm {next : Scheduler} (lanes : next.lanes = w.scheduler.lanes)
    (held : next.held = w.scheduler.held) (futures : FuturesFollow w.scheduler next)
    (nextTicket : next.nextTicket = w.scheduler.nextTicket)
    (log : next.log = w.scheduler.log)
    : Effect w { w with scheduler := next }
  | accepts {task : Task} {next : Scheduler}
    (pushed : w.scheduler.lanes.push? ⟨w.scheduler.nextTicket, task⟩ = some next.lanes)
    (held : next.held = w.scheduler.held)
    (futures : next.futures = w.scheduler.futures.insert w.scheduler.nextTicket .start)
    (nextTicket : next.nextTicket = w.scheduler.nextTicket + 1)
    (log : next.log = w.scheduler.log)
    : Effect w
        { w with
          scheduler := next
          accepted := w.accepted ++ [⟨w.scheduler.nextTicket, task⟩] }
  | takes {ticket : Ticket} {next : Scheduler}
    (popped : w.scheduler.lanes.pop? = some (ticket, next.lanes))
    (held : next.held.Perm (ticket :: w.scheduler.held))
    (futures : next.futures = w.scheduler.futures)
    (nextTicket : next.nextTicket = w.scheduler.nextTicket)
    (log : next.log = w.scheduler.log ++ w.scheduler.registry.notes ticket)
    : Effect w { w with scheduler := next, taken := w.taken ++ [ticket] }
  | finishes {ticket : Ticket} {next : Scheduler} (lanes : next.lanes = w.scheduler.lanes)
    (held : w.scheduler.held.Perm (ticket :: next.held))
    (futures
      : next.futures
        = (w.scheduler.changeFuture ticket.id fun f =>
            f.fulfil (w.scheduler.registry.answer ticket.task)).futures)
    (nextTicket : next.nextTicket = w.scheduler.nextTicket)
    (log : next.log = w.scheduler.log)
    : Effect w { w with scheduler := next, finished := w.finished ++ [ticket] }
  | closes : Effect w
      { w with
        scheduler := w.scheduler.close
        dropped := w.dropped ++ w.scheduler.lanes.tickets }

theorem perform_step {id : Nat} {v : Worker} (found : w.scheduler.worker? id = some v)
    : w.perform (.step id)
      = match v.ticket?, (w.scheduler.step v).held? id with
        | none, some ticket =>
            { w with scheduler := w.scheduler.step v, taken := w.taken ++ [ticket] }
        | some ticket, none =>
            { w with scheduler := w.scheduler.step v, finished := w.finished ++ [ticket] }
        | _, _ => { w with scheduler := w.scheduler.step v } := by
  simp only [perform, Scheduler.perform, held?, found, Option.map_some, Option.getD_some,
    Option.bind_some]

/-- What is noted when a worker takes a ticket. -/
theorem log_step_of_pop? {v : Worker} {lanes : Lanes} (awake : v.activity = .awake)
    (active : v.state ≠ .stopped) (popped : s.lanes.pop? = some (ticket, lanes))
    : (s.step v).log = s.log ++ s.registry.notes ticket := by
  simp only [step, awake, look, beq_eq_false_iff_ne.mpr active, popped]
  rfl

/-- The step of a worker comes to what the worker does, by cases on that. -/
theorem effect_step (sound : Sound w.scheduler) (id : Nat) : w.Effect (w.perform (.step id)) := by
  cases found : w.scheduler.worker? id with
  | none =>
      have same : w.perform (.step id) = w := by
        simp [perform, Scheduler.perform, held?, found]
      rw [same]
      exact .calm rfl rfl (futuresFollow_of_eq rfl) rfl rfl
  | some v =>
      obtain ⟨member, rfl⟩ := worker?_eq_some found
      obtain ⟨others, before, after⟩ := held_changeWorker sound.distinct member
      rw [perform_step found]
      have turn := turn_step w.scheduler v
      generalize stepped : w.scheduler.step v = next at turn ⊢
      cases turn with
      | leave awake _ | sleep awake _ _ =>
          have free : v.ticket? = none := by simp [Worker.ticket?, awake]
          rw [held?_changeWorker found _ (by simp), free]
          refine .calm rfl ?_ (futuresFollow_of_eq rfl) rfl rfl
          exact held_changeWorker_of_eq sound.distinct member (by simp [Worker.ticket?, awake])
      | @take ticket lanes log gate awake active popped _ =>
          have free : v.ticket? = none := by simp [Worker.ticket?, awake]
          have noted := log_step_of_pop? awake active popped
          have busy := held?_changeWorker (s := { w.scheduler with lanes, log, gate }) found
            (fun v =>
              { v with
                activity := .busy ticket (w.scheduler.registry.get? ticket.task.consumable) })
            fun _ => rfl
          rw [stepped] at noted
          rw [busy, free]
          simp only [free, Option.toList_none, List.nil_append] at before
          exact .takes popped ((after _).trans (before.symm.cons ticket)) rfl rfl noted
      | @finish ticket handler busy =>
          have mine : v.ticket? = some ticket := by simp [Worker.ticket?, busy]
          have own : completion handler ticket.task = w.scheduler.registry.answer ticket.task := by
            rw [(sound.fits v member).handled ticket handler busy]
            exact Registry.completion_eq_answer _ _
          let delivered := w.scheduler.changeFuture ticket.id fun f =>
            f.fulfil (completion handler ticket.task)
          have free
              : (delivered.changeWorker v.id fun v => { v with activity := .awake }).held? v.id
                = none :=
            held?_changeWorker (s := delivered) found _ fun _ => rfl
          rw [mine]
          simp only [held?, worker?] at free ⊢
          rw [free]
          simp only [mine, Option.toList_some, List.singleton_append] at before
          have left
              : (w.scheduler.changeWorker v.id fun v => { v with activity := .awake }).held.Perm
                  others :=
            after fun v => { v with activity := .awake }
          exact .finishes rfl (before.trans (left.symm.cons ticket)) (own ▸ rfl) rfl rfl
      | rest idle _ =>
          have free : v.ticket? = none := by
            unfold Worker.ticket?
            split
            · next busy => exact absurd busy (idle _ _)
            · rfl
          have still : w.scheduler.held? v.id = none := by simp [held?, found, free]
          rw [free, still]
          exact .calm rfl rfl (futuresFollow_of_eq rfl) rfl rfl

theorem effect_launch (sound : Sound w.scheduler) {id : Nat} {next : Scheduler}
    (launched : w.scheduler.launch id = .ok next)
    : w.Effect { w with scheduler := next } := by
  rcases launch_eq_ok launched with rfl | ⟨v, member, rfl, idle, rfl⟩
  · exact .calm rfl rfl (futuresFollow_of_eq rfl) rfl rfl
  · have unborn := (sound.fits v member).unborn idle
    refine .calm rfl ?_ (futuresFollow_of_eq rfl) rfl rfl
    refine held_changeWorker_of_eq sound.distinct member ?_
    simp [Worker.ticket?, Worker.launch, unborn]

/-- Workers that change without a ticket changing hands have no effect. -/
theorem effect_mapWorkers (w : Watch) {change : Worker → Worker}
    (same : ∀ v ∈ w.scheduler.workers, (change v).ticket? = v.ticket?)
    : w.Effect
        { w with
          scheduler :=
            { w.scheduler with workers := w.scheduler.workers.map change } } :=
  .calm rfl (held_map same) (futuresFollow_of_eq rfl) rfl rfl

theorem effect_changeFuture (w : Watch) (id : Nat) {change : Future → Future}
    (follows : ∀ f : Future, f.Follows (change f))
    : w.Effect { w with scheduler := w.scheduler.changeFuture id change } :=
  .calm rfl rfl (futuresFollow_changeFuture w.scheduler id follows) rfl rfl

/-- Every action comes to one of these effects, by cases on the action. -/
theorem effect_perform (sound : Sound w.scheduler) (a : Action) : w.Effect (w.perform a) := by
  cases a with
  | attach =>
      refine .calm rfl ?_ (futuresFollow_of_eq rfl) rfl rfl
      simp [Scheduler.perform, Scheduler.attach, Scheduler.held, Worker.attached, Worker.ticket?]
  | launch id =>
      simp only [perform, Scheduler.perform]
      cases launched : w.scheduler.launch id with
      | error _ => exact .calm rfl rfl (futuresFollow_of_eq rfl) rfl rfl
      | ok next => exact effect_launch sound launched
  | launchAll =>
      refine w.effect_mapWorkers fun v member => ?_
      split
      · next idle =>
          have unborn := (sound.fits v member).unborn (by simpa using idle)
          simp [Worker.ticket?, Worker.launch, unborn]
      · rfl
  | quit id =>
      simp only [perform, Scheduler.perform]
      cases told : w.scheduler.quit id with
      | error _ => exact .calm rfl rfl (futuresFollow_of_eq rfl) rfl rfl
      | ok next =>
          rw [quit_eq_ok told]
          refine w.effect_mapWorkers fun v _ => ?_
          split
          · exact ticket?_wake v.quit
          · exact ticket?_wake v
  | submit task =>
      simp only [perform, Scheduler.perform, push?]
      cases pushed : w.scheduler.lanes.push? ⟨w.scheduler.nextTicket, task⟩ with
      | none => exact .calm rfl rfl (futuresFollow_of_eq rfl) rfl rfl
      | some lanes => exact .accepts pushed rfl rfl rfl rfl
  | wake id =>
      refine w.effect_mapWorkers fun v _ => ?_
      split
      · exact ticket?_wake v
      · rfl
  | step id => exact effect_step sound id
  | wait id => exact w.effect_changeFuture id Future.follows_wait
  | expire id => exact w.effect_changeFuture id Future.follows_expire
  | release id => exact w.effect_changeFuture id Future.follows_close
  | close => exact .closes
  | pass now => exact .calm rfl rfl (futuresFollow_of_eq rfl) rfl rfl

theorem registry_performAll (w : Watch) (actions : List Action)
    : (w.performAll actions).scheduler.registry = w.scheduler.registry := by
  induction actions generalizing w with
  | nil => rfl
  | cons a rest ih =>
      exact (ih (w.perform a)).trans (w.scheduler_perform a ▸ registry_perform w.scheduler a)

/-- A handler notes what it notes when its ticket is taken, by cases on the effect. -/
theorem exists_taken_perform (sound : Sound w.scheduler) (a : Action)
    : ∃ taken,
        (w.perform a).taken = w.taken ++ taken
        ∧ (w.perform a).scheduler.log
          = w.scheduler.log ++ taken.flatMap w.scheduler.registry.notes := by
  have effect := effect_perform sound a
  generalize w.perform a = next at effect
  cases effect with
  | @takes ticket _ _ _ _ _ log => exact ⟨[ticket], rfl, by simpa using log⟩
  | calm _ _ _ _ log | accepts _ _ _ _ log | finishes _ _ _ _ log =>
      exact ⟨[], (List.append_nil _).symm, by simpa using log⟩
  | closes => exact ⟨[], (List.append_nil _).symm, (List.append_nil _).symm⟩

/-- Handlers note what they note in the order in which the tickets are taken, by induction on the
actions.
-/
theorem exists_taken_performAll (sound : Sound w.scheduler) (actions : List Action)
    : ∃ taken,
        (w.performAll actions).taken = w.taken ++ taken
        ∧ (w.performAll actions).scheduler.log
          = w.scheduler.log ++ taken.flatMap w.scheduler.registry.notes := by
  induction actions generalizing w with
  | nil => exact ⟨[], (List.append_nil _).symm, (List.append_nil _).symm⟩
  | cons a rest ih =>
      obtain ⟨first, taken, noted⟩ := exists_taken_perform sound a
      have stillSound : Sound (w.perform a).scheduler := w.scheduler_perform a ▸ sound.perform a
      have registry : (w.perform a).scheduler.registry = w.scheduler.registry :=
        w.scheduler_perform a ▸ registry_perform w.scheduler a
      obtain ⟨later, takenLater, notedLater⟩ := ih stillSound
      refine ⟨first ++ later, ?_, ?_⟩
      · rw [← List.append_assoc, ← taken]
        exact takenLater
      · rw [List.flatMap_append, ← List.append_assoc, ← noted, ← registry]
        exact notedLater

end Watch

-----------------------------------------------------------------------------------------
-- Calls
-----------------------------------------------------------------------------------------

/-- The steps of workers are actions, by induction on the steps. -/
theorem exists_steps_run (fuel : Nat) (sound : Sound s)
    : ∃ ids : List Nat, s.performAll (ids.map .step) = run fuel s := by
  induction fuel generalizing s with
  | zero => exact ⟨[], rfl⟩
  | succ fuel ih =>
      unfold run
      split
      · next w found =>
          have member := List.mem_of_find?_eq_some found
          obtain ⟨later, reached⟩ := ih (sound.change (.step member))
          have first := congrArg (·.performAll (later.map .step)) (sound.perform_step member)
          exact ⟨w.id :: later, first.trans reached⟩
      · exact ⟨[], rfl⟩

/-- A task that is accepted is queued, and then a worker may be woken. -/
theorem exists_wakes_enqueueOne {task : Task} {id : Nat}
    (accepted : s.enqueueOne task = .ok (id, next))
    : ∃ ids : List Nat, s.performAll (.submit task :: ids.map .wake) = next := by
  obtain ⟨_, lanes, pushed, rfl⟩ := enqueueOne_eq_ok accepted
  unfold wakeOne
  split
  · next w _ => exact ⟨[w.id], by simp [performAll, perform, push?, pushed]⟩
  · exact ⟨[], by simp [performAll, perform, push?, pushed]⟩

/-- Every change of a scheduler is made of actions, by cases on the change. -/
theorem Change.exists_actions (change : Change s next) (sound : Sound s)
    : ∃ actions, s.performAll actions = next := by
  cases change with
  | attach => exact ⟨[.attach], rfl⟩
  | @launch id _ launched =>
      exact ⟨[.launch id], by simp [performAll, perform, launched, Except.toOption]⟩
  | launchAll => exact ⟨[.launchAll], rfl⟩
  | @quit id _ told => exact ⟨[.quit id], by simp [performAll, perform, told, Except.toOption]⟩
  | enqueue accepted =>
      obtain ⟨_, made⟩ := exists_wakes_enqueueOne accepted
      exact ⟨_, made⟩
  | @step w member => exact ⟨[.step w.id], sound.perform_step member⟩
  | wait id => exact ⟨[.wait id], rfl⟩
  | expire id => exact ⟨[.expire id], rfl⟩
  | release id => exact ⟨[.release id], rfl⟩
  | close => exact ⟨[.close], rfl⟩
  | @pass now _ => exact ⟨[.pass now], rfl⟩

/-- Whatever the calls make of a watched scheduler, actions make of it, too. -/
theorem Changes.exists_actions (changes : Changes s next) (sound : Sound s)
    : ∃ actions, s.performAll actions = next := by
  induction changes using Relation.ReflTransGen.head_induction_on with
  | refl => exact ⟨[], rfl⟩
  | head first _ ih =>
      obtain ⟨before, reached⟩ := first.exists_actions sound
      obtain ⟨behind, last⟩ := ih (sound.change first)
      exact ⟨before ++ behind, by rw [performAll_append, reached, last]⟩

end Scheduler

end TaskFabric
