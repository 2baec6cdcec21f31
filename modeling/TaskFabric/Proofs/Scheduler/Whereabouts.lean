import TaskFabric.Proofs.Scheduler.Answers
import TaskFabric.Proofs.Scheduler.Watching

/-! Where the tickets are that a scheduler has accepted. Each is at one place at any time: in the
lane of its priority, in the hands of one worker, finished, or dropped; and its future tells of it
what its own handler has made of its task, or that it is closed, and nothing else.
-/

namespace TaskFabric

-----------------------------------------------------------------------------------------
-- Futures
-----------------------------------------------------------------------------------------

namespace Future

/-- A future whose ticket was finished: it has got the result, or was released before. -/
def Served (result : Completion) (f : Future) : Prop :=
  f.delivery = .delivered result ∨ f.delivery = .pending ∧ f.isClosed = true

theorem Served.follows {result : Completion} {f g : Future} (served : f.Served result)
    (follows : f.Follows g)
    : g.Served result := by
  obtain ⟨same, released⟩ := follows
  exact served.imp same.trans fun ⟨pending, closed⟩ => ⟨same.trans pending, released closed⟩

theorem served_fulfil {f : Future} (pending : f.delivery = .pending) (result : Completion)
    : (f.fulfil result).Served result := by
  cases closed : f.isClosed with
  | true =>
      rw [f.fulfil_of_settled result (.inl closed)]
      exact .inr ⟨pending, closed⟩
  | false =>
      simp only [fulfil, closed, pending]
      exact .inl rfl

/-- A wait for a finished ticket yields its result, unless the future is closed. -/
theorem Served.wait_eq {result : Completion} {f : Future} (served : f.Served result)
    : f.wait.1 = .ok result ∨ f.wait.1 = .error .closed := by
  cases closed : f.isClosed with
  | true => simp [wait, closed]
  | false =>
      have delivered := served.resolve_right (by simp [closed])
      simp [wait, closed, delivered]

theorem wait_of_pending {f : Future} (pending : f.delivery = .pending)
    : f.wait.1 = .error .timeout ∨ f.wait.1 = .error .closed := by
  cases closed : f.isClosed <;> simp [wait, closed, pending]

theorem wait_of_abandoned {f : Future} (abandoned : f.delivery = .abandoned)
    : f.wait.1 = .error .closed := by
  cases closed : f.isClosed <;> simp [wait, closed, abandoned]

end Future

namespace Scheduler

variable {s next : Scheduler} {ticket : Ticket}

/-- A ticket has a future of which something holds. -/
def FutureIs (s : Scheduler) (ticket : Ticket) (test : Future → Prop) : Prop :=
  ∃ f, s.futures.get? ticket.id = some f ∧ test f

/-- The future of a ticket tells what it told before, and is closed if it was. -/
def KeepsFuture (s next : Scheduler) (ticket : Ticket) : Prop :=
  ∀ f, s.futures.get? ticket.id = some f → next.FutureIs ticket f.Follows

theorem FutureIs.follow {test : Future → Prop} (is : s.FutureIs ticket test)
    (follow : KeepsFuture s next ticket) (kept : ∀ f g, test f → f.Follows g → test g)
    : next.FutureIs ticket test := by
  obtain ⟨f, found, holds⟩ := is
  obtain ⟨g, there, follows⟩ := follow f found
  exact ⟨g, there, kept f g holds follows⟩

theorem keepsFuture_of_eq (same : next.futures.get? ticket.id = s.futures.get? ticket.id)
    : KeepsFuture s next ticket :=
  fun f found => ⟨f, same.trans found, .refl f⟩

theorem FutureIs.wait_eq {test : Future → Prop} (is : s.FutureIs ticket test)
    : ∃ f, test f ∧ (s.wait ticket.id).1 = f.wait.1 := by
  obtain ⟨f, found, holds⟩ := is
  exact ⟨f, holds, by simp [wait, future, found]⟩

-----------------------------------------------------------------------------------------
-- What futures tell
-----------------------------------------------------------------------------------------

/-- The futures of tickets tell which of them are out, which are finished, and which dropped. -/
structure Told (s : Scheduler) (out finished dropped : List Ticket) : Prop where
  waiting : ∀ ticket ∈ out, s.FutureIs ticket (·.delivery = .pending)
  served : ∀ ticket ∈ finished, s.FutureIs ticket (·.Served (s.registry.answer ticket.task))
  abandoned : ∀ ticket ∈ dropped, s.FutureIs ticket (·.delivery = .abandoned)

namespace Told

variable {out fewer finished dropped : List Ticket}

theorem of_subset (told : Told s out finished dropped) (subset : fewer ⊆ out)
    : Told s fewer finished dropped :=
  { told with waiting := fun ticket member => told.waiting ticket (subset member) }

/-- Futures that change at most by being closed tell the same. -/
theorem follow (told : Told s out finished dropped) (registry : next.registry = s.registry)
    (follow : ∀ ticket ∈ out ++ (finished ++ dropped), KeepsFuture s next ticket)
    : Told next out finished dropped where
  waiting ticket member := by
    refine (told.waiting ticket member).follow (follow ticket (by simp [member])) ?_
    exact fun _ _ pending same => same.1.trans pending
  served ticket member := by
    rw [registry]
    refine (told.served ticket member).follow (follow ticket (by simp [member])) ?_
    exact fun _ _ served same => served.follows same
  abandoned ticket member := by
    refine (told.abandoned ticket member).follow (follow ticket (by simp [member])) ?_
    exact fun _ _ abandoned same => same.1.trans abandoned

end Told

-----------------------------------------------------------------------------------------
-- Tickets in order
-----------------------------------------------------------------------------------------

/-- The numbers of tickets tell them apart. -/
theorem id_ne_of_perm {here there all : List Ticket} (distinct : (all.map Ticket.id).Nodup)
    (perm : (here ++ there).Perm all) {t u : Ticket} (mine : t ∈ here) (other : u ∈ there)
    : t.id ≠ u.id := by
  have apart := (perm.map Ticket.id).nodup_iff.mpr distinct
  rw [List.map_append] at apart
  exact (List.nodup_append.mp apart).2.2 _ (List.mem_map_of_mem mine) _ (List.mem_map_of_mem other)

namespace Watch

/-- All that is known of a watched scheduler. The tickets that were accepted are numbered in turn,
each of them is at one place, and the futures tell where.
-/
structure Orderly (w : Watch) : Prop where
  sound : Sound w.scheduler
  line : ∃ line, w.scheduler.lanes.Holds line
  numbered : w.accepted.map Ticket.id = List.range w.scheduler.nextTicket
  conserved
    : (w.scheduler.lanes.tickets ++ w.scheduler.held ++ (w.finished ++ w.dropped)).Perm w.accepted
  executed : (w.scheduler.held ++ w.finished).Perm w.taken
  told
    : Told w.scheduler (w.scheduler.lanes.tickets ++ w.scheduler.held) w.finished w.dropped

variable {w : Watch}

theorem orderly_start (registry : Registry) (expire : Duration)
    : Orderly (start (create registry expire)) where
  sound := sound_create registry expire
  line := ⟨_, Lanes.holds_empty⟩
  numbered := rfl
  conserved := .refl _
  executed := .refl _
  told := by
    constructor <;> simp [start, create, held, Lanes.empty, Lanes.tickets_eq]

namespace Orderly

theorem distinct (orderly : w.Orderly) : (w.accepted.map Ticket.id).Nodup :=
  orderly.numbered ▸ List.nodup_range

theorem id_lt (orderly : w.Orderly) (accepted : ticket ∈ w.accepted)
    : ticket.id < w.scheduler.nextTicket := by
  have member := List.mem_map_of_mem (f := Ticket.id) accepted
  rw [orderly.numbered] at member
  exact List.mem_range.mp member

/-- An action without effect on the records changes futures at most by closing them. -/
theorem calm (orderly : w.Orderly) (sound : Sound next) (lanes : next.lanes = w.scheduler.lanes)
    (held : next.held = w.scheduler.held) (futures : FuturesFollow w.scheduler next)
    (nextTicket : next.nextTicket = w.scheduler.nextTicket)
    (registry : next.registry = w.scheduler.registry)
    : Orderly { w with scheduler := next } where
  sound := sound
  line := lanes ▸ orderly.line
  numbered := nextTicket ▸ orderly.numbered
  conserved := by
    simp only [lanes, held]
    exact orderly.conserved
  executed := held ▸ orderly.executed
  told := by
    simp only [lanes, held]
    exact orderly.told.follow registry fun ticket _ => futures ticket.id

/-- A ticket that is accepted is queued, and its future is new. -/
theorem accept (orderly : w.Orderly) (sound : Sound next) {task : Task}
    (pushed : w.scheduler.lanes.push? ⟨w.scheduler.nextTicket, task⟩ = some next.lanes)
    (held : next.held = w.scheduler.held)
    (futures : next.futures = w.scheduler.futures.insert w.scheduler.nextTicket .start)
    (nextTicket : next.nextTicket = w.scheduler.nextTicket + 1)
    (registry : next.registry = w.scheduler.registry)
    : Orderly
        { w with
          scheduler := next
          accepted := w.accepted ++ [⟨w.scheduler.nextTicket, task⟩] } := by
  obtain ⟨line, holds⟩ := orderly.line
  have perm := (Lanes.push?_eq_some pushed).2.2.append_right w.scheduler.held
  have older : Told next (w.scheduler.lanes.tickets ++ w.scheduler.held) w.finished w.dropped := by
    -- An older ticket has another number, so its future is the one that it had.
    refine orderly.told.follow registry fun ticket member => keepsFuture_of_eq ?_
    rw [futures]
    have lower := orderly.id_lt (orderly.conserved.mem_iff.mp member)
    exact SortedMap.get?_insert_of_ne _ (Nat.ne_of_lt lower) _
  refine {
    sound := sound
    line := ⟨_, holds.push pushed⟩
    numbered := ?_
    conserved := ?_
    executed := held ▸ orderly.executed
    told := { older with waiting := fun ticket member => ?_ }
  }
  · simp only [nextTicket, List.map_append, List.map_singleton, orderly.numbered, List.range_succ]
  · simp only [held]
    refine (perm.append_right _).trans ?_
    refine (orderly.conserved.cons _).trans ?_
    exact (List.perm_append_singleton _ _).symm
  · simp only [held] at member
    rcases List.mem_cons.mp (perm.mem_iff.mp member) with rfl | known
    · exact ⟨.start, futures ▸ SortedMap.get?_insert_self _ _ _, rfl⟩
    · exact older.waiting ticket known

/-- The tickets that are dropped when the lanes are closed were queued, so nobody works on them. -/
theorem close (orderly : w.Orderly)
    : Orderly
        { w with
          scheduler := w.scheduler.close
          dropped := w.dropped ++ w.scheduler.lanes.tickets } := by
  have none : w.scheduler.close.lanes.tickets = [] := rfl
  have held : w.scheduler.close.held = w.scheduler.held :=
    held_map fun v _ => ticket?_wake v
  have after (id : Nat) : w.scheduler.close.futures.get? id
      = (w.scheduler.futures.get? id).map fun f =>
          if (w.scheduler.lanes.tickets.map (·.id)).contains id then f.abandon else f :=
    SortedMap.get?_map _ _ _
  have others : Told w.scheduler.close w.scheduler.held w.finished w.dropped := by
    refine (orderly.told.of_subset (List.subset_append_right _ _)).follow rfl ?_
    intro ticket member
    have spared : (w.scheduler.lanes.tickets.map (·.id)).contains ticket.id = false := by
      have apart := fun queued waiting =>
        id_ne_of_perm orderly.distinct (List.append_assoc _ _ _ ▸ orderly.conserved)
          (t := queued) waiting member
      simpa using apart
    refine keepsFuture_of_eq ?_
    simp only [after, spared, Bool.false_eq_true, if_false, Option.map_id']
  refine {
    sound := orderly.sound.close
    line := ⟨⟨[], true⟩, fun p => by cases p <;> rfl, rfl, fun _ => rfl⟩
    numbered := orderly.numbered
    conserved := ?_
    executed := held ▸ orderly.executed
    told := ?_
  }
  · refine .trans ?_ orderly.conserved
    simp only [held, none, List.nil_append, List.append_assoc]
    rw [← List.append_assoc w.finished, ← List.append_assoc w.scheduler.held]
    exact List.perm_append_comm
  · simp only [held, none, List.nil_append]
    refine { others with abandoned := fun ticket member => ?_ }
    rcases List.mem_append.mp member with before | queued
    · exact others.abandoned ticket before
    · obtain ⟨f, found, pending⟩ := orderly.told.waiting ticket (by simp [queued])
      have listed : (w.scheduler.lanes.tickets.map (·.id)).contains ticket.id = true := by
        simpa using ⟨ticket, queued, rfl⟩
      refine ⟨f.abandon, ?_, by simp [Future.abandon, pending]⟩
      rw [after, found, Option.map_some, listed]
      rfl

/-- A ticket that a worker takes goes from the front of the lanes to the tickets that are held. -/
theorem take (orderly : w.Orderly) (sound : Sound next)
    (popped : w.scheduler.lanes.pop? = some (ticket, next.lanes))
    (held : next.held.Perm (ticket :: w.scheduler.held))
    (futures : next.futures = w.scheduler.futures)
    (nextTicket : next.nextTicket = w.scheduler.nextTicket)
    (registry : next.registry = w.scheduler.registry)
    : Orderly { w with scheduler := next, taken := w.taken ++ [ticket] } := by
  obtain ⟨line, holds⟩ := orderly.line
  obtain ⟨_, _, _, _, _, holds⟩ := holds.pop popped
  have moved : (next.lanes.tickets ++ next.held).Perm
      (w.scheduler.lanes.tickets ++ w.scheduler.held) := by
    rw [Lanes.tickets_of_pop? popped]
    exact (held.append_left _).trans List.perm_middle
  refine {
    sound := sound
    line := ⟨_, holds⟩
    numbered := nextTicket ▸ orderly.numbered
    conserved := (moved.append_right _).trans orderly.conserved
    executed := ?_
    told := ?_
  }
  · refine (held.append_right _).trans ?_
    exact (orderly.executed.cons ticket).trans (List.perm_append_singleton _ _).symm
  · refine (orderly.told.of_subset moved.subset).follow registry fun other _ => ?_
    exact keepsFuture_of_eq (by rw [futures])

/-- A ticket that is finished is held no more, and the future gets the completion of just this
ticket.
-/
theorem finish (orderly : w.Orderly) (sound : Sound next)
    (lanes : next.lanes = w.scheduler.lanes)
    (held : w.scheduler.held.Perm (ticket :: next.held))
    (futures
      : next.futures
        = (w.scheduler.changeFuture ticket.id fun f =>
            f.fulfil (w.scheduler.registry.answer ticket.task)).futures)
    (nextTicket : next.nextTicket = w.scheduler.nextTicket)
    (registry : next.registry = w.scheduler.registry)
    : Orderly { w with scheduler := next, finished := w.finished ++ [ticket] } := by
  have moved : (next.held ++ (w.finished ++ [ticket])).Perm (w.scheduler.held ++ w.finished) := by
    rw [← List.append_assoc]
    exact (List.perm_append_singleton _ _).trans (held.append_right _).symm
  have out : (w.scheduler.lanes.tickets ++ w.scheduler.held).Perm
      (ticket :: (next.lanes.tickets ++ next.held)) := by
    rw [lanes]
    exact (held.append_left _).trans List.perm_middle
  have others : Told next (next.lanes.tickets ++ next.held) w.finished w.dropped := by
    -- The others have other numbers, so their futures are the ones that they had.
    refine (orderly.told.of_subset fun other member => ?_).follow registry ?_
    · exact out.mem_iff.mpr (List.mem_cons_of_mem _ member)
    · intro other member
      have all
          : ([ticket] ++ (next.lanes.tickets ++ next.held ++ (w.finished ++ w.dropped))).Perm
              w.accepted :=
        (out.append_right _).symm.trans orderly.conserved
      have apart := id_ne_of_perm orderly.distinct all (List.mem_singleton_self _) member
      refine keepsFuture_of_eq ?_
      rw [futures, get?_changeFuture]
      simp [apart.symm]
  refine {
    sound := sound
    line := lanes ▸ orderly.line
    numbered := nextTicket ▸ orderly.numbered
    conserved := ?_
    executed := moved.trans orderly.executed
    told := { others with served := fun other member => ?_ }
  }
  · refine .trans ?_ orderly.conserved
    simp only [lanes, List.append_assoc]
    refine List.Perm.append_left _ ?_
    simpa only [List.append_assoc] using moved.append_right w.dropped
  · rcases List.mem_append.mp member with known | new
    · exact others.served other known
    · obtain rfl : other = ticket := by simpa using new
      obtain ⟨f, found, pending⟩ :=
        orderly.told.waiting other (out.mem_iff.mpr List.mem_cons_self)
      simp only [registry]
      refine ⟨f.fulfil (w.scheduler.registry.answer other.task), ?_,
        Future.served_fulfil pending _⟩
      rw [futures, get?_changeFuture, found]
      simp

/-- Every action leaves the tickets in order, by cases on what it comes to. -/
theorem perform (orderly : w.Orderly) (a : Action) : Orderly (w.perform a) := by
  have sound : Sound (w.perform a).scheduler :=
    w.scheduler_perform a ▸ orderly.sound.perform a
  have registry : (w.perform a).scheduler.registry = w.scheduler.registry :=
    w.scheduler_perform a ▸ registry_perform w.scheduler a
  have effect := effect_perform orderly.sound a
  generalize w.perform a = next at effect sound registry
  cases effect with
  | calm lanes held futures nextTicket _ =>
      exact orderly.calm sound lanes held futures nextTicket registry
  | accepts pushed held futures nextTicket _ =>
      exact orderly.accept sound pushed held futures nextTicket registry
  | takes popped held futures nextTicket _ =>
      exact orderly.take sound popped held futures nextTicket registry
  | finishes lanes held futures nextTicket _ =>
      exact orderly.finish sound lanes held futures nextTicket registry
  | closes => exact orderly.close

/-- The tickets are in order whatever happens, by induction on the actions. -/
theorem performAll (orderly : w.Orderly) (actions : List Action)
    : Orderly (w.performAll actions) := by
  induction actions generalizing w with
  | nil => exact orderly
  | cons a rest ih => exact ih (orderly.perform a)

end Orderly

-----------------------------------------------------------------------------------------
-- Places
-----------------------------------------------------------------------------------------

/-- Where an accepted ticket can be. -/
inductive Place where
  | queued (lane : Priority)
  | held (worker : Nat)
  | finished
  | dropped

/-- All places with the tickets that are there. -/
def places (w : Watch) : List (Place × Ticket) :=
  (Priority.descending.flatMap fun p => (w.scheduler.lanes.queue p).map (.queued p, ·))
    ++ ((w.scheduler.workers.flatMap fun v => v.ticket?.toList.map (.held v.id, ·))
      ++ (w.finished.map (.finished, ·) ++ w.dropped.map (.dropped, ·)))

theorem map_snd_places (w : Watch)
    : w.places.map Prod.snd
      = w.scheduler.lanes.tickets ++ w.scheduler.held ++ (w.finished ++ w.dropped) := by
  simp [places, Lanes.tickets, held, List.filterMap_eq_flatMap_toList, List.map_flatMap,
    Function.comp_def]

/-- Tickets of different numbers have one of each number. -/
theorem filter_id_eq {tickets : List Ticket} (distinct : (tickets.map Ticket.id).Nodup)
    (member : ticket ∈ tickets)
    : tickets.filter (·.id == ticket.id) = [ticket] := by
  obtain ⟨before, behind, rfl⟩ := List.append_of_mem member
  rw [List.map_append, List.map_cons] at distinct
  have fresh := (List.nodup_cons.mp (List.perm_middle.nodup_iff.mp distinct)).1
  have none {part : List Ticket} (within : part ⊆ before ++ behind)
      : part.filter (·.id == ticket.id) = [] := by
    refine List.filter_eq_nil_iff.mpr fun other known same => fresh ?_
    rw [← List.map_append, ← beq_iff_eq.mp same]
    exact List.mem_map_of_mem (within known)
  rw [List.filter_append, List.filter_cons, none (List.subset_append_left _ _),
    none (List.subset_append_right _ _)]
  simp

namespace Orderly

/-- An accepted ticket is at one place, once, and if it is queued, in the lane of its priority. -/
theorem exists_place (orderly : w.Orderly) (accepted : ticket ∈ w.accepted)
    : ∃ place,
        w.places.filter (·.2.id == ticket.id) = [(place, ticket)]
        ∧ ∀ lane, place = .queued lane → ticket.task.priority = lane := by
  have there : (w.places.filter (·.2.id == ticket.id)).map Prod.snd = [ticket] := by
    have perm := w.map_snd_places ▸ orderly.conserved
    have alone := filter_id_eq orderly.distinct accepted
    have same := perm.filter (·.id == ticket.id)
    rw [alone, List.filter_map] at same
    exact List.perm_singleton.mp same
  obtain ⟨⟨place, mine⟩, found, rfl⟩ := List.map_eq_singleton_iff.mp there
  refine ⟨place, found, ?_⟩
  rintro lane rfl
  have member : (.queued lane, mine) ∈ w.places :=
    (List.mem_filter.mp (found ▸ List.mem_singleton_self _)).1
  have waiting : lane ∈ Priority.descending ∧ mine ∈ w.scheduler.lanes.queue lane := by
    simpa [places] using member
  obtain ⟨line, holds⟩ := orderly.line
  exact holds.priority_eq waiting.2

/-- A ticket that was taken is held or finished, and was taken once. -/
theorem nodup_taken (orderly : w.Orderly) : (w.taken.map Ticket.id).Nodup := by
  refine (orderly.executed.map Ticket.id).nodup_iff.mp ?_
  refine List.Nodup.sublist ?_ ((orderly.conserved.map Ticket.id).nodup_iff.mpr orderly.distinct)
  refine List.Sublist.map _ ?_
  exact (List.sublist_append_right _ _).append (List.sublist_append_left _ _)

/-- A wait yields a completion only for a ticket that is finished, and only its own. -/
theorem wait_eq_ok (orderly : w.Orderly) (accepted : ticket ∈ w.accepted) {result : Completion}
    (yields : (w.scheduler.wait ticket.id).1 = .ok result)
    : ticket ∈ w.finished ∧ result = w.scheduler.registry.answer ticket.task := by
  have member := orderly.conserved.mem_iff.mpr accepted
  rcases List.mem_append.mp member with out | done
  · obtain ⟨f, pending, same⟩ := (orderly.told.waiting ticket out).wait_eq
    rcases Future.wait_of_pending pending with timeout | closed
    · simp [same, timeout] at yields
    · simp [same, closed] at yields
  · rcases List.mem_append.mp done with finished | dropped
    · obtain ⟨f, served, same⟩ := (orderly.told.served ticket finished).wait_eq
      rcases served.wait_eq with own | closed
      · rw [same, own] at yields
        exact ⟨finished, (Except.ok.inj yields).symm⟩
      · simp [same, closed] at yields
    · obtain ⟨f, abandoned, same⟩ := (orderly.told.abandoned ticket dropped).wait_eq
      simp [same, Future.wait_of_abandoned abandoned] at yields

theorem wait_of_dropped (orderly : w.Orderly) (dropped : ticket ∈ w.dropped)
    : (w.scheduler.wait ticket.id).1 = .error .closed := by
  obtain ⟨f, abandoned, same⟩ := (orderly.told.abandoned ticket dropped).wait_eq
  rw [same, Future.wait_of_abandoned abandoned]

end Orderly

end Watch

-----------------------------------------------------------------------------------------
-- Runs
-----------------------------------------------------------------------------------------

/-- What the calls that queue tasks and wait for them make of a scheduler. -/
inductive Called (s : Scheduler) : Scheduler → Prop
  | enqueueOne {task id queued} (accepted : s.enqueueOne task = .ok (id, queued)) : Called s queued
  | enqueueEach {tasks ids queued} (accepted : s.enqueueEach tasks = .ok (ids, queued))
    : Called s queued
  | done (task : Task) : Called s (s.done task).2
  | doneEach (tasks : Batch) : Called s (s.doneEach tasks).2

theorem Called.changes (called : Called s next) : Changes s next := by
  cases called with
  | enqueueOne accepted => exact .single (.enqueue accepted)
  | enqueueEach accepted => exact changes_enqueueEach accepted
  | done task => exact changes_done s task
  | doneEach tasks => exact changes_doneEach s tasks

/-- A task that is accepted is executed at most once and answered only with its own outcome. From
the start on, whatever happens in whatever order, the tickets that were accepted are numbered in
turn, and each of them is at one place, once: in the lane of its priority, with one worker,
finished, or dropped. No ticket is taken twice, a handler notes what it notes once for each ticket
that is taken, and a wait yields no completion but that of its own ticket once it is finished, and
never one for a ticket that was dropped. The calls that queue tasks and wait for them are among what
happens, and they answer with no completion but that of the task they were given.
-/
theorem executed_at_most_once (registry : Registry) (expire : Duration) (actions : List Action)
    : let w := (Watch.start (create registry expire)).performAll actions
      w.accepted.map Ticket.id = List.range w.scheduler.nextTicket
      ∧ (∀ ticket ∈ w.accepted, ∃ place,
          w.places.filter (·.2.id == ticket.id) = [(place, ticket)]
          ∧ ∀ lane, place = .queued lane → ticket.task.priority = lane)
      ∧ (w.taken.map Ticket.id).Nodup
      ∧ w.taken.Perm (w.scheduler.held ++ w.finished)
      ∧ w.scheduler.log = w.taken.flatMap registry.notes
      ∧ (∀ ticket ∈ w.accepted, ∀ result, (w.scheduler.wait ticket.id).1 = .ok result
          → ticket ∈ w.finished ∧ Completes registry ticket.task result)
      ∧ (∀ ticket ∈ w.dropped, (w.scheduler.wait ticket.id).1 = .error .closed)
      ∧ (∀ next, Called w.scheduler next
          → ∃ more, (w.performAll more).scheduler = next)
      ∧ (∀ task result, (w.scheduler.done task).1 = .ok result → Completes registry task result)
      ∧ (∀ tasks outcomes index result, (w.scheduler.doneEach tasks).1 = .ok outcomes
          → outcomes.get? index = some (.ok result)
          → ∃ task, tasks.get? index = some task ∧ Completes registry task result) := by
  intro w
  have orderly : w.Orderly := (Watch.orderly_start registry expire).performAll actions
  have handlers : w.scheduler.registry = registry :=
    (Watch.start (create registry expire)).registry_performAll actions
  refine ⟨orderly.numbered, fun ticket accepted => orderly.exists_place accepted,
    orderly.nodup_taken, orderly.executed.symm, ?_, ?_,
    fun ticket dropped => orderly.wait_of_dropped dropped, ?_, ?_, ?_⟩
  · obtain ⟨taken, all, noted⟩ :=
      Watch.exists_taken_performAll (w := .start (create registry expire))
        (sound_create registry expire) actions
    exact all ▸ noted
  · intro ticket accepted result yields
    obtain ⟨finished, rfl⟩ := orderly.wait_eq_ok accepted yields
    exact ⟨finished, handlers ▸ completes_answer _ _⟩
  · intro next called
    obtain ⟨more, reached⟩ := Changes.exists_actions called.changes orderly.sound
    exact ⟨more, (w.scheduler_performAll more).trans reached⟩
  · intro task result answered
    rw [done_eq_ok orderly.sound answered, handlers]
    exact completes_answer registry task
  · intro tasks outcomes index result answered found
    obtain ⟨task, listed, own⟩ := doneEach_eq_ok orderly.sound answered found
    exact ⟨task, listed, own ▸ handlers ▸ completes_answer _ task⟩

end Scheduler

end TaskFabric
