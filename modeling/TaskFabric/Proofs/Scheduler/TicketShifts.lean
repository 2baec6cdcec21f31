import TaskFabric.Proofs.Scheduler.Wakeups
import TaskFabric.Proofs.Scheduler.Whereabouts

/-! The tickets that are out, queued or held, and what one critical section can do to them. Some
fresh ones are accepted, some are settled, finished or dropped, and all others only change hands.
Tickets that are out wait for their completions, and one that was finished keeps its own.
-/

namespace TaskFabric.Scheduler

variable {s next : Scheduler} {w : Worker} {ticket : Ticket}

-----------------------------------------------------------------------------------------
-- Tickets that are out
-----------------------------------------------------------------------------------------

/-- The tickets that are queued or that workers hold. -/
def out (s : Scheduler) : List Ticket := s.lanes.tickets ++ s.held

/-- Tickets that are out have numbers of their own, and nothing has been delivered for them. -/
structure Pending (s : Scheduler) : Prop where
  distinct : (s.out.map Ticket.id).Nodup
  issued : ∀ ticket ∈ s.out, ticket.id < s.nextTicket
  waiting : ∀ ticket ∈ s.out, s.FutureIs ticket (·.delivery = .pending)

/-- A ticket is out no more, and its future has the result unless it was released before. -/
structure Answered (s : Scheduler) (ticket : Ticket) (result : Completion) : Prop where
  issued : ticket.id < s.nextTicket
  gone : ∀ other ∈ s.out, other.id ≠ ticket.id
  served : s.FutureIs ticket (·.Served result)

/-- Some fresh tickets are accepted and some settled ones are out no more; the futures of all others
tell what they told before.
-/
structure Shift (s next : Scheduler) (fresh settled : List Ticket) : Prop where
  conserved : (settled ++ next.out).Perm (fresh ++ s.out)
  numbered : fresh.map Ticket.id = List.range' s.nextTicket fresh.length
  nextTicket : next.nextTicket = s.nextTicket + fresh.length
  waiting : ∀ ticket ∈ fresh, next.FutureIs ticket (·.delivery = .pending)
  kept
    : ∀ ticket, ticket.id < s.nextTicket → (∀ other ∈ settled, other.id ≠ ticket.id)
      → KeepsFuture s next ticket

namespace Shift

variable {fresh settled : List Ticket}

theorem le_id (shift : Shift s next fresh settled) (new : ticket ∈ fresh)
    : s.nextTicket ≤ ticket.id := by
  have listed := List.mem_map_of_mem (f := Ticket.id) new
  rw [shift.numbered, List.mem_range'_1] at listed
  exact listed.1

theorem id_lt (shift : Shift s next fresh settled) (new : ticket ∈ fresh)
    : ticket.id < next.nextTicket := by
  have listed := List.mem_map_of_mem (f := Ticket.id) new
  rw [shift.numbered, List.mem_range'_1] at listed
  exact shift.nextTicket ▸ listed.2

/-- Fresh tickets have other numbers than those that are out. -/
theorem distinct (shift : Shift s next fresh settled) (pending : Pending s)
    : ((settled ++ next.out).map Ticket.id).Nodup := by
  refine (shift.conserved.map Ticket.id).nodup_iff.mpr ?_
  rw [List.map_append]
  refine List.nodup_append.mpr ⟨shift.numbered ▸ List.nodup_range', pending.distinct, ?_⟩
  intro id new other known same
  obtain ⟨t, member, rfl⟩ := List.mem_map.mp new
  obtain ⟨u, out, rfl⟩ := List.mem_map.mp known
  have lower := shift.le_id member
  have upper := pending.issued u out
  omega

theorem pending (shift : Shift s next fresh settled) (pending : Pending s) : Pending next := by
  have distinct := shift.distinct pending
  rw [List.map_append] at distinct
  obtain ⟨_, others, apart⟩ := List.nodup_append.mp distinct
  have origin {ticket} (out : ticket ∈ next.out) : ticket ∈ fresh ∨ ticket ∈ s.out :=
    List.mem_append.mp (shift.conserved.mem_iff.mp (List.mem_append_right settled out))
  refine ⟨others, fun ticket out => ?_, fun ticket out => ?_⟩
  · rcases origin out with new | known
    · exact shift.id_lt new
    · rw [shift.nextTicket]
      exact Nat.lt_add_right _ (pending.issued ticket known)
  · rcases origin out with new | known
    · exact shift.waiting ticket new
    · refine (pending.waiting ticket known).follow (shift.kept ticket ?_ ?_) ?_
      · exact pending.issued ticket known
      · exact fun other done =>
          apart _ (List.mem_map_of_mem done) _ (List.mem_map_of_mem out)
      · exact fun _ _ waits same => same.1.trans waits

theorem answered (shift : Shift s next fresh settled) {result : Completion}
    (answered : Answered s ticket result)
    : Answered next ticket result := by
  -- Whatever was or is out has another number.
  have apart {other} (member : other ∈ settled ++ next.out) : other.id ≠ ticket.id := by
    rcases List.mem_append.mp (shift.conserved.mem_iff.mp member) with new | known
    · exact Nat.ne_of_gt (Nat.lt_of_lt_of_le answered.issued (shift.le_id new))
    · exact answered.gone other known
  refine ⟨?_, fun other out => apart (List.mem_append_right _ out), ?_⟩
  · rw [shift.nextTicket]
    exact Nat.lt_add_right _ answered.issued
  · refine answered.served.follow (shift.kept ticket answered.issued ?_) ?_
    · exact fun other done => apart (List.mem_append_left _ done)
    · exact fun _ _ served same => served.follows same

end Shift

-----------------------------------------------------------------------------------------
-- What shifts tickets
-----------------------------------------------------------------------------------------

theorem pending_create (registry : Registry) (expire : Duration)
    : Pending (create registry expire) := by
  constructor <;> simp [create, out, held, Lanes.empty, Lanes.tickets_eq]

/-- Tickets may change hands as long as none is accepted or settled. -/
theorem shift_of_perm (same : next.out.Perm s.out) (nextTicket : next.nextTicket = s.nextTicket)
    (futures : FuturesFollow s next)
    : Shift s next [] [] where
  conserved := same
  numbered := rfl
  nextTicket := nextTicket
  waiting := by simp
  kept ticket _ _ := futures ticket.id

theorem shift_push {task : Task} {lanes : Lanes}
    (pushed : s.lanes.push? ⟨s.nextTicket, task⟩ = some lanes)
    : Shift s
        { s with
          lanes
          futures := s.futures.insert s.nextTicket .start
          nextTicket := s.nextTicket + 1 }
        [⟨s.nextTicket, task⟩] [] where
  conserved := (Lanes.push?_eq_some pushed).2.2.append_right _
  numbered := rfl
  nextTicket := rfl
  waiting ticket new := by
    obtain rfl := List.mem_singleton.mp new
    exact ⟨.start, SortedMap.get?_insert_self _ _ _, rfl⟩
  kept ticket older _ :=
    keepsFuture_of_eq (SortedMap.get?_insert_of_ne _ (Nat.ne_of_lt older) _)

theorem shift_shut (s : Scheduler) : Shift s s.shut [] s.lanes.tickets where
  conserved := .refl _
  numbered := rfl
  nextTicket := rfl
  waiting := by simp
  kept ticket _ apart := by
    have spared : (s.lanes.tickets.map (·.id)).contains ticket.id = false := by
      simpa using apart
    refine keepsFuture_of_eq ?_
    simp only [shut, SortedMap.get?_map, spared, Bool.false_eq_true, if_false, Option.map_id']

/-- A ticket that is taken goes from the lanes to the tickets that are held. -/
theorem shift_look (distinct : (s.workers.map Worker.id).Nodup) {v : Worker}
    (member : v ∈ s.workers) (same : v.id = w.id) (idle : v.activity = .awake)
    (awake : w.activity = .awake)
    : Shift s (s.look w) [] [] := by
  obtain ⟨others, before, after⟩ := held_changeWorker distinct member
  have none : v.ticket? = none := by simp [Worker.ticket?, idle]
  have turn := turn_look (s := s) awake
  generalize s.look w = next at turn
  rw [same] at after
  simp only [none, Option.toList_none, List.nil_append] at before
  cases turn with
  | leave _ _ =>
      have kept : (s.changeWorker w.id fun v => { v with activity := .exited }).held.Perm s.held :=
        (after _ : List.Perm _ others).trans before.symm
      exact shift_of_perm (kept.append_left _) rfl (futuresFollow_of_eq rfl)
  | sleep _ _ _ =>
      have kept : (s.changeWorker w.id fun v => { v with activity := .asleep }).held.Perm s.held :=
        (after _ : List.Perm _ others).trans before.symm
      exact shift_of_perm (kept.append_left _) rfl (futuresFollow_of_eq rfl)
  | @take ticket lanes log gate _ _ popped _ =>
      refine shift_of_perm ?_ rfl (futuresFollow_of_eq rfl)
      have left := (Lanes.pop?_eq_some popped).2
      refine ((after _).append_left _).trans ?_
      refine List.perm_middle.trans ?_
      exact (left.symm.append_right _).trans (before.symm.append_left _)
  | finish busy => simp [awake] at busy
  | rest _ resting => exact absurd awake resting

/-- A ticket that is finished is out no more, and no other future changes. -/
theorem shift_finish (distinct : (s.workers.map Worker.id).Nodup) (member : w ∈ s.workers)
    {handler : Option Handler} (busy : w.activity = .busy ticket handler)
    : Shift s (s.finish w) [] [ticket] := by
  obtain ⟨others, before, after⟩ := held_changeWorker distinct member
  simp only [Worker.ticket?, busy, Option.toList_some, List.singleton_append] at before
  simp only [finish, busy]
  refine {
    conserved := ?_
    numbered := rfl
    nextTicket := rfl
    waiting := by simp
    kept := ?_
  }
  · let freed := s.changeWorker w.id fun w => { w with activity := .awake }
    have moved : (ticket :: freed.held).Perm s.held :=
      ((after _ : freed.held.Perm others).cons ticket).trans before.symm
    have all : (ticket :: (s.lanes.tickets ++ freed.held)).Perm s.out :=
      List.perm_middle.symm.trans (moved.append_left s.lanes.tickets)
    exact all
  · intro other _ apart
    have different : other.id ≠ ticket.id := fun same => apart ticket (by simp) same.symm
    refine keepsFuture_of_eq ?_
    exact (s.get?_changeFuture ticket.id other.id _).trans (by simp [different])

/-- The future of a ticket that is finished gets its completion. -/
theorem answered_finish (pending : Pending s) (distinct : (s.workers.map Worker.id).Nodup)
    (member : w ∈ s.workers) {handler : Option Handler} (busy : w.activity = .busy ticket handler)
    : Answered (s.finish w) ticket (completion handler ticket.task) := by
  have shift := shift_finish distinct member busy
  have out : ticket ∈ s.out := by
    refine List.mem_append_right _ (List.mem_filterMap.mpr ⟨w, member, ?_⟩)
    simp [Worker.ticket?, busy]
  have apart := shift.distinct pending
  rw [List.singleton_append, List.map_cons] at apart
  refine ⟨?_, fun other known same => ?_, ?_⟩
  · rw [shift.nextTicket]
    exact pending.issued ticket out
  · exact (List.nodup_cons.mp apart).1 (same ▸ List.mem_map_of_mem known)
  · obtain ⟨f, found, waits⟩ := pending.waiting ticket out
    refine ⟨f.fulfil (completion handler ticket.task), ?_, Future.served_fulfil waits _⟩
    simp only [finish, busy]
    exact (s.get?_changeFuture ticket.id ticket.id _).trans (by simp [found])

end TaskFabric.Scheduler
