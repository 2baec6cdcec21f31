import TaskFabric.Proofs.Scheduler.LaneContents

/-! The lanes as one line. The tickets that are queued stand in the order in which they were pushed,
and each lane is the part of that line that has one priority, so what is popped is the first ticket
of the line among those of the most urgent priority there is.
-/

namespace TaskFabric

-----------------------------------------------------------------------------------------
-- The order of priorities
-----------------------------------------------------------------------------------------

namespace Priority

theorem mem_descending (p : Priority) : p ∈ descending := by
  cases p <;> decide

theorem pairwise_descending : descending.Pairwise fun p q => p.lane < q.lane := by
  decide

theorem lane_injective {p q : Priority} (same : p.lane = q.lane) : p = q := by
  revert same
  cases p <;> cases q <;> decide

/-- A more urgent priority stands in front of a less urgent one. -/
theorem mem_before_of_lt {before behind : List Priority} {p q : Priority}
    (parts : descending = before ++ p :: behind) (urgent : q.lane < p.lane)
    : q ∈ before := by
  have ordered := pairwise_descending
  have member := mem_descending q
  rw [parts] at ordered member
  rcases List.mem_append.mp member with front | back
  · exact front
  · rcases List.mem_cons.mp back with rfl | later
    · exact absurd urgent (Nat.lt_irrefl _)
    · have lower := List.rel_of_pairwise_cons (List.pairwise_append.mp ordered).2.1 later
      omega

end Priority

namespace Lanes

-----------------------------------------------------------------------------------------
-- Single lanes
-----------------------------------------------------------------------------------------

variable {l next : Lanes} {ticket : Ticket}

theorem queue_setQueue (l : Lanes) (p q : Priority) (tickets : List Ticket)
    : (l.setQueue p tickets).queue q = if q = p then tickets else l.queue q := by
  cases p <;> cases q <;> rfl

theorem queue_of_push? (pushed : l.push? ticket = some next) (p : Priority)
    : next.queue p = if p = ticket.task.priority then l.queue p ++ [ticket] else l.queue p := by
  obtain ⟨isOpen, _, _⟩ := push?_eq_some pushed
  simp only [push?, isOpen, Bool.false_eq_true, if_false, Option.some.injEq] at pushed
  rw [← pushed, queue_setQueue]
  split
  · next same => rw [same]
  · rfl

/-- What is popped is the first ticket of its lane, and the more urgent lanes are empty. -/
theorem pop?_parts (popped : l.pop? = some (ticket, next))
    : ∃ before p behind rest,
        Priority.descending = before ++ p :: behind
        ∧ (∀ q ∈ before, l.queue q = [])
        ∧ l.queue p = ticket :: rest
        ∧ next = l.setQueue p rest := by
  unfold pop? at popped
  split at popped
  · next p found =>
      obtain ⟨_, before, behind, parts, empty⟩ := List.find?_eq_some_iff_append.mp found
      split at popped
      · next rest waiting =>
          simp only [Option.some.injEq, Prod.mk.injEq] at popped
          obtain ⟨rfl, rfl⟩ := popped
          exact ⟨before, p, behind, rest, parts, by simpa using empty, waiting, rfl⟩
      · cases popped
  · cases popped

/-- What is popped is the first of all tickets, the most urgent lane first. -/
theorem tickets_of_pop? (popped : l.pop? = some (ticket, next))
    : l.tickets = ticket :: next.tickets := by
  obtain ⟨before, p, behind, rest, parts, empty, waiting, rfl⟩ := pop?_parts popped
  have distinct : (before ++ p :: behind).Nodup := by
    rw [← parts]
    decide
  obtain ⟨_, distinct, apart⟩ := List.nodup_append.mp distinct
  have others {q : Priority} (other : q ≠ p) : (l.setQueue p rest).queue q = l.queue q := by
    rw [queue_setQueue, if_neg other]
  have front : before.flatMap (l.setQueue p rest).queue = [] := by
    refine List.flatMap_eq_nil_iff.mpr ?_
    intro q member
    rw [others (apart q member p List.mem_cons_self)]
    exact empty q member
  have back : behind.flatMap (l.setQueue p rest).queue = behind.flatMap l.queue := by
    rw [List.flatMap_def, List.flatMap_def]
    refine congrArg List.flatten (List.map_congr_left ?_)
    intro q member
    exact others fun same => (List.nodup_cons.mp distinct).1 (same ▸ member)
  simp only [tickets, parts, List.flatMap_append, List.flatMap_cons, front, back,
    List.flatMap_eq_nil_iff.mpr empty, waiting, queue_setQueue_self, List.nil_append,
    List.cons_append]

-----------------------------------------------------------------------------------------
-- Operations
-----------------------------------------------------------------------------------------

/-- What can be done to lanes. A pop comes with the quit flag of its worker. -/
inductive Op where
  | push (ticket : Ticket)
  | pop (quit : Bool)
  | depth
  | close

/-- What is answered to it: a pop that finds open lanes without tickets waits. -/
inductive Answer where
  | queued
  | handedBack (ticket : Ticket)
  | popped (ticket : Ticket)
  | nothing
  | waits
  | depths (counts : List Nat)
  | dropped (count : Nat)

/-- How closed lanes answer. -/
def Op.refusal : Op → Answer
  | .push ticket => .handedBack ticket
  | .pop _ => .nothing
  | .depth => .depths (Priority.descending.map fun _ => 0)
  | .close => .dropped 0

/-- Does something to lanes. -/
def perform (l : Lanes) : Op → Answer × Lanes
  | .push ticket =>
      match l.push? ticket with
      | some next => (.queued, next)
      | none => (.handedBack ticket, l)
  | .pop quit =>
      if quit then (.nothing, l)
      else
        match l.pop? with
        | some (ticket, next) => (.popped ticket, next)
        | none => (if l.closed then .nothing else .waits, l)
  | .depth => (.depths (Priority.descending.map l.depth), l)
  | .close => (.dropped l.total, l.close)

/-- Does several things to lanes, one after another. -/
def performAll (l : Lanes) : List Op → List Answer × Lanes
  | [] => ([], l)
  | op :: rest =>
      ((l.perform op).1 :: ((l.perform op).2.performAll rest).1,
        ((l.perform op).2.performAll rest).2)

-----------------------------------------------------------------------------------------
-- One line
-----------------------------------------------------------------------------------------

/-- Tickets in the order in which they were pushed, and whether no more are taken. -/
structure Line where
  tickets : List Ticket
  closed : Bool

/-- How many tickets of a line have a priority. -/
def Line.count (line : Line) (p : Priority) : Nat :=
  line.tickets.countP (·.task.priority = p)

/-- Every ticket has one of the priorities, by induction on the tickets. -/
theorem Line.length_eq (line : Line)
    : line.tickets.length
      = line.count .urgent + line.count .high + line.count .medium + line.count .low
        + line.count .base := by
  obtain ⟨tickets, closed⟩ := line
  simp only [count]
  induction tickets with
  | nil => rfl
  | cons ticket rest ih =>
      rw [List.length_cons, ih]
      cases priority : ticket.task.priority <;> simp [priority] <;> omega

/-- How a line answers: a pop takes the first ticket of the most urgent priority there is, which is
the one of a lower lane than all in front of it.
-/
inductive Line.Step (line : Line) : Op → Answer → Line → Prop
  | push {ticket : Ticket} (isOpen : line.closed = false)
    : Step line (.push ticket) .queued { line with tickets := line.tickets ++ [ticket] }
  | handBack {ticket : Ticket} (shut : line.closed = true)
    : Step line (.push ticket) (.handedBack ticket) line
  | quit : Step line (.pop true) .nothing line
  | pop {before : List Ticket} {ticket : Ticket} {behind : List Ticket}
    (parts : line.tickets = before ++ ticket :: behind)
    (highest : ∀ other ∈ line.tickets, ticket.task.priority.lane ≤ other.task.priority.lane)
    (earliest : ∀ other ∈ before, ticket.task.priority.lane < other.task.priority.lane)
    : Step line (.pop false) (.popped ticket) { line with tickets := before ++ behind }
  | wait (empty : line.tickets = []) (isOpen : line.closed = false)
    : Step line (.pop false) .waits line
  | leave (empty : line.tickets = []) (shut : line.closed = true)
    : Step line (.pop false) .nothing line
  | depth : Step line .depth (.depths (Priority.descending.map line.count)) line
  | close : Step line .close (.dropped line.tickets.length) ⟨[], true⟩

/-- How a line answers to several things, one after another. -/
inductive Line.Run : Line → List Op → List Answer → Line → Prop
  | nil {line} : Run line [] [] line
  | cons {line op answer middle ops answers last} (step : line.Step op answer middle)
    (rest : Run middle ops answers last)
    : Run line (op :: ops) (answer :: answers) last

/-- Lanes hold a line: each lane is the part of it that has its priority. -/
structure Holds (l : Lanes) (line : Line) : Prop where
  queue : ∀ p, l.queue p = line.tickets.filter (·.task.priority = p)
  closed : l.closed = line.closed
  shut : line.closed = true → line.tickets = []

theorem holds_empty : empty.Holds ⟨[], false⟩ where
  queue p := by cases p <;> rfl
  closed := rfl
  shut := nofun

namespace Holds

variable {line : Line}

theorem mem_queue (holds : l.Holds line) (member : ticket ∈ line.tickets)
    : ticket ∈ l.queue ticket.task.priority := by
  rw [holds.queue]
  exact List.mem_filter.mpr ⟨member, by simp⟩

theorem priority_eq (holds : l.Holds line) {p : Priority} (member : ticket ∈ l.queue p)
    : ticket.task.priority = p := by
  rw [holds.queue] at member
  simpa using (List.mem_filter.mp member).2

theorem depth_eq (holds : l.Holds line) (p : Priority) : l.depth p = line.count p := by
  simp [depth, Line.count, holds.queue, List.countP_eq_length_filter]

theorem total_eq (holds : l.Holds line) : l.total = line.tickets.length := by
  rw [line.length_eq, total, tickets_eq]
  simp only [List.length_append, ← holds.depth_eq, depth, Lanes.queue]
  omega

theorem tickets_eq_nil_iff (holds : l.Holds line) : l.tickets = [] ↔ line.tickets = [] := by
  rw [← List.length_eq_zero_iff, ← List.length_eq_zero_iff, ← holds.total_eq, total]

/-- A ticket that is pushed stands behind all others, and behind those of its lane. -/
theorem push (holds : l.Holds line) (pushed : l.push? ticket = some next)
    : next.Holds { line with tickets := line.tickets ++ [ticket] } := by
  obtain ⟨wasOpen, isOpen, _⟩ := push?_eq_some pushed
  refine ⟨?_, ?_, ?_⟩
  · intro p
    rw [queue_of_push? pushed, holds.queue, List.filter_append]
    split
    · next same => simp [same]
    · next other => simp [Ne.symm other]
  · exact isOpen.trans (wasOpen.symm.trans holds.closed)
  · intro shut
    have wasShut := holds.closed.trans shut
    rw [wasOpen] at wasShut
    cases wasShut

/-- What is popped is the first ticket of its priority in the line, and no other is gone. -/
theorem pop (holds : l.Holds line) (popped : l.pop? = some (ticket, next))
    : ∃ before behind,
        line.tickets = before ++ ticket :: behind
        ∧ (∀ other ∈ line.tickets, ticket.task.priority.lane ≤ other.task.priority.lane)
        ∧ (∀ other ∈ before, ticket.task.priority.lane < other.task.priority.lane)
        ∧ next.Holds { line with tickets := before ++ behind } := by
  obtain ⟨_, p, _, rest, order, empty, waiting, rfl⟩ := pop?_parts popped
  have mine : ticket.task.priority = p := holds.priority_eq (by simp [waiting])
  have parts := holds.queue p
  rw [waiting] at parts
  obtain ⟨before, behind, split, others, _, remain⟩ := List.filter_eq_cons_iff.mp parts.symm
  have highest : ∀ other ∈ line.tickets, ticket.task.priority.lane ≤ other.task.priority.lane := by
    intro other member
    rw [mine]
    refine Nat.le_of_not_lt fun urgent => ?_
    have queued := holds.mem_queue member
    rw [empty _ (Priority.mem_before_of_lt order urgent)] at queued
    cases queued
  refine ⟨before, behind, split, highest, ?_, ?_⟩
  · intro other member
    have atMost := highest other (by simp [split, member])
    have different : other.task.priority ≠ p := by simpa using others other member
    refine Nat.lt_of_le_of_ne atMost fun same => different ?_
    exact (Priority.lane_injective same).symm.trans mine
  · refine ⟨?_, ?_, ?_⟩
    · intro q
      rw [queue_setQueue, List.filter_append]
      split
      · next same =>
          subst same
          rw [List.filter_eq_nil_iff.mpr others, ← remain, List.nil_append]
      · next other =>
          rw [holds.queue, split, List.filter_append, List.filter_cons]
          simp [mine, Ne.symm other]
    · exact (closed_setQueue l p rest).trans holds.closed
    · intro shut
      have none := holds.shut shut
      simp [split] at none

/-- Whatever is done to lanes that hold a line, they answer as the line does and hold what becomes
of it, by cases on what is done.
-/
theorem step (holds : l.Holds line) (op : Op)
    : ∃ next, line.Step op (l.perform op).1 next ∧ (l.perform op).2.Holds next := by
  cases op with
  | push ticket =>
      cases shut : l.closed with
      | true =>
          have refused : l.push? ticket = none := by simp [push?, shut]
          simp only [perform, refused]
          exact ⟨line, .handBack (holds.closed.symm.trans shut), holds⟩
      | false =>
          obtain ⟨next, pushed⟩ := exists_push? shut ticket
          simp only [perform, pushed]
          exact ⟨_, .push (holds.closed.symm.trans shut), holds.push pushed⟩
  | pop quit =>
      cases quit with
      | true => exact ⟨line, .quit, holds⟩
      | false =>
          simp only [perform, Bool.false_eq_true, if_false]
          cases popped : l.pop? with
          | none =>
              have empty := holds.tickets_eq_nil_iff.mp (pop?_eq_none_iff.mp popped)
              refine ⟨line, ?_, holds⟩
              cases shut : l.closed with
              | true => exact .leave empty (holds.closed.symm.trans shut)
              | false => exact .wait empty (holds.closed.symm.trans shut)
          | some result =>
              obtain ⟨ticket, next⟩ := result
              obtain ⟨before, behind, parts, highest, earliest, holds⟩ := holds.pop popped
              exact ⟨_, .pop parts highest earliest, holds⟩
  | depth =>
      have counts : Priority.descending.map l.depth = Priority.descending.map line.count :=
        List.map_congr_left fun p _ => holds.depth_eq p
      simp only [perform, counts]
      exact ⟨line, .depth, holds⟩
  | close =>
      simp only [perform, holds.total_eq]
      exact ⟨⟨[], true⟩, .close, fun p => by cases p <;> rfl, rfl, fun _ => rfl⟩

/-- The same for several things one after another, by induction on them. -/
theorem run (holds : l.Holds line) (ops : List Op)
    : ∃ last, Line.Run line ops (l.performAll ops).1 last ∧ (l.performAll ops).2.Holds last := by
  induction ops generalizing l line with
  | nil => exact ⟨line, .nil, holds⟩
  | cons op rest ih =>
      obtain ⟨middle, step, holds⟩ := holds.step op
      obtain ⟨last, run, holds⟩ := ih holds
      exact ⟨last, .cons step run, holds⟩

/-- A task that is more urgent overtakes one that was pushed before. -/
example (low urgent : Task) (first : low.priority = .low) (second : urgent.priority = .urgent)
    : (empty.performAll [.push ⟨0, low⟩, .push ⟨1, urgent⟩, .pop true, .pop false, .pop false]).1
      = [.queued, .queued, .nothing, .popped ⟨1, urgent⟩, .popped ⟨0, low⟩] := by
  cases low
  cases urgent
  cases first
  cases second
  rfl

/-- Closed lanes refuse whatever is done to them and stay as they are, by cases on what is done. -/
theorem perform_of_closed (holds : l.Holds line) (shut : l.closed = true) (op : Op)
    : l.perform op = (op.refusal, l) := by
  have empty : l.tickets = [] :=
    holds.tickets_eq_nil_iff.mpr (holds.shut (holds.closed.symm.trans shut))
  have queues : ∀ p, l.queue p = [] := fun p =>
    List.flatMap_eq_nil_iff.mp empty p (Priority.mem_descending p)
  cases op with
  | push ticket => simp [perform, push?, shut, Op.refusal]
  | pop quit => cases quit <;> simp [perform, pop?_eq_none_iff.mpr empty, shut, Op.refusal]
  | depth =>
      have counts : Priority.descending.map l.depth = Priority.descending.map fun _ => 0 :=
        List.map_congr_left fun p _ => by rw [depth, queues, List.length_nil]
      simp only [perform, counts, Op.refusal]
  | close =>
      have same : l.close = l := by
        rw [tickets_eq] at empty
        simp only [List.append_eq_nil_iff] at empty
        obtain ⟨urgent, high, medium, low, base⟩ := empty
        cases l
        simp_all [close, Lanes.empty]
      simp [perform, same, total, empty, Op.refusal]

/-- The same for several things one after another, by induction on them. -/
theorem performAll_of_closed (holds : l.Holds line) (shut : l.closed = true) (ops : List Op)
    : l.performAll ops = (ops.map Op.refusal, l) := by
  induction ops with
  | nil => rfl
  | cons op rest ih => simp only [performAll, holds.perform_of_closed shut op, ih, List.map_cons]

end Holds

end Lanes

end TaskFabric
