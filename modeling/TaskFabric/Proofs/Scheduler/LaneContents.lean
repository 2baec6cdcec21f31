import TaskFabric.Scheduler.Lanes

/-! The tickets in the lanes. A push adds one ticket to them, a pop takes one away, and there is
nothing to pop only if there is no ticket.
-/

namespace TaskFabric.Lanes

@[simp]
theorem queue_setQueue_self (l : Lanes) (p : Priority) (tickets : List Ticket)
    : (l.setQueue p tickets).queue p = tickets := by
  cases p <;> rfl

@[simp]
theorem setQueue_setQueue (l : Lanes) (p : Priority) (first second : List Ticket)
    : (l.setQueue p first).setQueue p second = l.setQueue p second := by
  cases p <;> rfl

@[simp]
theorem closed_setQueue (l : Lanes) (p : Priority) (tickets : List Ticket)
    : (l.setQueue p tickets).closed = l.closed := by
  cases p <;> rfl

theorem tickets_eq (l : Lanes)
    : l.tickets = l.urgent ++ (l.high ++ (l.medium ++ (l.low ++ l.base))) := by
  simp [tickets, Priority.descending, queue]

@[simp]
theorem tickets_close (l : Lanes) : l.close.tickets = [] := rfl

/-- One queue can be moved in front of the others, by cases on its priority. -/
theorem perm_queue_append (l : Lanes) (p : Priority)
    : l.tickets.Perm (l.queue p ++ (l.setQueue p []).tickets) := by
  have swap := @List.perm_append_comm_assoc Ticket
  rw [tickets_eq, tickets_eq]
  cases p with
  | urgent => exact .refl _
  | high => simpa [queue, setQueue] using swap l.urgent l.high (l.medium ++ (l.low ++ l.base))
  | medium => simpa [queue, setQueue] using swap (l.urgent ++ l.high) l.medium (l.low ++ l.base)
  | low => simpa [queue, setQueue] using swap (l.urgent ++ (l.high ++ l.medium)) l.low l.base
  | base =>
      simpa [queue, setQueue] using swap (l.urgent ++ (l.high ++ (l.medium ++ l.low))) l.base []

variable {l next : Lanes} {ticket : Ticket}

theorem push?_eq_some (pushed : l.push? ticket = some next)
    : l.closed = false ∧ next.closed = false ∧ next.tickets.Perm (ticket :: l.tickets) := by
  unfold push? at pushed
  cases shut : l.closed with
  | true => simp [shut] at pushed
  | false =>
      simp only [shut, Bool.false_eq_true, if_false, Option.some.injEq] at pushed
      subst pushed
      refine ⟨rfl, by simp [shut], ?_⟩
      have split := perm_queue_append l ticket.task.priority
      refine (perm_queue_append _ ticket.task.priority).trans ?_
      simp only [queue_setQueue_self, setQueue_setQueue, List.append_assoc, List.singleton_append]
      exact List.perm_middle.trans (split.symm.cons ticket)

theorem exists_push? (isOpen : l.closed = false) (ticket : Ticket)
    : ∃ next, l.push? ticket = some next := by
  simp [push?, isOpen]

theorem pop?_eq_some (popped : l.pop? = some (ticket, next))
    : next.closed = l.closed ∧ l.tickets.Perm (ticket :: next.tickets) := by
  unfold pop? at popped
  split at popped
  · next p _ =>
      cases waiting : l.queue p with
      | nil => simp [waiting] at popped
      | cons first rest =>
          simp only [waiting, Option.some.injEq, Prod.mk.injEq] at popped
          obtain ⟨rfl, rfl⟩ := popped
          have before := perm_queue_append l p
          have after := perm_queue_append (l.setQueue p rest) p
          simp only [queue_setQueue_self, setQueue_setQueue] at after
          rw [waiting] at before
          exact ⟨closed_setQueue l p rest, before.trans (after.symm.cons first)⟩
  · cases popped

/-- Nothing can be popped only from lanes without tickets: the first queue that is not empty has a
first ticket.
-/
theorem pop?_eq_none_iff : l.pop? = none ↔ l.tickets = [] := by
  constructor
  · intro nothing
    unfold pop? at nothing
    split at nothing
    · next p found =>
        cases waiting : l.queue p with
        | nil =>
            have nonempty := List.find?_some found
            simp [waiting] at nonempty
        | cons _ _ => simp [waiting] at nothing
    · next missing =>
        have empty := List.find?_eq_none.mp missing
        refine List.flatMap_eq_nil_iff.mpr ?_
        intro p member
        simpa using empty p member
  · intro empty
    cases popped : l.pop? with
    | none => rfl
    | some result =>
        obtain ⟨ticket, next⟩ := result
        have perm := (pop?_eq_some popped).2
        rw [empty] at perm
        simp at perm

end TaskFabric.Lanes
