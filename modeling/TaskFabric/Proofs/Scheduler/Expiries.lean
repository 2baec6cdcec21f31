import TaskFabric.Handler.Builtin
import TaskFabric.Proofs.Scheduler.Answers

/-! Which tasks of a batch are answered with a timeout. Each task has a deadline of its own, but the
tasks are waited for one after another, and a completion that is there when its wait begins is taken
whatever the time. So a task that completes behind its deadline is answered all the same if one of a
lower index was still waited for then.
-/

namespace TaskFabric

-----------------------------------------------------------------------------------------
-- Waits one after another
-----------------------------------------------------------------------------------------

namespace Instant

variable {now deadline : Instant} {arrival : Option Instant}

theorem await_arrived_iff
    : (now.await deadline arrival).1 = true
      ↔ ∃ at_, arrival = some at_ ∧ at_.nanos ≤ max now.nanos deadline.nanos := by
  cases arrival with
  | none => simp [await]
  | some at_ => simp [await, apply_ite Prod.fst]

/-- A wait lasts until the arrival or the deadline, whichever comes first, unless both are past. -/
theorem le_await_end_iff {n : Nat}
    : n ≤ (now.await deadline arrival).2.nanos
      ↔ n ≤ now.nanos
        ∨ n ≤ deadline.nanos ∧ ∀ at_, arrival = some at_ → n ≤ at_.nanos := by
  cases arrival with
  | none =>
      simp only [await, reduceCtorEq, false_implies, implies_true, and_true]
      omega
  | some at_ =>
      simp only [await, Option.some.injEq, forall_eq']
      split <;> simp only <;> omega

end Instant

namespace Scheduler

variable {s : Scheduler} {arrival? : Nat → Option Instant} {now : Instant}

/-- When the wait behind some others begins. -/
def begins (arrival? : Nat → Option Instant) (now : Instant) (waits : List (UInt64 × Nat × Instant))
    : Instant :=
  waits.foldl (fun now wait => (now.await wait.2.2 (arrival? wait.2.1)).2) now

/-- A wait begins no sooner than a moment exactly if one of those before it lasts until then, by
induction on those.
-/
theorem le_begins_iff {waits : List (UInt64 × Nat × Instant)} {n : Nat}
    : n ≤ (begins arrival? now waits).nanos
      ↔ n ≤ now.nanos
        ∨ ∃ wait ∈ waits,
            n ≤ wait.2.2.nanos ∧ ∀ at_, arrival? wait.2.1 = some at_ → n ≤ at_.nanos := by
  induction waits generalizing now with
  | nil => simp [begins]
  | cons wait rest ih =>
      have next : begins arrival? now (wait :: rest)
          = begins arrival? (now.await wait.2.2 (arrival? wait.2.1)).2 rest :=
        rfl
      rw [next, ih, Instant.le_await_end_iff, List.exists_mem_cons_iff, or_assoc]

/-- Waiting for one ticket and then for others: what comes of the first, and that the futures of the
others are as before.
-/
theorem collect_cons (arrival? : Nat → Option Instant) (now : Instant) (index : UInt64) (id : Nat)
    (deadline : Instant) (rest : List (UInt64 × Nat × Instant)) (s : Scheduler)
    : ∃ next,
        (collect arrival? now ((index, id, deadline) :: rest) s).1
          = (index,
              if (now.await deadline (arrival? id)).1 then (s.wait id).1 else .error .timeout)
            :: (collect arrival? (now.await deadline (arrival? id)).2 rest next).1
        ∧ ∀ other ≠ id, next.future other = s.future other := by
  have apart (change : Future → Future) {other : Nat} (different : other ≠ id)
      : ((s.changeFuture id change).closeFuture id).future other = s.future other :=
    (future_changeFuture_of_ne _ different _).trans (future_changeFuture_of_ne s different _)
  cases arrived : (now.await deadline (arrival? id)).1 with
  | true =>
      refine ⟨((s.wait id).2).closeFuture id, ?_, fun _ different => apart _ different⟩
      simp [collect, arrived]
  | false =>
      refine ⟨(s.changeFuture id Future.expire).closeFuture id, ?_,
        fun _ different => apart _ different⟩
      simp [collect, arrived]

theorem map_fst_collect {waits : List (UInt64 × Nat × Instant)}
    : (collect arrival? now waits s).1.map Prod.fst = waits.map Prod.fst := by
  induction waits generalizing now s with
  | nil => rfl
  | cons wait rest ih =>
      obtain ⟨index, id, deadline⟩ := wait
      obtain ⟨next, same, _⟩ := collect_cons arrival? now index id deadline rest s
      rw [same, List.map_cons, List.map_cons, ih]

/-- What comes of a wait behind some others, by induction on those; they touch only the futures of
their own tickets.
-/
theorem mem_collect {before after : List (UInt64 × Nat × Instant)} {index : UInt64} {id : Nat}
    {deadline : Instant} (fresh : id ∉ before.map fun wait => wait.2.1)
    : (index,
        if ((begins arrival? now before).await deadline (arrival? id)).1 then (s.wait id).1
        else .error .timeout)
      ∈ (collect arrival? now (before ++ (index, id, deadline) :: after) s).1 := by
  induction before generalizing now s with
  | nil =>
      obtain ⟨_, same, _⟩ := collect_cons arrival? now index id deadline after s
      rw [List.nil_append, same]
      exact List.mem_cons_self
  | cons wait rest ih =>
      obtain ⟨first, other, limit⟩ := wait
      obtain ⟨different, others⟩ := not_or.mp (mt List.mem_cons.mpr fresh)
      obtain ⟨next, same, kept⟩ := collect_cons arrival? now first other limit
        (rest ++ (index, id, deadline) :: after) s
      have still : (next.wait id).1 = (s.wait id).1 := by
        rw [wait, wait, kept id different]
      rw [List.cons_append, same, ← still]
      exact List.mem_cons_of_mem _ (ih others)

-----------------------------------------------------------------------------------------
-- Deadlines of a batch
-----------------------------------------------------------------------------------------

/-- Two partial functions on a list, one after the other: the first element and then the others. -/
theorem bind_mapM_cons {α β γ : Type} (f : α → Option β) (g : β → Option γ) (first : α)
    (rest : List α)
    : ((first :: rest).mapM f).bind (List.mapM g)
      = ((f first).bind g).bind fun c => ((rest.mapM f).bind (List.mapM g)).map (c :: ·) := by
  cases found : f first with
  | none => simp [List.mapM_cons, found]
  | some b =>
      cases others : rest.mapM f with
      | none => simp [List.mapM_cons, found, others]
      | some bs =>
          simp only [List.mapM_cons, found, others, Option.map_eq_bind, Option.bind_eq_bind,
            Option.bind_some, Option.pure_def]
          rfl

/-- The deadline of a task that is submitted now, unless it cannot be represented. -/
def deadline? (s : Scheduler) (task : Task) : Option Instant :=
  (task.type.expiry? s.expire).bind s.clock.add?

/-- The deadlines of tasks that are submitted now, unless one cannot be represented. -/
def deadlines? (s : Scheduler) (tasks : List (UInt64 × Task)) : Option (List Instant) :=
  (s.expiries? tasks).bind (List.mapM s.clock.add?)

theorem deadlines?_cons (s : Scheduler) (entry : UInt64 × Task) (rest : List (UInt64 × Task))
    : s.deadlines? (entry :: rest)
      = (s.deadline? entry.2).bind fun first => (s.deadlines? rest).map (first :: ·) := by
  unfold deadlines? deadline? expiries?
  exact bind_mapM_cons _ _ entry rest

/-- There are deadlines for some tasks if there is one for each, by induction on the tasks. -/
theorem deadlines?_spec (s : Scheduler) (tasks : List (UInt64 × Task))
    : (s.deadlines? tasks = none ∧ ∃ entry ∈ tasks, s.deadline? entry.2 = none)
      ∨ ∃ deadlines,
          s.deadlines? tasks = some deadlines
          ∧ List.Forall₂ (fun entry deadline => s.deadline? entry.2 = some deadline) tasks
              deadlines := by
  induction tasks with
  | nil => exact .inr ⟨[], rfl, .nil⟩
  | cons entry rest ih =>
      rw [deadlines?_cons]
      cases first : s.deadline? entry.2 with
      | none => exact .inl ⟨rfl, entry, List.mem_cons_self, first⟩
      | some deadline =>
          rcases ih with ⟨noOthers, other, member, none⟩ | ⟨others, found, each⟩
          · exact .inl ⟨by rw [noOthers]; rfl, other, List.mem_cons_of_mem _ member, none⟩
          · exact .inr ⟨deadline :: others, by rw [found]; rfl, .cons first each⟩

theorem clock_le_of_deadline?_eq {task : Task} {deadline : Instant}
    (due : s.deadline? task = some deadline)
    : s.clock.nanos ≤ deadline.nanos := by
  obtain ⟨limit, _, added⟩ := Option.bind_eq_some_iff.mp due
  obtain ⟨_, ⟨⟩⟩ := Option.ite_none_right_eq_some.mp added
  exact Nat.le_add_right _ _

/-- The wait for each ticket of a batch has the deadline of its task, by induction on the tasks. -/
theorem deadline?_of_mem_waits {tasks : List (UInt64 × Task)} {ids : List (UInt64 × Nat)}
    {deadlines : List Instant} (keys : ids.map Prod.fst = tasks.map Prod.fst)
    (each
      : List.Forall₂ (fun entry deadline => s.deadline? entry.2 = some deadline) tasks deadlines)
    {wait : UInt64 × Nat × Instant}
    (member
      : wait ∈ List.zipWith (fun (index, id) deadline => (index, id, deadline)) ids deadlines)
    : ∃ task, (wait.1, task) ∈ tasks ∧ s.deadline? task = some wait.2.2 := by
  induction each generalizing ids with
  | nil => simp at member
  | @cons entry deadline rest others first _ ih =>
      cases ids with
      | nil => cases keys
      | cons ticket tickets =>
          obtain ⟨same, later⟩ := List.cons.inj keys
          rcases List.mem_cons.mp member with rfl | known
          · exact ⟨entry.2, same ▸ List.mem_cons_self, first⟩
          · obtain ⟨task, listed, due⟩ := ih later known
            exact ⟨task, List.mem_cons_of_mem _ listed, due⟩

theorem arrival?_cases (s : Scheduler) (id : Nat)
    : (s.arrival? id = none ∧ (s.future id).delivery = .pending)
      ∨ s.arrival? id = some s.clock ∧ (s.future id).delivery ≠ .pending := by
  unfold arrival?
  cases (s.future id).delivery <;> simp

-----------------------------------------------------------------------------------------
-- Courses of a batch
-----------------------------------------------------------------------------------------

/-- How it goes on with a batch that is submitted now: the tickets that it gets, what the scheduler
has become when all of them have been waited for, and when each ticket delivers, if it does.
Nobody closes the lanes in the meantime, and nobody else waits for the futures of the batch.
-/
structure Course (s : Scheduler) (tasks : Batch) where
  ids : List (UInt64 × Nat)
  queued : Scheduler
  entered : s.enqueueEach tasks.toList = .ok (ids, queued)
  last : Scheduler
  changes : Changes queued last
  isOpen : last.lanes.closed = false
  unread : ∀ entry ∈ ids, (last.future entry.2).isClosed = false
  arrival? : Nat → Option Instant
  told : ∀ entry ∈ ids, arrival? entry.2 = none ↔ (last.future entry.2).delivery = .pending

namespace Course

variable {tasks : Batch}

/-- When the task of an index completes, if it does. -/
def completes (c : Course s tasks) (index : UInt64) : Option Instant :=
  (c.ids.lookup index).bind c.arrival?

/-- When the task of an index expires. -/
def expires (_ : Course s tasks) (index : UInt64) : Option Instant :=
  (tasks.get? index).bind s.deadline?

/-- The waits of the call that submits the batch. -/
def waits (c : Course s tasks) (deadlines : List Instant) : List (UInt64 × Nat × Instant) :=
  List.zipWith (fun (index, id) deadline => (index, id, deadline)) c.ids deadlines

/-- What the call that submits the batch and waits for every task answers. -/
def outcomes (c : Course s tasks) : Except CallError Outcomes :=
  match s.deadlines? tasks.toList with
  | none => .error .overflow
  | some deadlines =>
      .ok (SortedMap.ofList (collect c.arrival? s.clock (c.waits deadlines) c.last).1)

/-- Whether the task of an index completes before it expires. -/
def OnTime (c : Course s tasks) (index : UInt64) : Prop :=
  ∃ at_ deadline,
    c.completes index = some at_
    ∧ c.expires index = some deadline
    ∧ at_.nanos ≤ deadline.nanos

/-- Whether the task of an index completes while one of a lower index has neither completed nor
expired.
-/
def Sheltered (c : Course s tasks) (index : UInt64) : Prop :=
  ∃ at_ lower deadline,
    c.completes index = some at_
    ∧ lower < index
    ∧ c.expires lower = some deadline
    ∧ at_.nanos ≤ deadline.nanos
    ∧ ∀ other, c.completes lower = some other → at_.nanos ≤ other.nanos

-----------------------------------------------------------------------------------------
-- What each task is answered
-----------------------------------------------------------------------------------------

variable {registry : Registry} {c : Course s tasks} {deadlines : List Instant}

theorem ids_spec (reached : Reached registry s) (isOpen : s.lanes.closed = false)
    (c : Course s tasks)
    : c.ids.map Prod.fst = tasks.keys
      ∧ (c.ids.map Prod.snd).Nodup
      ∧ ∀ entry ∈ c.ids, ∃ task,
          tasks.get? entry.1 = some task
          ∧ (c.arrival? entry.2 ≠ none → (c.last.wait entry.2).1 = .ok (registry.answer task)) := by
  obtain ⟨sound, _⟩ := reached.sound_and_vigilant
  obtain ⟨ids, queued, entered, keys, distinct, _, _, _⟩ :=
    exists_enqueueEach isOpen sound tasks.toList
  obtain ⟨rfl, _⟩ := Prod.mk.inj (Except.ok.inj (c.entered.symm.trans entered))
  refine ⟨keys, distinct, ?_⟩
  intro entry member
  obtain ⟨task, listed, accepted⟩ := accepted_enqueueEach sound c.entered entry member
  have queuedAll := changes_enqueueEach c.entered
  have kept := accepted.changes (sound.changes queuedAll) c.changes
  have handlers : c.last.registry = registry :=
    (reached.changes (queuedAll.trans c.changes)).registry_eq
  refine ⟨task, SortedMap.mem_toList_iff.mp listed, ?_⟩
  intro arrived
  have settled := mt (c.told entry member).mpr arrived
  rw [kept.wait_eq_ok c.isOpen (c.unread entry member) settled, handlers,
    Registry.completion_eq_answer]

/-- The waits are for the tickets of the batch, each until its task expires. -/
theorem waits_spec (reached : Reached registry s) (isOpen : s.lanes.closed = false)
    (c : Course s tasks)
    (each
      : List.Forall₂ (fun entry deadline => s.deadline? entry.2 = some deadline) tasks.toList
          deadlines)
    : (c.waits deadlines).map Prod.fst = tasks.keys
      ∧ ((c.waits deadlines).map fun wait => wait.2.1).Nodup
      ∧ ∀ wait ∈ c.waits deadlines,
          c.completes wait.1 = c.arrival? wait.2.1
          ∧ c.expires wait.1 = some wait.2.2
          ∧ (wait.1, wait.2.1) ∈ c.ids := by
  obtain ⟨keys, distinct, _⟩ := c.ids_spec reached isOpen
  have length : deadlines.length = c.ids.length := by
    have sizes := congrArg List.length keys
    rw [List.length_map, SortedMap.length_keys] at sizes
    exact each.length_eq.symm.trans sizes.symm
  have pairs : (c.waits deadlines).map (fun wait => (wait.1, wait.2.1)) = c.ids := map_waits length
  refine ⟨?_, ?_, ?_⟩
  · rw [← keys, ← pairs, List.map_map]
    rfl
  · rw [← pairs, List.map_map] at distinct
    exact distinct
  · intro wait member
    have known : (wait.1, wait.2.1) ∈ c.ids := pairs ▸ List.mem_map_of_mem member
    obtain ⟨task, listed, due⟩ := deadline?_of_mem_waits keys each member
    have unique : (c.ids.map Prod.fst).Nodup := keys ▸ tasks.keys_nodup
    refine ⟨?_, ?_, known⟩
    · have found : c.ids.lookup wait.1 = some wait.2.1 := by
        rw [← SortedMap.get?_ofList unique]
        exact SortedMap.get?_ofList_of_mem unique known
      rw [completes, found, Option.bind_some]
    · rw [expires, SortedMap.mem_toList_iff.mp listed, Option.bind_some, due]

/-- The waits stand in the order of the indices. -/
theorem lt_of_split {before after : List (UInt64 × Nat × Instant)} {wait : UInt64 × Nat × Instant}
    (keys : (before ++ wait :: after).map Prod.fst = tasks.keys)
    : (∀ other ∈ before, other.1 < wait.1) ∧ ∀ other ∈ after, wait.1 < other.1 := by
  have increasing : tasks.keys.Pairwise (· < ·) := by
    refine List.pairwise_map.mpr (tasks.increasing.imp ?_)
    intro a b lower
    exact compareOfLessAndEq_eq_lt.mp lower
  rw [← keys, List.pairwise_map] at increasing
  obtain ⟨_, behind, apart⟩ := List.pairwise_append.mp increasing
  exact ⟨fun other member => apart other member wait List.mem_cons_self,
    (List.pairwise_cons.mp behind).1⟩

/-- A wait sees the completion of its ticket exactly if the task completes before it expires, or
while one of a lower index is still waited for.
-/
theorem arrived_iff (reached : Reached registry s) (isOpen : s.lanes.closed = false)
    (each
      : List.Forall₂ (fun entry deadline => s.deadline? entry.2 = some deadline) tasks.toList
          deadlines)
    {before after : List (UInt64 × Nat × Instant)} {wait : UInt64 × Nat × Instant}
    (split : c.waits deadlines = before ++ wait :: after)
    : ((begins c.arrival? s.clock before).await wait.2.2 (c.arrival? wait.2.1)).1 = true
      ↔ c.OnTime wait.1 ∨ c.Sheltered wait.1 := by
  obtain ⟨keys, _, spec⟩ := c.waits_spec reached isOpen each
  rw [split] at keys spec
  obtain ⟨below, above⟩ := lt_of_split keys
  obtain ⟨own, due, _⟩ := spec wait (by simp)
  have notEarlier : s.clock.nanos ≤ wait.2.2.nanos := by
    obtain ⟨task, _, known⟩ := Option.bind_eq_some_iff.mp due
    exact clock_le_of_deadline?_eq known
  rw [Instant.await_arrived_iff, ← own]
  constructor
  · rintro ⟨at_, arrived, bound⟩
    have either : at_.nanos ≤ (begins c.arrival? s.clock before).nanos
        ∨ at_.nanos ≤ wait.2.2.nanos := by
      omega
    rcases either with waited | early
    · rcases le_begins_iff.mp waited with past | ⟨other, member, limit, open_⟩
      · exact .inl ⟨at_, wait.2.2, arrived, due, Nat.le_trans past notEarlier⟩
      · obtain ⟨its, expiry, _⟩ := spec other (by simp [member])
        refine .inr ⟨at_, other.1, other.2.2, arrived, below other member, expiry, limit, ?_⟩
        rw [its]
        exact open_
    · exact .inl ⟨at_, wait.2.2, arrived, due, early⟩
  · rintro (⟨at_, deadline, arrived, known, early⟩ | ⟨at_, lower, deadline, arrived, less, expiry,
      limit, open_⟩)
    · obtain rfl : wait.2.2 = deadline := Option.some.inj (due.symm.trans known)
      exact ⟨at_, arrived, Nat.le_trans early (Nat.le_max_right _ _)⟩
    · refine ⟨at_, arrived, Nat.le_trans (le_begins_iff.mpr (.inr ?_)) (Nat.le_max_left _ _)⟩
      obtain ⟨task, listed, _⟩ := Option.bind_eq_some_iff.mp expiry
      have known : lower ∈ (before ++ wait :: after).map Prod.fst :=
        keys ▸ SortedMap.mem_keys_iff.mpr ⟨task, listed⟩
      obtain ⟨other, member, rfl⟩ := List.mem_map.mp known
      obtain ⟨its, own, _⟩ := spec other member
      obtain rfl : other.2.2 = deadline := Option.some.inj (own.symm.trans expiry)
      rw [its] at open_
      refine ⟨other, ?_, limit, open_⟩
      rcases List.mem_append.mp member with first | later
      · exact first
      · rcases List.mem_cons.mp later with rfl | behind
        · exact absurd less (UInt64.lt_irrefl _)
        · exact absurd (UInt64.lt_trans less (above other behind)) (UInt64.lt_irrefl _)

theorem keys_ofList_collect (keys : (c.waits deadlines).map Prod.fst = tasks.keys)
    : (SortedMap.ofList (collect c.arrival? s.clock (c.waits deadlines) c.last).1).keys
      = tasks.keys := by
  have indices : (collect c.arrival? s.clock (c.waits deadlines) c.last).1.map Prod.fst
      = tasks.keys :=
    map_fst_collect.trans keys
  apply SortedMap.keys_eq_of_mem_iff
  intro index
  rw [← indices, SortedMap.mem_keys_iff]
  constructor
  · rintro ⟨outcome, found⟩
    exact List.mem_map_of_mem (SortedMap.mem_of_get?_ofList found)
  · exact SortedMap.exists_get?_ofList

/-- What the call answers for one task of the batch. -/
theorem get?_outcomes (reached : Reached registry s) (isOpen : s.lanes.closed = false)
    (each
      : List.Forall₂ (fun entry deadline => s.deadline? entry.2 = some deadline) tasks.toList
          deadlines)
    {index : UInt64} {task : Task} (listed : tasks.get? index = some task)
    : let outcomes :=
        SortedMap.ofList (collect c.arrival? s.clock (c.waits deadlines) c.last).1
      (c.OnTime index ∨ c.Sheltered index
          → outcomes.get? index = some (.ok (registry.answer task)))
        ∧ (¬(c.OnTime index ∨ c.Sheltered index)
            → outcomes.get? index = some (.error .timeout)) := by
  intro outcomes
  obtain ⟨_, _, answers⟩ := c.ids_spec reached isOpen
  obtain ⟨keys, distinct, spec⟩ := c.waits_spec reached isOpen each
  have known : index ∈ (c.waits deadlines).map Prod.fst :=
    keys ▸ SortedMap.mem_keys_iff.mpr ⟨task, listed⟩
  obtain ⟨⟨index, id, deadline⟩, member, rfl⟩ := List.mem_map.mp known
  obtain ⟨before, after, split⟩ := List.append_of_mem member
  have fresh : id ∉ before.map fun wait => wait.2.1 := by
    rw [split, List.map_append, List.map_cons] at distinct
    intro earlier
    exact (List.nodup_append.mp distinct).2.2 _ earlier _ List.mem_cons_self rfl
  have there
      : (index,
          if ((begins c.arrival? s.clock before).await deadline (c.arrival? id)).1 then
            (c.last.wait id).1
          else .error .timeout)
        ∈ (collect c.arrival? s.clock (c.waits deadlines) c.last).1 :=
    split ▸ mem_collect fresh
  have unique : ((collect c.arrival? s.clock (c.waits deadlines) c.last).1.map Prod.fst).Nodup := by
    rw [map_fst_collect, keys]
    exact tasks.keys_nodup
  have found := SortedMap.get?_ofList_of_mem unique there
  have arrived := arrived_iff reached isOpen each split
  refine ⟨?_, ?_⟩
  · intro taken
    obtain ⟨at_, came, _⟩ := Instant.await_arrived_iff.mp (arrived.mpr taken)
    obtain ⟨own, same, answer⟩ := answers _ (spec _ member).2.2
    obtain rfl : task = own := Option.some.inj (listed.symm.trans same)
    simp only [outcomes, found, arrived.mpr taken, if_true, answer (by simp [came])]
  · intro missed
    simp only [outcomes, found, mt arrived.mp missed]
    rfl

-----------------------------------------------------------------------------------------
-- Tasks that are submitted alone
-----------------------------------------------------------------------------------------

/-- What the call that submits one task and waits for it answers. -/
def answer {index : UInt64} {task : Task} (alone : Course s (.ofList [(index, task)]))
    : Except CallError Completion :=
  match task.type.expiry? s.expire with
  | none => .error .overflow
  | some limit =>
      let deadline : Instant := ⟨s.clock.nanos + limit.toNanos⟩
      if (s.clock.await deadline (alone.arrival? s.nextTicket)).1 then
        (alone.last.wait s.nextTicket).1.mapError .refused
      else
        .error (.refused .timeout)

theorem ids_alone {index : UInt64} {task : Task} (alone : Course s (.ofList [(index, task)]))
    : alone.ids = [(index, s.nextTicket)] := by
  obtain ⟨id, _, others, queued, later, equal⟩ := enqueueEach_cons_eq_ok alone.entered
  obtain ⟨rfl, _⟩ := enqueueOne_eq_ok queued
  simp only [enqueueEach, Except.ok.injEq, Prod.mk.injEq] at later
  rw [equal, ← later.1]

theorem completes_alone {index : UInt64} {task : Task} (alone : Course s (.ofList [(index, task)]))
    : alone.completes index = alone.arrival? s.nextTicket := by
  simp [completes, ids_alone]

/-- A task that is submitted alone is answered by whether it completes before it expires. -/
theorem answer_spec (reached : Reached registry s) (isOpen : s.lanes.closed = false)
    {index : UInt64} {task : Task} (alone : Course s (.ofList [(index, task)])) {deadline : Instant}
    (due : s.deadline? task = some deadline)
    : ((∃ at_, alone.completes index = some at_ ∧ at_.nanos ≤ deadline.nanos)
        → alone.answer = .ok (registry.answer task))
      ∧ (¬(∃ at_, alone.completes index = some at_ ∧ at_.nanos ≤ deadline.nanos)
        → alone.answer = .error (.refused .timeout)) := by
  obtain ⟨limit, bounded, added⟩ := Option.bind_eq_some_iff.mp due
  obtain ⟨_, ⟨⟩⟩ := Option.ite_none_right_eq_some.mp added
  have arrived
      : (s.clock.await ⟨s.clock.nanos + limit.toNanos⟩ (alone.arrival? s.nextTicket)).1 = true
        ↔ ∃ at_, alone.completes index = some at_ ∧ at_.nanos ≤ s.clock.nanos + limit.toNanos := by
    have latest : max s.clock.nanos (s.clock.nanos + limit.toNanos)
        = s.clock.nanos + limit.toNanos := by
      omega
    rw [Instant.await_arrived_iff, latest, completes_alone]
  refine ⟨?_, ?_⟩
  · intro early
    obtain ⟨_, _, answers⟩ := alone.ids_spec reached isOpen
    obtain ⟨own, listed, yields⟩ := answers (index, s.nextTicket) (by simp [ids_alone])
    rw [SortedMap.get?_ofList_singleton] at listed
    obtain rfl : task = own := Option.some.inj listed
    obtain ⟨at_, came, _⟩ := early
    have answered := yields (by rw [← completes_alone, came]; simp)
    simp only [answer, bounded, arrived.mpr ⟨at_, came, ‹_›⟩, if_true, answered]
    rfl
  · intro late
    simp only [answer, bounded, mt arrived.mp late]
    rfl

-----------------------------------------------------------------------------------------
-- Workers that take no time
-----------------------------------------------------------------------------------------

/-- The course of a batch on workers that take no time. -/
def settled (sound : Sound s) (isOpen : s.lanes.closed = false) {ids : List (UInt64 × Nat)}
    {queued : Scheduler} (entered : s.enqueueEach tasks.toList = .ok (ids, queued))
    : Course s tasks where
  ids := ids
  queued := queued
  entered := entered
  last := queued.settle
  changes := changes_settle queued
  isOpen := (sameSetting_settle queued).closed.trans
    ((sameSetting_enqueueEach entered).closed.trans isOpen)
  unread := by
    obtain ⟨_, _, same, _, _, _, _, out⟩ := exists_enqueueEach isOpen sound tasks.toList
    obtain ⟨rfl, rfl⟩ := Prod.mk.inj (Except.ok.inj (entered.symm.trans same))
    intro entry member
    obtain ⟨_, _, _, unread⟩ := out entry member
    exact (isClosed_settle queued entry.2).trans unread
  arrival? := queued.settle.arrival?
  told := by
    intro entry _
    rcases queued.settle.arrival?_cases entry.2 with ⟨none, pending⟩ | ⟨some, delivered⟩
    · simp [none, pending]
    · simp [some, delivered]

theorem exists_outcomes_eq (reached : Reached registry s) (isOpen : s.lanes.closed = false)
    (tasks : Batch)
    : ∃ c : Course s tasks, (s.doneEach tasks).1 = c.outcomes := by
  obtain ⟨sound, _⟩ := reached.sound_and_vigilant
  obtain ⟨ids, queued, entered, _⟩ := exists_enqueueEach isOpen sound tasks.toList
  refine ⟨settled sound isOpen entered, ?_⟩
  unfold doneEach outcomes deadlines?
  cases s.expiries? tasks.toList with
  | none => rfl
  | some expiries =>
      simp only [entered, Option.bind_some]
      cases expiries.mapM s.clock.add? <;> rfl

theorem exists_answer_eq (reached : Reached registry s) (isOpen : s.lanes.closed = false)
    (index : UInt64) (task : Task)
    : ∃ alone : Course s (.ofList [(index, task)]), (s.done task).1 = alone.answer := by
  obtain ⟨sound, _⟩ := reached.sound_and_vigilant
  obtain ⟨id, queued, entered⟩ := exists_enqueueOne isOpen task
  have each : s.enqueueEach (SortedMap.ofList [(index, task)]).toList
      = .ok ([(index, id)], queued) := by
    have entries : (SortedMap.ofList [(index, task)]).toList = [(index, task)] := rfl
    simp only [entries, enqueueEach, entered]
  refine ⟨settled sound isOpen each, ?_⟩
  obtain ⟨rfl, _⟩ := enqueueOne_eq_ok entered
  have unread : (queued.settle.future s.nextTicket).isClosed = false :=
    (isClosed_settle queued _).trans (accepted_enqueueOne entered).2
  have clock : queued.settle.clock = s.clock :=
    (sameSetting_settle queued).clock.trans (sameSetting_enqueueOne entered).clock
  unfold Scheduler.done answer
  cases task.type.expiry? s.expire with
  | none => rfl
  | some limit =>
      simp only [entered, settled]
      rcases queued.settle.arrival?_cases s.nextTicket with ⟨none, pending⟩ | ⟨some, _⟩
      · simp [none, Instant.await, Scheduler.wait, Future.wait, unread, pending, Except.mapError]
      · simp [some, Instant.await, clock]

end Course

/-- A task of a batch is answered with its completion if it completes before it expires, as it would
be if it were submitted alone; and also if it completes while one of a lower index has neither
completed nor expired, however late that is. Every other task is answered with a timeout. The only
calls that answer nothing are those of which a deadline cannot be represented. This holds on every
open scheduler, for every batch, and whenever its tasks complete; a call on workers that take no
time is one such course.
-/
theorem answered_before_expiry_or_behind_others {registry : Registry}
    (reached : Reached registry s) (isOpen : s.lanes.closed = false) (tasks : Batch)
    : (∃ c : Course s tasks, (s.doneEach tasks).1 = c.outcomes)
      ∧ (∀ index task,
          ∃ alone : Course s (.ofList [(index, task)]), (s.done task).1 = alone.answer)
      ∧ ∀ c : Course s tasks,
          (c.outcomes = .error .overflow ∧ ∃ index ∈ tasks.keys, c.expires index = none)
          ∨ ∃ outcomes,
              c.outcomes = .ok outcomes
              ∧ outcomes.keys = tasks.keys
              ∧ ∀ index task,
                  tasks.get? index = some task
                  → (c.OnTime index ∨ c.Sheltered index
                      → outcomes.get? index = some (.ok (registry.answer task)))
                    ∧ (¬(c.OnTime index ∨ c.Sheltered index)
                      → outcomes.get? index = some (.error .timeout))
                    ∧ ∀ alone : Course s (.ofList [(index, task)]),
                        alone.completes index = c.completes index
                        → (c.OnTime index → alone.answer = .ok (registry.answer task))
                          ∧ (¬c.OnTime index → alone.answer = .error (.refused .timeout)) := by
  refine ⟨Course.exists_outcomes_eq reached isOpen tasks,
    Course.exists_answer_eq reached isOpen, ?_⟩
  intro c
  rcases s.deadlines?_spec tasks.toList with
    ⟨overflow, entry, member, none⟩ | ⟨deadlines, due, each⟩
  · have listed := SortedMap.mem_toList_iff.mp member
    refine .inl ⟨by simp only [Course.outcomes, overflow], entry.1, ?_, ?_⟩
    · exact List.mem_map_of_mem member
    · rw [Course.expires, listed, Option.bind_some, none]
  · obtain ⟨keys, _, spec⟩ := c.waits_spec reached isOpen each
    refine .inr ⟨_, by simp only [Course.outcomes, due], Course.keys_ofList_collect keys, ?_⟩
    intro index task listed
    obtain ⟨taken, missed⟩ := Course.get?_outcomes reached isOpen each listed
    refine ⟨taken, missed, ?_⟩
    intro alone same
    have known : index ∈ (c.waits deadlines).map Prod.fst :=
      keys ▸ SortedMap.mem_keys_iff.mpr ⟨task, listed⟩
    obtain ⟨wait, member, rfl⟩ := List.mem_map.mp known
    obtain ⟨_, expiry, _⟩ := spec wait member
    have own : s.deadline? task = some wait.2.2 := by
      rwa [Course.expires, listed, Option.bind_some] at expiry
    have onTime : c.OnTime wait.1
        ↔ ∃ at_, alone.completes wait.1 = some at_ ∧ at_.nanos ≤ wait.2.2.nanos := by
      simp [Course.OnTime, expiry, same]
    rw [onTime]
    exact alone.answer_spec reached isOpen own

-----------------------------------------------------------------------------------------
-- A short task behind a long one
-----------------------------------------------------------------------------------------

/-- Two workers that have just been started, with a base expiry of five seconds. -/
def twoWorkers : Scheduler :=
  ((create (Registry.empty.register "echo" Handler.echo) (.ofMillis 5000)).attachMany 2).launchAll

theorem reached_twoWorkers : Reached (Registry.empty.register "echo" Handler.echo) twoWorkers :=
  ⟨_, (changes_attachMany _ 2).tail .launchAll⟩

/-- A task that may take five seconds. -/
def shortTask : Task := Task.named "echo"

/-- A task that may take fifty seconds and one that may take five. -/
def longAndShort : Batch := .ofList [(0, { shortTask with type := .long }), (1, shortTask)]

/-- The two workers with a batch queued. -/
def queuedFor (tasks : Batch) : Scheduler :=
  ((twoWorkers.enqueueEach tasks.toList).toOption.getD default).2

/-- The worker of a number takes its next step at some second. -/
def turnAt (second : Nat) (id : Nat) (s : Scheduler) : Scheduler :=
  let now := { s with clock := ⟨second * 1000000000⟩ }
  match now.worker? id with
  | some w => now.step w
  | none => now

theorem changes_turnAt {second : Nat} (later : s.clock.nanos ≤ second * 1000000000) (id : Nat)
    : Changes s (s.turnAt second id) := by
  have passed : Change s { s with clock := ⟨second * 1000000000⟩ } := .pass later
  unfold turnAt
  simp only
  split
  · next w found => exact .tail (.single passed) (.step (List.mem_of_find?_eq_some found))
  · exact .single passed

/-- Both tasks are taken at once; the short one completes after twenty seconds, and the long one
after forty.
-/
def shortBehindLong : Course twoWorkers longAndShort where
  ids := [(0, 0), (1, 1)]
  queued := queuedFor longAndShort
  entered := rfl
  last := ((((queuedFor longAndShort).turnAt 0 1).turnAt 0 2).turnAt 20 2).turnAt 40 1
  changes :=
    (((changes_turnAt (by decide) 1).trans (changes_turnAt (by decide) 2)).trans
      (changes_turnAt (by decide) 2)).trans (changes_turnAt (by decide) 1)
  isOpen := rfl
  unread := by decide
  arrival? id := if id = 0 then some ⟨40000000000⟩ else if id = 1 then some ⟨20000000000⟩ else none
  told := by
    intro entry member
    simp only [List.mem_cons, List.not_mem_nil, or_false] at member
    rcases member with rfl | rfl
    · exact ⟨nofun, nofun⟩
    · exact ⟨nofun, nofun⟩

/-- The short task is submitted alone; it is taken at once and completes after twenty seconds. -/
def shortAlone : Course twoWorkers (.ofList [(1, shortTask)]) where
  ids := [(1, 0)]
  queued := queuedFor (.ofList [(1, shortTask)])
  entered := rfl
  last := ((queuedFor (.ofList [(1, shortTask)])).turnAt 0 1).turnAt 20 1
  changes := (changes_turnAt (by decide) 1).trans (changes_turnAt (by decide) 1)
  isOpen := rfl
  unread := by decide
  arrival? id := if id = 0 then some ⟨20000000000⟩ else none
  told := by
    intro entry member
    obtain rfl := List.mem_singleton.mp member
    exact ⟨nofun, nofun⟩

/-- The short task completes while the long one is waited for, and is answered with what it has
become though it has expired; were it alone, it would be answered with a timeout.
-/
theorem short_is_sheltered_by_long
    : ∃ outcomes result,
        shortBehindLong.outcomes = .ok outcomes
        ∧ outcomes.get? 1 = some (.ok result)
        ∧ shortAlone.answer = .error (.refused .timeout) := by
  obtain ⟨_, _, courses⟩ :=
    answered_before_expiry_or_behind_others reached_twoWorkers rfl longAndShort
  have completes : shortBehindLong.completes 1 = some ⟨20000000000⟩ := by decide
  have expires : shortBehindLong.expires 1 = some ⟨5000000000⟩ := by decide
  have sheltered : shortBehindLong.Sheltered 1 := by
    refine ⟨⟨20000000000⟩, 0, ⟨50000000000⟩, completes, by decide, by decide, by decide, ?_⟩
    intro other arrived
    have same : shortBehindLong.completes 0 = some ⟨40000000000⟩ := by decide
    obtain rfl := Option.some.inj (same.symm.trans arrived)
    decide
  have late : ¬shortBehindLong.OnTime 1 := by
    rintro ⟨at_, deadline, arrived, due, early⟩
    obtain rfl := Option.some.inj (completes.symm.trans arrived)
    obtain rfl := Option.some.inj (expires.symm.trans due)
    exact absurd early (by decide)
  rcases courses shortBehindLong with ⟨overflow, _⟩ | ⟨outcomes, answered, _, answers⟩
  · cases overflow
  · obtain ⟨taken, _, apart⟩ := answers 1 shortTask (by rfl)
    obtain ⟨_, timeout⟩ := apart shortAlone (by decide)
    exact ⟨outcomes, _, answered, taken (.inr sheltered), timeout late⟩

/-- A task that completes fifteen seconds behind its expiry is answered with its completion, though
the same task would be answered with a timeout if it were alone.
-/
theorem late_completion_is_answered
    : shortBehindLong.expires 1 = some ⟨5000000000⟩
      ∧ shortBehindLong.completes 1 = some ⟨20000000000⟩
      ∧ shortAlone.completes 1 = shortBehindLong.completes 1
      ∧ (∃ outcomes result,
          shortBehindLong.outcomes = .ok outcomes ∧ outcomes.get? 1 = some (.ok result))
      ∧ shortAlone.answer = .error (.refused .timeout) :=
  ⟨by decide, by decide, by decide, ⟨_, _, rfl, rfl⟩, rfl⟩

end Scheduler

end TaskFabric
