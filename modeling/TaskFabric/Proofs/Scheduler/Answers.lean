import TaskFabric.Proofs.Scheduler.Completion

/-! What a scheduler answers. A completion that is answered for a task is what its own handler has
made of it, and a batch is answered under each index with the completion of the task that it has
there.
-/

namespace TaskFabric

theorem Future.delivery_of_wait_eq_ok {f : Future} {result : Completion}
    (yields : f.wait.1 = .ok result)
    : f.delivery = .delivered result := by
  unfold wait at yields
  split at yields
  · cases yields
  · cases delivery : f.delivery with
    | delivered own =>
        simp only [delivery, Except.ok.injEq] at yields
        rw [yields]
    | abandoned | pending => simp [delivery] at yields

namespace Scheduler

variable {s next : Scheduler} {ticket : Ticket}

-----------------------------------------------------------------------------------------
-- Completions
-----------------------------------------------------------------------------------------

/-- A completion of a task as its handler leaves it: with the results and the context that the
handler wrote, also before it panicked, and everything else as it was submitted. It is good only if
the handler succeeded, and without a handler the task is unchanged and not good.
-/
structure Completes (registry : Registry) (task : Task) (c : Completion) : Prop where
  type : c.task.type = task.type
  priority : c.task.priority = task.priority
  consumable : c.task.consumable = task.consumable
  source : c.task.source = task.source
  stage : c.task.stage = task.stage
  handled
    : ∀ handler : Handler, registry.get? task.consumable = some handler →
        let outcome := handler.run task.source task.result task.context
        c.task.result = outcome.result
        ∧ c.task.context = outcome.context
        ∧ (c.ok = true ↔ outcome.verdict = .succeeded)
  unhandled : registry.get? task.consumable = none → c = ⟨task, false⟩

theorem completes_answer (registry : Registry) (task : Task)
    : Completes registry task (registry.answer task) := by
  rw [← registry.completion_eq_answer]
  cases found : registry.get? task.consumable with
  | none => exact ⟨rfl, rfl, rfl, rfl, rfl, by simp [found], fun _ => rfl⟩
  | some handler =>
      refine ⟨rfl, rfl, rfl, rfl, rfl, ?_, by simp [found]⟩
      intro other same
      cases found.symm.trans same
      exact ⟨rfl, rfl, beq_iff_eq⟩

-----------------------------------------------------------------------------------------
-- Calls
-----------------------------------------------------------------------------------------

/-- A wait yields a completion only for the ticket that was delivered it. -/
theorem Accepted.wait_eq_answer (accepted : Accepted s ticket) {result : Completion}
    (yields : (s.wait ticket.id).1 = .ok result)
    : result = s.registry.answer ticket.task := by
  obtain ⟨f, found, shows⟩ := accepted.kept
  have same : (s.wait ticket.id).1 = f.wait.1 := by simp [wait, future, found]
  have delivered := Future.delivery_of_wait_eq_ok (same.symm.trans yields)
  rw [Shows, delivered] at shows
  exact shows.trans (Registry.completion_eq_answer _ _)

/-- A call that waits for its task answers with no completion but that of the task. -/
theorem done_eq_ok (sound : Sound s) {task : Task} {result : Completion}
    (answered : (s.done task).1 = .ok result)
    : result = s.registry.answer task := by
  unfold done at answered
  split at answered
  · cases answered
  · split at answered
    · cases answered
    · next id queued entered =>
        have accepted := (accepted_enqueueOne entered).1.changes (sound.change (.enqueue entered))
          (changes_settle queued)
        have registry := Changes.registry_eq ((changes_settle queued).head (.enqueue entered))
        rcases waited : queued.settle.wait id with ⟨outcome, last⟩
        rw [waited] at answered
        cases outcome with
        | error _ => cases answered
        | ok own =>
            cases answered
            exact registry ▸ accepted.wait_eq_answer (congrArg Prod.fst waited)

/-- The tickets that are answered for a batch are those of its tasks, by induction on the tasks. -/
theorem accepted_enqueueEach (sound : Sound s) {tasks : List (UInt64 × Task)}
    {ids : List (UInt64 × Nat)} (entered : s.enqueueEach tasks = .ok (ids, next))
    : ∀ entry ∈ ids, ∃ task, (entry.1, task) ∈ tasks ∧ Accepted next ⟨entry.2, task⟩ := by
  induction tasks generalizing s ids with
  | nil =>
      simp only [enqueueEach, Except.ok.injEq, Prod.mk.injEq] at entered
      obtain ⟨rfl, _⟩ := entered
      simp
  | cons first rest ih =>
      obtain ⟨index, task⟩ := first
      obtain ⟨id, middle, others, queued, later, rfl⟩ := enqueueEach_cons_eq_ok entered
      have stillSound := sound.change (.enqueue queued)
      intro entry member
      rcases List.mem_cons.mp member with rfl | known
      · have accepted := (accepted_enqueueOne queued).1
        exact ⟨task, List.mem_cons_self, accepted.changes stillSound (changes_enqueueEach later)⟩
      · obtain ⟨other, listed, accepted⟩ := ih stillSound later entry known
        exact ⟨other, List.mem_cons_of_mem _ listed, accepted⟩

/-- Waiting for tickets yields under each index no completion but that of a task that has this
index, by induction on the waits.
-/
theorem answer_of_mem_collect (sound : Sound s) {tasks : List (UInt64 × Task)}
    {arrival? : Nat → Option Instant} {now : Instant} {waits : List (UInt64 × Nat × Instant)}
    (accepted
      : ∀ wait ∈ waits, ∃ task, (wait.1, task) ∈ tasks ∧ Accepted s ⟨wait.2.1, task⟩)
    {index : UInt64} {result : Completion}
    (member : (index, .ok result) ∈ (collect arrival? now waits s).1)
    : ∃ task, (index, task) ∈ tasks ∧ result = s.registry.answer task := by
  induction waits generalizing now s with
  | nil => cases member
  | cons wait rest ih =>
      obtain ⟨first, id, deadline⟩ := wait
      obtain ⟨task, listed, own⟩ := accepted _ List.mem_cons_self
      -- Behind the first wait the other tickets are still accepted, and the handlers the same.
      have later {waited : Scheduler} (changes : Changes s waited)
          (others : (index, .ok result) ∈ (collect arrival?
            (now.await deadline (arrival? id)).2 rest (waited.closeFuture id)).1)
          : ∃ task, (index, task) ∈ tasks ∧ result = s.registry.answer task := by
        have released := changes.tail (.release id)
        rw [← Changes.registry_eq released]
        refine ih (sound.changes released) (fun wait known => ?_) others
        obtain ⟨task, listed, kept⟩ := accepted wait (List.mem_cons_of_mem _ known)
        exact ⟨task, listed, kept.changes sound released⟩
      simp only [collect] at member
      split at member
      · rcases List.mem_cons.mp member with same | others
        · obtain ⟨rfl, yields⟩ := Prod.mk.inj same
          exact ⟨task, listed, own.wait_eq_answer yields.symm⟩
        · exact later (.single (.wait id)) others
      · rcases List.mem_cons.mp member with same | others
        · cases (Prod.mk.inj same).2
        · exact later (.single (.expire id)) others

theorem mem_ids_of_mem_waits {ids : List (UInt64 × Nat)} {deadlines : List Instant}
    {wait : UInt64 × Nat × Instant}
    (member
      : wait ∈ List.zipWith (fun (index, id) deadline => (index, id, deadline)) ids deadlines)
    : (wait.1, wait.2.1) ∈ ids := by
  rw [← List.map_uncurry_zip_eq_zipWith] at member
  obtain ⟨⟨entry, deadline⟩, paired, rfl⟩ := List.mem_map.mp member
  exact (List.of_mem_zip paired).1

/-- A call that waits for a batch answers under each index with no completion but that of the task
that the batch has there.
-/
theorem doneEach_eq_ok (sound : Sound s) {tasks : Batch} {outcomes : Outcomes}
    (answered : (s.doneEach tasks).1 = .ok outcomes) {index : UInt64} {result : Completion}
    (found : outcomes.get? index = some (.ok result))
    : ∃ task, tasks.get? index = some task ∧ result = s.registry.answer task := by
  unfold doneEach at answered
  split at answered
  · cases answered
  · split at answered
    · cases answered
    · next ids queued entered =>
        split at answered
        · cases answered
        · next deadlines _ =>
            cases answered
            have queuedAll := changes_enqueueEach entered
            have changes := queuedAll.trans (changes_settle queued)
            have accepted
                : ∀ wait ∈ List.zipWith (fun (index, id) deadline => (index, id, deadline)) ids
                    deadlines,
                  ∃ task,
                    (wait.1, task) ∈ tasks.toList ∧ Accepted queued.settle ⟨wait.2.1, task⟩ := by
              intro wait member
              obtain ⟨task, listed, own⟩ :=
                accepted_enqueueEach sound entered _ (mem_ids_of_mem_waits member)
              exact ⟨task, listed, own.changes (sound.changes queuedAll) (changes_settle queued)⟩
            have member := SortedMap.mem_of_get?_ofList found
            obtain ⟨task, listed, own⟩ :=
              answer_of_mem_collect (sound.changes changes) accepted member
            refine ⟨task, SortedMap.mem_toList_iff.mp listed, ?_⟩
            rw [own, Changes.registry_eq changes]

end Scheduler

end TaskFabric
