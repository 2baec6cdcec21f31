import TaskFabric.Proofs.Scheduler.Tickets

/-! A scheduler that is left to itself comes to rest. Every step of a worker uses up some of the
work, and when no worker can take a step, no ticket is out: an open scheduler with a worker that
runs has then delivered every completion.
-/

namespace TaskFabric

/-- The part of a worker in the work of its scheduler. -/
def Activity.load : Activity → Nat
  | .awake => 1
  | .busy _ _ => 2
  | _ => 0

theorem Worker.load_activity (w : Worker)
    : w.activity.load = 2 * w.isBusy.toNat + w.isAwake.toNat := by
  cases doing : w.activity <;> simp [Activity.load, isBusy, isAwake, doing]

namespace Scheduler

variable {s next : Scheduler} {w : Worker}

-----------------------------------------------------------------------------------------
-- The work decreases
-----------------------------------------------------------------------------------------

theorem Sound.work_changeWorker (sound : Sound s) (member : w ∈ s.workers) (activity : Activity)
    : (s.changeWorker w.id fun w => { w with activity }).work + w.activity.load
      = s.work + activity.load := by
  have awakes :=
    countP_changeWorker sound.distinct member (fun w => { w with activity }) Worker.isAwake
      Worker.isAwake fun _ _ _ => rfl
  have busies :=
    countP_changeWorker sound.distinct member (fun w => { w with activity }) Worker.isBusy
      Worker.isBusy fun _ _ _ => rfl
  have before := w.load_activity
  have after := Worker.load_activity { w with activity }
  have lanes : (s.changeWorker w.id fun w => { w with activity }).lanes = s.lanes := rfl
  simp only [work, lanes]
  simp only at after
  omega

/-- A worker that takes a step uses up some of the work, by cases on the step. -/
theorem Turn.work_lt (turn : Turn s w next) (sound : Sound s) (member : w ∈ s.workers)
    (able : s.canStep w = true)
    : next.work < s.work := by
  have total := sound.work_changeWorker member
  cases turn with
  | leave awake _ =>
      have less := total .exited
      simp only [awake, Activity.load] at less
      omega
  | sleep awake _ _ =>
      have less := total .asleep
      simp only [awake, Activity.load] at less
      omega
  | @take ticket lanes _ _ awake _ popped _ =>
      have less := total (.busy ticket (s.registry.get? ticket.task.consumable))
      have shorter := (Lanes.pop?_eq_some popped).2.length_eq
      simp only [awake, Activity.load] at less
      simp only [List.length_cons] at shorter
      simp only [work, changeWorker, Lanes.total] at less ⊢
      omega
  | finish busy =>
      have less := total .awake
      simp only [busy, Activity.load] at less
      simp only [work, changeWorker, changeFuture] at less ⊢
      omega
  | rest idle resting =>
      unfold canStep at able
      split at able
      · next awake => exact absurd awake resting
      · next ticket handler busy => exact absurd busy (idle ticket handler)
      · cases able

-----------------------------------------------------------------------------------------
-- Rest
-----------------------------------------------------------------------------------------

/-- No worker can take a step. -/
def Quiet (s : Scheduler) : Prop := ∀ w ∈ s.workers, s.canStep w = false

/-- With as many steps as there is work, a scheduler comes to rest, by induction on the steps. -/
theorem quiet_run (fuel : Nat) (sound : Sound s) (enough : s.work ≤ fuel)
    : (run fuel s).Quiet := by
  induction fuel generalizing s with
  | zero =>
      intro w member
      cases able : s.canStep w with
      | false => exact able
      | true =>
          have less := (turn_step s w).work_lt sound member able
          omega
  | succ fuel ih =>
      unfold run
      split
      · next w found =>
          have member := List.mem_of_find?_eq_some found
          have less := (turn_step s w).work_lt sound member (List.find?_some found)
          exact ih (sound.change (.step member)) (by omega)
      · next missing =>
          intro w member
          simpa using List.find?_eq_none.mp missing w member

theorem quiet_settle (sound : Sound s) : s.settle.Quiet := quiet_run s.work sound (Nat.le_refl _)

end Scheduler

/-- Every handler ends by itself. -/
def Registry.Prompt (r : Registry) : Prop :=
  ∀ name (handler : Handler), r.get? name = some handler → handler.gated = false

theorem Registry.prompt_empty : Registry.empty.Prompt := by
  intro name handler found
  rw [get?, empty, SortedMap.get?_empty] at found
  cases found

theorem Registry.Prompt.register {r : Registry} (prompt : r.Prompt) (name : String)
    {handler : Handler} (ungated : handler.gated = false)
    : (r.register name handler).Prompt := by
  intro other found listed
  rw [get?, Registry.register, SortedMap.get?_insert] at listed
  split at listed
  · cases listed
    exact ungated
  · exact prompt other found listed

namespace Scheduler

variable {s next : Scheduler} {registry : Registry}

theorem Change.registry_eq (change : Change s next) : next.registry = s.registry := by
  cases change with
  | launch launched => rcases launch_eq_ok launched with rfl | ⟨_, _, _, _, rfl⟩ <;> rfl
  | quit told => rw [quit_eq_ok told]
  | enqueue accepted => exact (sameSetting_enqueueOne accepted).registry
  | step _ => exact (sameSetting_step _ _).registry
  | attach | launchAll | wait _ | expire _ | release _ | close | pass _ => rfl

theorem Changes.registry_eq (changes : Changes s next) : next.registry = s.registry := by
  induction changes with
  | refl => rfl
  | tail _ change ih => exact change.registry_eq.trans ih

theorem Reached.registry_eq (reached : Reached registry s) : s.registry = registry := by
  obtain ⟨_, changes⟩ := reached
  exact Changes.registry_eq changes

theorem Change.gate_eq_nil (change : Change s next) (prompt : s.registry.Prompt)
    (free : s.gate = [])
    : next.gate = [] := by
  cases change with
  | launch launched => rcases launch_eq_ok launched with rfl | ⟨_, _, _, _, rfl⟩ <;> exact free
  | quit told => rw [quit_eq_ok told]; exact free
  | enqueue accepted =>
      obtain ⟨_, lanes, _, rfl⟩ := enqueueOne_eq_ok accepted
      unfold Scheduler.wakeOne
      split <;> exact free
  | @step w _ =>
      have turn := turn_step s w
      generalize s.step w = next at turn
      cases turn with
      | leave _ _ | sleep _ _ _ | rest _ _ => exact free
      | @take ticket _ _ gate _ _ _ gated =>
          have passes : (s.registry.get? ticket.task.consumable).any Handler.gated = false := by
            cases found : s.registry.get? ticket.task.consumable with
            | none => rfl
            | some handler => exact prompt _ handler found
          simp only [passes, Bool.false_eq_true, if_false] at gated
          exact gated.trans free
      | finish _ => simp [free]
  | attach | launchAll | wait _ | expire _ | release _ | close | pass _ => exact free

/-- With handlers that end by themselves nobody waits at the gate. -/
theorem Reached.gate_eq_nil (reached : Reached registry s) (prompt : registry.Prompt)
    : s.gate = [] := by
  obtain ⟨expire, changes⟩ := reached
  induction changes with
  | refl => rfl
  | tail before change ih =>
      exact change.gate_eq_nil (Changes.registry_eq before ▸ prompt) ih

/-- At rest, an open scheduler with a worker that runs has no ticket that is out: a worker that
holds one would finish, and one that sleeps is not alone with waiting tickets.
-/
theorem Quiet.not_outstanding (quiet : s.Quiet) (sound : Sound s) (vigilant : Vigilant s)
    (free : s.gate = []) (isOpen : s.lanes.closed = false)
    (runs : .running ∈ s.workers.map Worker.state) (ticket : Ticket)
    : ¬s.Outstanding ticket := by
  have notBusy : ∀ w ∈ s.workers, ∀ ticket handler, w.activity ≠ .busy ticket handler := by
    intro w member ticket handler busy
    have able := quiet w member
    simp [canStep, busy, free] at able
  have notAwake : ∀ w ∈ s.workers, w.activity ≠ .awake := by
    intro w member awake
    have able := quiet w member
    simp [canStep, awake] at able
  rintro (queued | ⟨w, member, handler, busy⟩)
  · obtain ⟨w, member, running⟩ := List.mem_map.mp runs
    have fits := sound.fits w member
    have asleep : w.activity = .asleep := by
      cases doing : w.activity with
      | unborn => exact absurd doing (fits.born running)
      | awake => exact absurd doing (notAwake w member)
      | asleep => rfl
      | busy ticket handler => exact absurd doing (notBusy w member ticket handler)
      | exited =>
          have shut := fits.exited running doing
          rw [isOpen] at shut
          cases shut
    obtain ⟨active, here, _, up⟩ := vigilant (List.ne_nil_of_mem queued) w member asleep
    rcases up with awake | ⟨ticket, handler, busy⟩
    · exact notAwake active here awake
    · exact notBusy active here ticket handler busy
  · exact notBusy w member ticket handler busy

end Scheduler

end TaskFabric
