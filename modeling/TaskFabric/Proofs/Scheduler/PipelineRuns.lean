import TaskFabric.Handler.Builtin
import TaskFabric.Proofs.Scheduler.ServiceOrder
import TaskFabric.Proofs.Scheduler.Whereabouts

/-! A pipeline run executes stage after stage. Each stage is one ticket, queued as the stage says
and executed once before the next is queued; the results of a stage are the source of the next, the
context goes through all of them, and the run ends with the first stage that fails or with the last
one.
-/

namespace TaskFabric

-----------------------------------------------------------------------------------------
-- Stages
-----------------------------------------------------------------------------------------

namespace Pipeline

variable {p : Pipeline} {task next : Task}

/-- A task is queued as the stage says at which it is. -/
def AtStage (p : Pipeline) (task : Task) : Prop :=
  ∃ stage,
    p.stages[task.stage.toNat]? = some stage
    ∧ task.consumable = stage.consumable
    ∧ task.priority = stage.priority
    ∧ task.type = stage.type

theorem AtStage.lt_size (there : p.AtStage task) : task.stage.toNat < p.size := by
  obtain ⟨_, found, _⟩ := there
  exact (List.getElem?_eq_some_iff.mp found).1

/-- A task that enters its stage keeps its source, its results and its context. -/
theorem exists_enter? (inside : task.stage.toNat < p.size)
    : ∃ entered,
        p.enter? task task.stage = some entered
        ∧ p.AtStage entered
        ∧ entered.stage = task.stage
        ∧ entered.source = task.source
        ∧ entered.result = task.result
        ∧ entered.context = task.context := by
  obtain ⟨stage, found⟩ : ∃ stage, p.stages[task.stage.toNat]? = some stage :=
    ⟨_, List.getElem?_eq_getElem inside⟩
  let entered : Task :=
    { task with consumable := stage.consumable, priority := stage.priority, type := stage.type }
  refine ⟨entered, ?_, ⟨stage, found, rfl, rfl, rfl⟩, rfl, rfl, rfl, rfl⟩
  rw [enter?, get?, found]
  rfl

theorem enter?_eq_none (outside : p.size ≤ task.stage.toNat) : p.enter? task task.stage = none := by
  rw [enter?, get?, List.getElem?_eq_none outside]
  rfl

/-- A task that moves on is at the next stage, its results have become its source, and the context
is the same.
-/
theorem advance?_eq_some (moved : p.advance? task = some next)
    : p.AtStage next
      ∧ next.stage.toNat = task.stage.toNat + 1
      ∧ next.source = task.result
      ∧ next.result = []
      ∧ next.context = task.context := by
  unfold advance? next? at moved
  split at moved
  · next i numbered =>
      split at numbered
      · next inside =>
          obtain rfl := Option.some.inj numbered
          obtain ⟨stage, found, rfl⟩ := Option.map_eq_some_iff.mp moved
          refine ⟨⟨stage, found, rfl, rfl, rfl⟩, ?_, rfl, rfl, rfl⟩
          have one : (1 : UInt64).toNat = 1 := rfl
          rw [UInt64.toNat_add, one, Nat.mod_eq_of_lt inside.1]
      · cases numbered
  · cases moved

/-- A task that cannot move on is at the last stage that a number stands for. -/
theorem advance?_eq_none (stays : p.advance? task = none) (inside : task.stage.toNat < p.size)
    : task.stage.toNat + 1 = min p.size UInt64.size := by
  have bounded := task.stage.toNat_lt_size
  by_cases further : task.stage.toNat + 1 < UInt64.size ∧ task.stage.toNat + 1 < p.size
  · have one : (1 : UInt64).toNat = 1 := rfl
    have number : (task.stage + 1).toNat = task.stage.toNat + 1 := by
      rw [UInt64.toNat_add, one, Nat.mod_eq_of_lt further.1]
    have found : p.stages[task.stage.toNat + 1]? = some _ := List.getElem?_eq_getElem further.2
    simp [advance?, next?, further, enter?, get?, number, found] at stays
  · omega

end Pipeline

-----------------------------------------------------------------------------------------
-- Passing stages
-----------------------------------------------------------------------------------------

/-- How a task passes the stages of a pipeline from its own on: the tasks that are queued for them,
one for each, and what each of them is completed with. The first stage has the source, the results
and the context of the task; every later one has the results of the stage before as its source, no
results, and the context of the stage before, which was good. Unless the last of them failed, there
is no stage behind it; a list that has more stages than there are numbers for them ends there.
-/
structure Passage (registry : Registry) (p : Pipeline) (task : Task) (queued : List Task)
    (completed : List Completion) : Prop where
  nonempty : 0 < queued.length
  sizes : completed.length = queued.length
  entered
    : ∀ (j : Nat) t,
        queued[j]? = some t → p.AtStage t ∧ t.stage.toNat = task.stage.toNat + j
  first
    : ∀ t,
        queued.head? = some t
        → t.source = task.source ∧ t.result = task.result ∧ t.context = task.context
  executed
    : ∀ (j : Nat) t c,
        queued[j]? = some t → completed[j]? = some c → Scheduler.Completes registry t c
  later
    : ∀ (j : Nat) c t,
        completed[j]? = some c
        → queued[j + 1]? = some t
        → c.ok = true
          ∧ t.source = c.task.result
          ∧ t.result = []
          ∧ t.context = c.task.context
  last
    : ∀ c,
        completed.getLast? = some c
        → c.ok = true
        → task.stage.toNat + queued.length = min p.size UInt64.size

namespace Passage

variable {registry : Registry} {p : Pipeline} {task next : Task} {queued : List Task}
  {completed : List Completion} {c : Completion}

/-- A stage that fails, or has no stage behind it, is passed alone. -/
theorem single (there : p.AtStage task) (completes : Scheduler.Completes registry task c)
    (ends : c.ok = true → p.advance? c.task = none)
    : Passage registry p task [task] [c] where
  nonempty := Nat.one_pos
  sizes := rfl
  entered j t found := by
    obtain ⟨rfl, rfl⟩ : j = 0 ∧ task = t := by simpa [List.getElem?_singleton] using found
    exact ⟨there, rfl⟩
  first t found := by
    obtain rfl : task = t := by simpa using found
    exact ⟨rfl, rfl, rfl⟩
  executed j t c' found done := by
    obtain ⟨rfl, rfl⟩ : j = 0 ∧ task = t := by simpa [List.getElem?_singleton] using found
    obtain rfl : c = c' := by simpa using done
    exact completes
  later j c' t _ found := by simp at found
  last c' done good := by
    obtain rfl : c = c' := by simpa using done
    have inside := there.lt_size
    rw [← completes.stage] at inside ⊢
    exact Pipeline.advance?_eq_none (ends good) inside

/-- A good stage is passed before those behind it. -/
theorem cons (there : p.AtStage task) (completes : Scheduler.Completes registry task c)
    (good : c.ok = true) (moved : p.advance? c.task = some next)
    (rest : Passage registry p next queued completed)
    : Passage registry p task (task :: queued) (c :: completed) := by
  obtain ⟨_, number, source, result, context⟩ := Pipeline.advance?_eq_some moved
  rw [completes.stage] at number
  refine {
    nonempty := Nat.succ_pos _
    sizes := congrArg (· + 1) rest.sizes
    entered := fun j t found => ?_
    first := fun t found => ?_
    executed := fun j t c' found done => ?_
    later := fun j c' t done found => ?_
    last := fun c' done ok => ?_
  }
  · cases j with
    | zero =>
        obtain rfl : task = t := by simpa using found
        exact ⟨there, rfl⟩
    | succ j =>
        obtain ⟨entered, stage⟩ := rest.entered j t found
        exact ⟨entered, by omega⟩
  · obtain rfl : task = t := by simpa using found
    exact ⟨rfl, rfl, rfl⟩
  · cases j with
    | zero =>
        obtain rfl : task = t := by simpa using found
        obtain rfl : c = c' := by simpa using done
        exact completes
    | succ j => exact rest.executed j t c' found done
  · cases j with
    | zero =>
        obtain rfl : c = c' := by simpa using done
        obtain ⟨ownSource, ownResult, ownContext⟩ := rest.first t (List.head?_eq_getElem? ▸ found)
        exact ⟨good, ownSource.trans source, ownResult.trans result, ownContext.trans context⟩
    | succ j => exact rest.later j c' t done found
  · have longer : completed ≠ [] := List.ne_nil_of_length_pos (rest.sizes ▸ rest.nonempty)
    rw [List.getLast?_cons_of_ne_nil longer] at done
    have ended := rest.last c' done ok
    rw [List.length_cons]
    omega

/-- The last completion is that of the last stage that was queued. -/
theorem stage_last (passage : Passage registry p task queued completed)
    (last : completed.getLast? = some c)
    : c.task.stage.toNat + 1 = task.stage.toNat + queued.length := by
  rw [List.getLast?_eq_getElem?, passage.sizes] at last
  have nonempty := passage.nonempty
  obtain ⟨t, found⟩ : ∃ t, queued[queued.length - 1]? = some t :=
    ⟨_, List.getElem?_eq_getElem (Nat.sub_one_lt_of_lt nonempty)⟩
  rw [(passage.executed _ t c found last).stage, (passage.entered _ t found).2]
  omega

/-- The last completion is good only if every stage was. -/
theorem ok_last_iff (passage : Passage registry p task queued completed)
    (last : completed.getLast? = some c)
    : c.ok = true ↔ ∀ c ∈ completed, c.ok = true := by
  constructor
  · intro good c' member
    obtain ⟨j, inside, rfl⟩ := List.getElem_of_mem member
    have sizes := passage.sizes
    rw [List.getLast?_eq_getElem?] at last
    by_cases behind : j + 1 < queued.length
    · exact (passage.later j _ _ (List.getElem?_eq_getElem inside)
        (List.getElem?_eq_getElem behind)).1
    · obtain rfl : j = completed.length - 1 := by omega
      rw [List.getElem?_eq_getElem inside] at last
      exact Option.some.inj last ▸ good
  · exact fun all => all c (List.mem_of_getLast? last)

end Passage

-----------------------------------------------------------------------------------------
-- Executed tickets
-----------------------------------------------------------------------------------------

namespace Scheduler

variable {registry : Registry} {s middle next : Scheduler} {task : Task} {ticket : Ticket}

/-- A scheduler accepts some tickets and executes each of them once, in their order. What it
executes besides has lower numbers than a first one.
-/
def Executes (first : Nat) (tickets : List Ticket) (s next : Scheduler) : Prop :=
  ∃ actions,
    let w := (Watch.start s).performAll actions
    w.scheduler = next
    ∧ w.accepted = tickets
    ∧ w.taken.filter (first ≤ ·.id) = tickets
    ∧ w.finished.filter (first ≤ ·.id) = tickets

theorem Executes.trans {first : Nat} {tickets more : List Ticket}
    (here : Executes first tickets s middle) (there : Executes first more middle next)
    : Executes first (tickets ++ more) s next := by
  obtain ⟨actions, rfl, accepted, taken, finished⟩ := here
  obtain ⟨later, reached, acceptedLater, takenLater, finishedLater⟩ := there
  refine ⟨actions ++ later, ?_⟩
  rw [Watch.performAll_append, Watch.performAll_eq_append]
  refine ⟨reached, ?_, ?_, ?_⟩
  · rw [Watch.append, accepted, acceptedLater]
  · rw [Watch.append, List.filter_append, taken, takenLater]
  · rw [Watch.append, List.filter_append, finished, finishedLater]

/-- Whether an action queues a task. -/
def Action.submits (a : Action) : Bool := a matches .submit _

theorem accepted_performAll {actions : List Action} (none : ∀ a ∈ actions, a.submits = false)
    (w : Watch)
    : (w.performAll actions).accepted = w.accepted := by
  induction actions generalizing w with
  | nil => rfl
  | cons a rest ih =>
      have later := ih (fun a member => none a (List.mem_cons_of_mem _ member)) (w.perform a)
      refine later.trans ?_
      cases a with
      | submit task => cases none _ List.mem_cons_self
      | step id =>
          simp only [Watch.perform]
          split <;> rfl
      | _ => rfl

/-- A task that a scheduler waits for is queued, and behind that nothing is. -/
theorem Serving.exists_actions_done (serving : Serving registry s) (task : Task)
    : ∃ behind : List Action,
        (∀ a ∈ behind, a.submits = false)
        ∧ s.performAll (.submit task :: behind) = (s.done task).2 := by
  obtain ⟨limit, _, bounded, _⟩ := serving.punctual task.type
  obtain ⟨id, queued, entered⟩ := exists_enqueueOne serving.isOpen task
  obtain ⟨woken, submitted⟩ := exists_wakes_enqueueOne entered
  have sound := serving.reached.sound_and_vigilant.1.change (.enqueue entered)
  obtain ⟨stepped, settled⟩ := exists_steps_run queued.work sound
  refine ⟨woken.map .wake ++ (stepped.map .step ++ [.wait id, .release id]), ?_, ?_⟩
  · intro a member
    simp only [List.mem_append, List.mem_map, List.mem_cons, List.not_mem_nil, or_false] at member
    rcases member with ⟨_, _, rfl⟩ | ⟨_, _, rfl⟩ | rfl | rfl <;> rfl
  · rw [← List.cons_append, performAll_append, submitted, performAll_append, settled]
    simp only [Scheduler.done, bounded, entered]
    rfl

theorem outstanding_iff : s.Outstanding ticket ↔ ticket ∈ s.lanes.tickets ++ s.held := by
  have held (w : Worker)
      : w.ticket? = some ticket ↔ ∃ handler, w.activity = .busy ticket handler := by
    cases doing : w.activity <;> simp [Worker.ticket?, doing]
  simp only [Outstanding, Scheduler.held, List.mem_append, List.mem_filterMap, held]

/-- When a scheduler that serves has completed a task, no ticket is out. -/
theorem Serving.not_outstanding_done (serving : Serving registry s) (prompt : registry.Prompt)
    (task : Task) (ticket : Ticket)
    : ¬(s.done task).2.Outstanding ticket := by
  obtain ⟨limit, _, bounded, _⟩ := serving.punctual task.type
  obtain ⟨id, queued, entered⟩ := exists_enqueueOne serving.isOpen task
  have waiting := serving.keep (.single (.enqueue entered)) (sameSetting_enqueueOne entered)
  have settled := waiting.keep (changes_settle queued) (sameSetting_settle queued)
  obtain ⟨sound, vigilant⟩ := settled.reached.sound_and_vigilant
  have quiet := quiet_settle waiting.reached.sound_and_vigilant.1
  have rest := quiet.not_outstanding sound vigilant (settled.reached.gate_eq_nil prompt)
    settled.isOpen settled.runs ticket
  simp only [Scheduler.done, bounded, entered]
  exact rest

/-- A scheduler that can be reached was watched from its start, and dropped nothing while open. -/
theorem Reached.exists_watch (reached : Reached registry s)
    : ∃ w : Watch, w.Orderly ∧ w.scheduler = s ∧ w.Serves (fun _ => false) [] := by
  obtain ⟨expire, changes⟩ := reached
  have sound := sound_create registry expire
  obtain ⟨actions, rfl⟩ := changes.exists_actions sound
  have serves : (Watch.start (create registry expire)).Serves (fun _ => false) [] :=
    ⟨sound, by simp, by simp, fun _ => rfl, fun _ => rfl⟩
  exact ⟨_, (Watch.orderly_start registry expire).performAll actions,
    Watch.scheduler_performAll _ actions, serves.performAll actions⟩

/-- Where all tickets were dealt with but some that are out, and then all with one more, that one is
the only one of its kind that was dealt with in between.
-/
theorem filter_eq_singleton_of_perm {mine : Ticket → Bool} {out before behind all : List Ticket}
    (earlier : (out ++ before).Perm all) (later : (before ++ behind).Perm (all ++ [ticket]))
    (old : ∀ t ∈ out, mine t = false) (own : mine ticket = true)
    : behind.filter mine = [ticket] := by
  have none : out.filter mine = [] :=
    List.filter_eq_nil_iff.mpr fun t member => Bool.eq_false_iff.mp (old t member)
  have dealt := earlier.filter mine
  have dealtLater := later.filter mine
  simp only [List.filter_append, none, List.nil_append, List.filter_singleton, own, cond_true]
    at dealt dealtLater
  have same := dealtLater.trans (dealt.symm.append_right [ticket])
  exact List.perm_singleton.mp ((List.perm_append_left_iff _).mp same)

/-- A scheduler that serves executes a task that it completes, and no other one that is as new. -/
theorem Serving.executes_done (serving : Serving registry s) (prompt : registry.Prompt)
    (task : Task) {first : Nat} (older : ∀ ticket, s.Outstanding ticket → ticket.id < first)
    (higher : first ≤ s.nextTicket)
    : Executes first [⟨s.nextTicket, task⟩] s (s.done task).2
      ∧ (s.done task).2.nextTicket = s.nextTicket + 1 := by
  obtain ⟨before, orderly, rfl, serves⟩ := serving.reached.exists_watch
  obtain ⟨behind, none, reached⟩ := serving.exists_actions_done task
  generalize made : Action.submit task :: behind = actions at reached
  -- The records of the call, alone and behind those of all that was before.
  let w := (Watch.start before.scheduler).performAll actions
  have scheduler : w.scheduler = (before.scheduler.done task).2 :=
    (Watch.scheduler_performAll _ actions).trans reached
  have accepted : w.accepted = [⟨before.scheduler.nextTicket, task⟩] := by
    obtain ⟨lanes, pushed⟩ :=
      Lanes.exists_push? serving.isOpen ⟨before.scheduler.nextTicket, task⟩
    have first
        : ((Watch.start before.scheduler).perform (.submit task)).accepted
          = [⟨before.scheduler.nextTicket, task⟩] := by
      simp [Watch.perform, Watch.start, push?, pushed]
    subst made
    exact (accepted_performAll none _).trans first
  have whole := before.performAll_eq_append actions
  have after : (before.append w).Orderly := whole ▸ orderly.performAll actions
  have rest : w.scheduler.lanes.tickets ++ w.scheduler.held = [] := by
    refine List.eq_nil_iff_forall_not_mem.mpr fun ticket out => ?_
    rw [scheduler] at out
    exact serving.not_outstanding_done prompt task ticket (outstanding_iff.mpr out)
  -- Nothing was dropped, since the lanes are open.
  have kept : before.dropped ++ w.dropped = [] := by
    have served := (whole ▸ serves.performAll actions).kept
    refine served (Eq.trans ?_ serving.isOpen)
    exact (congrArg (·.lanes.closed) scheduler).trans (sameSetting_done _ task).closed
  obtain ⟨keptBefore, keptNow⟩ := List.append_eq_nil_iff.mp kept
  have earlier
      : (before.scheduler.lanes.tickets ++ before.scheduler.held ++ before.finished).Perm
          before.accepted := by
    simpa only [keptBefore, List.append_nil] using orderly.conserved
  have earlierTaken : (before.scheduler.lanes.tickets ++ before.taken).Perm before.accepted := by
    refine .trans ?_ earlier
    rw [List.append_assoc]
    exact orderly.executed.symm.append_left _
  have finished
      : (before.finished ++ w.finished).Perm
          (before.accepted ++ [⟨before.scheduler.nextTicket, task⟩]) := by
    have conserved := after.conserved
    simp only [Watch.append, rest, kept, accepted, List.nil_append, List.append_nil] at conserved
    exact conserved
  have taken
      : (before.taken ++ w.taken).Perm
          (before.accepted ++ [⟨before.scheduler.nextTicket, task⟩]) := by
    have executed := after.executed
    simp only [Watch.append, (List.append_eq_nil_iff.mp rest).2, List.nil_append] at executed
    exact executed.symm.trans finished
  have old : ∀ t ∈ before.scheduler.lanes.tickets ++ before.scheduler.held,
      decide (first ≤ t.id) = false := by
    intro t out
    have lower := older t (outstanding_iff.mpr out)
    simpa using lower
  have own : decide (first ≤ before.scheduler.nextTicket) = true := by simpa using higher
  refine ⟨⟨actions, scheduler, accepted, ?_, ?_⟩, ?_⟩
  · exact filter_eq_singleton_of_perm earlierTaken taken
      (fun t member => old t (List.mem_append_left _ member)) own
  · exact filter_eq_singleton_of_perm earlier finished old own
  · have numbers := congrArg List.length after.numbered
    have numbersBefore := congrArg List.length orderly.numbered
    simp only [Watch.append, accepted, scheduler, List.length_map, List.length_append,
      List.length_singleton, List.length_range] at numbers numbersBefore
    omega

-----------------------------------------------------------------------------------------
-- Runs
-----------------------------------------------------------------------------------------

/-- The tickets of tasks that are queued one after another. -/
def ticketsFrom (first : Nat) (tasks : List Task) : List Ticket :=
  (tasks.zipIdx first).map fun (task, id) => ⟨id, task⟩

/-- What a run through stages comes to: a passage, whose last completion is answered, and whose
tasks were executed in turn.
-/
structure PassesTo (registry : Registry) (p : Pipeline) (task : Task) (first : Nat)
    (s : Scheduler) (ran : Except CallError Completion × Scheduler) (queued : List Task)
    (completed : List Completion) (result : Completion) : Prop where
  passage : Passage registry p task queued completed
  last : completed.getLast? = some result
  answered : ran.1 = .ok result
  executes : Executes first (ticketsFrom s.nextTicket queued) s ran.2

/-- A task passes the stages of a pipeline from its own on, by induction on the stages that may be
left.
-/
theorem Serving.exists_passesTo (serving : Serving registry s) (prompt : registry.Prompt)
    {p : Pipeline} (there : p.AtStage task) {fuel : Nat}
    (enough : p.size ≤ task.stage.toNat + fuel) {first : Nat}
    (older : ∀ ticket, s.Outstanding ticket → ticket.id < first) (higher : first ≤ s.nextTicket)
    : ∃ queued completed result,
        PassesTo registry p task first s (runStages p fuel task s) queued completed result := by
  induction fuel generalizing s task with
  | zero =>
      have inside := there.lt_size
      omega
  | succ fuel ih =>
      obtain ⟨answered, still⟩ := serving.done prompt task
      obtain ⟨executes, number⟩ := serving.executes_done prompt task older higher
      have rest := serving.not_outstanding_done prompt task
      have completes := completes_answer registry task
      rcases ran : s.done task with ⟨outcome, next⟩
      simp only [ran] at answered still executes number rest
      subst answered
      -- A stage that is not followed by another one ends the run.
      have alone (ends : (registry.answer task).ok = true
            → p.advance? (registry.answer task).task = none)
          : PassesTo registry p task first s (.ok (registry.answer task), next) [task]
              [registry.answer task] (registry.answer task) :=
        ⟨.single there completes ends, rfl, rfl, executes⟩
      simp only [runStages, ran]
      cases good : (registry.answer task).ok with
      | false => exact ⟨_, _, _, alone (by simp [good])⟩
      | true =>
          cases moved : p.advance? (registry.answer task).task with
          | none => exact ⟨_, _, _, alone fun _ => moved⟩
          | some entered =>
              obtain ⟨stays, stage, _⟩ := Pipeline.advance?_eq_some moved
              rw [completes.stage] at stage
              obtain ⟨queued, completed, result, passes⟩ := ih still stays (by omega)
                (fun ticket out => absurd out (rest ticket)) (by omega)
              have nonempty : completed ≠ [] :=
                List.ne_nil_of_length_pos (passes.passage.sizes ▸ passes.passage.nonempty)
              refine ⟨task :: queued, registry.answer task :: completed, result, {
                passage := passes.passage.cons there completes good moved
                last := (List.getLast?_cons_of_ne_nil nonempty).trans passes.last
                answered := passes.answered
                executes := ?_
              }⟩
              have whole := executes.trans passes.executes
              rw [number] at whole
              exact whole

/-- A task that starts behind the last stage of a pipeline comes back unchanged and failed, and
nothing is queued. Any other task passes the stages from its own on, as the scheduler serves and the
handlers end by themselves: each stage is executed once, in its turn, up to the first that fails or
to the last, whose completion is the answer; and the answer is good only if no stage failed.
-/
theorem runPipeline_passes_stages (serving : Serving registry s) (prompt : registry.Prompt)
    (task : Task) (p : Pipeline)
    : (p.size ≤ task.stage.toNat → s.runPipeline task p = (.ok ⟨task, false⟩, s))
      ∧ (task.stage.toNat < p.size
          → ∃ queued completed result,
              Passage registry p task queued completed
              ∧ completed.getLast? = some result
              ∧ (s.runPipeline task p).1 = .ok result
              ∧ result.task.stage.toNat + 1 = task.stage.toNat + queued.length
              ∧ (result.ok = true ↔ ∀ c ∈ completed, c.ok = true)
              ∧ Executes s.nextTicket (ticketsFrom s.nextTicket queued) s
                  (s.runPipeline task p).2) := by
  refine ⟨fun outside => ?_, fun inside => ?_⟩
  · rw [runPipeline, Pipeline.enter?_eq_none outside]
  · obtain ⟨entered, enters, there, stage, source, results, context⟩ :=
      Pipeline.exists_enter? inside
    obtain ⟨queued, completed, result, passes⟩ := serving.exists_passesTo prompt there
      (Nat.le_add_left p.size _) serving.reached.sound_and_vigilant.1.issued (Nat.le_refl _)
    have passage : Passage registry p task queued completed := by
      have own := passes.passage
      exact { own with
        entered := stage ▸ own.entered
        first := source ▸ results ▸ context ▸ own.first
        last := stage ▸ own.last }
    simp only [runPipeline, enters]
    exact ⟨queued, completed, result, passage, passes.last, passes.answered,
      passage.stage_last passes.last, passage.ok_last_iff passes.last, passes.executes⟩

/-- A registry with one handler, which adds the source of a task to its results. -/
def relayHandlers : Registry := Registry.empty.register "echo" .echo

/-- Four stages, of which the third has no handler. -/
def relay : Pipeline :=
  ⟨[⟨"first", "echo", .low, .short⟩, ⟨"second", "echo", .urgent, .long⟩,
    ⟨"third", "nobody", .high, .routine⟩, ⟨"fourth", "echo", .base, .short⟩]⟩

/-- A task that starts at the second stage and has a result already. -/
def baton : Task := { Task.empty with source := [.str "a"], result := [.str "b"], stage := 1 }

/-- A scheduler with one worker that looks for work. -/
def relayScheduler : Scheduler := started relayHandlers (.ofMillis 5000) 1

/-- The task passes two stages and fails at the second of them, with what the first left. -/
theorem runPipeline_passes_stages_relay
    : ∃ queued completed,
        Passage relayHandlers relay baton queued completed
        ∧ queued.length = 2
        ∧ (relayScheduler.runPipeline baton relay).1
          = .ok ⟨⟨.routine, .high, "nobody", [.str "b", .str "a"], [], ∅, 2⟩, false⟩
        ∧ Executes relayScheduler.nextTicket (ticketsFrom relayScheduler.nextTicket queued)
            relayScheduler (relayScheduler.runPipeline baton relay).2 := by
  have serving : Serving relayHandlers relayScheduler :=
    serving_started relayHandlers 5000 (by decide)
  have prompt : relayHandlers.Prompt := Registry.prompt_empty.register "echo" rfl
  obtain ⟨queued, completed, result, passage, _, answered, stage, _, executes⟩ :=
    (runPipeline_passes_stages serving prompt baton relay).2 (by decide)
  have known
      : (relayScheduler.runPipeline baton relay).1
        = .ok ⟨⟨.routine, .high, "nobody", [.str "b", .str "a"], [], ∅, 2⟩, false⟩ :=
    rfl
  obtain rfl := Except.ok.inj (answered.symm.trans known)
  have size : 2 + 1 = 1 + queued.length := stage
  exact ⟨queued, completed, passage, by omega, known, executes⟩

end Scheduler

end TaskFabric
