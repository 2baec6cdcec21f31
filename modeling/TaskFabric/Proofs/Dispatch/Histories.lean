import TaskFabric.Proofs.Dispatch.Interleaving

/-! The acts of one execution. Its phase tells everything that it has done so far, and a result is
the untouched task, what the peer returned, or what became of the task at the node.
-/

namespace TaskFabric.Dispatch

-----------------------------------------------------------------------------------------
-- What a phase says about the acts before it
-----------------------------------------------------------------------------------------

/-- The acts before a task is run at the node: none if that is its place, otherwise a call to its
peer whose answer has nothing under the index.
-/
inductive Approach (index : UInt64) (task : Task) : Placement → List Act → Prop
  | here : Approach index task .here []
  | missed {card answer} (missing : peerResult? index answer = none)
    : Approach index task (.peer card)
        [.call card (SortedMap.ofList [(index, task)]), .answer answer]

/-- The acts that end with a result. -/
inductive Concluded (index : UInt64) (task : Task) : Placement → List Act → Task → Prop
  | untouched : Concluded index task .nowhere [] task
  | returned {card answer result} (found : peerResult? index answer = some result)
    : Concluded index task (.peer card)
        [.call card (SortedMap.ofList [(index, task)]), .answer answer] result
  | own {place before outcome result} (approach : Approach index task place before)
    (own : ownResult task (outcome.mapError .refused) = some result)
    : Concluded index task place (before ++ [.submit task, .outcome outcome]) result

/-- The acts that lead to a phase. -/
def Explains (expire : Duration) (index : UInt64) (task : Task) (place : Placement)
    (acts : List Act)
    : Phase → Prop
  | .toCall card => place = .peer card ∧ acts = []
  | .awaiting =>
      ∃ card, place = .peer card ∧ acts = [.call card (SortedMap.ofList [(index, task)])]
  | .toRun => Approach index task place acts
  | .running => ∃ before, Approach index task place before ∧ acts = before ++ [.submit task]
  | .ended result => Concluded index task place acts result
  | .finished =>
      task.type.expiry? expire = none
      ∧ ∃ before, Approach index task place before ∧ acts = before ++ [.breakOff]

variable {expire : Duration} {index : UInt64} {task : Task} {place : Placement} {acts : List Act}

theorem explains_start (expire : Duration) (index : UInt64) (task : Task) (place : Placement)
    : Explains expire index task place [] (Phase.start task place) := by
  cases place with
  | here => exact .here
  | peer card => exact ⟨rfl, rfl⟩
  | nowhere => exact .untouched

/-- A move adds its act to the explanation, by cases on the move. -/
theorem Explains.move {phase next : Phase} {act : Act}
    (explains : Explains expire index task place acts phase)
    (move : Move expire index task phase act next)
    : Explains expire index task place (acts ++ [act]) next := by
  cases move with
  | call =>
      obtain ⟨rfl, rfl⟩ := explains
      exact ⟨_, rfl, rfl⟩
  | returned found =>
      obtain ⟨card, rfl, rfl⟩ := explains
      exact .returned found
  | fallBack missing =>
      obtain ⟨card, rfl, rfl⟩ := explains
      exact .missed missing
  | submit _ => exact ⟨acts, explains, rfl⟩
  | breakOff unbounded => exact ⟨unbounded, acts, explains, rfl⟩
  | outcome own =>
      obtain ⟨before, approach, rfl⟩ := explains
      simpa only [List.append_assoc, List.singleton_append, Explains]
        using Concluded.own approach own

/-- The acts of one execution, whatever its phase: at most one call, which hands over the task
alone under its index, and at most one submission, of the task as it was given; both only if the
peer brought nothing back; and neither for a task that runs nowhere.
-/
structure Sparing (index : UInt64) (task : Task) (place : Placement) (acts : List Act) : Prop where
  calls : acts.countP Act.isCall ≤ 1
  submissions : acts.countP Act.isSubmission ≤ 1
  called
    : ∀ peer batch,
        Act.call peer batch ∈ acts
        → place = .peer peer ∧ batch = SortedMap.ofList [(index, task)]
  submitted : ∀ other, Act.submit other ∈ acts → other = task
  fallback
    : (∃ peer batch, Act.call peer batch ∈ acts)
      → (∃ other, Act.submit other ∈ acts)
      → ∃ answer, Act.answer answer ∈ acts ∧ peerResult? index answer = none
  nowhere : place = .nowhere → acts = []

theorem Approach.sparing {before : List Act} (approach : Approach index task place before)
    : before.countP Act.isCall ≤ 1
      ∧ before.countP Act.isSubmission = 0
      ∧ (∀ peer batch,
          Act.call peer batch ∈ before
          → place = .peer peer
            ∧ batch = SortedMap.ofList [(index, task)]
            ∧ ∃ answer, Act.answer answer ∈ before ∧ peerResult? index answer = none)
      ∧ (∀ other, Act.submit other ∉ before)
      ∧ place ≠ .nowhere := by
  cases approach with
  | here => simp
  | missed missing =>
      refine ⟨?_, by simp [Act.isSubmission], ?_, by simp, by simp⟩
      · simp [List.countP_cons, Act.isCall]
      · intro peer batch member
        simp only [List.mem_cons, Act.call.injEq, reduceCtorEq, List.not_mem_nil, or_false]
          at member
        obtain ⟨rfl, rfl⟩ := member
        exact ⟨rfl, rfl, _, by simp, missing⟩

/-- Acts at the node that follow an approach keep it sparing: one submission, and no call. -/
theorem Approach.sparing_append {before after : List Act}
    (approach : Approach index task place before) (noCalls : after.countP Act.isCall = 0)
    (submissions : after.countP Act.isSubmission ≤ 1)
    (submitted : ∀ other, Act.submit other ∈ after → other = task)
    : Sparing index task place (before ++ after) := by
  obtain ⟨hc, hs, called, silent, somewhere⟩ := approach.sparing
  have calls {peer batch} : Act.call peer batch ∉ after := fun member =>
    absurd (List.countP_eq_zero.mp noCalls _ member) (by simp [Act.isCall])
  refine {
    calls := by rw [List.countP_append, noCalls]; omega
    submissions := by rw [List.countP_append, hs]; omega
    called := ?_
    submitted := ?_
    fallback := ?_
    nowhere := fun nowhere => absurd nowhere somewhere
  }
  · intro peer batch member
    rcases List.mem_append.mp member with early | late
    · exact ⟨(called peer batch early).1, (called peer batch early).2.1⟩
    · exact absurd late calls
  · intro other member
    rcases List.mem_append.mp member with early | late
    · exact absurd early (silent other)
    · exact submitted other late
  · rintro ⟨peer, batch, member⟩ _
    rcases List.mem_append.mp member with early | late
    · obtain ⟨answer, given, missing⟩ := (called peer batch early).2.2
      exact ⟨answer, List.mem_append_left _ given, missing⟩
    · exact absurd late calls

theorem sparing_call {card : Card} {after : List Act}
    (quiet : ∀ act ∈ after, act.isCall = false ∧ act.isSubmission = false)
    : Sparing index task (.peer card)
        (.call card (SortedMap.ofList [(index, task)]) :: after) := by
  have noCalls : after.countP Act.isCall = 0 := by
    apply List.countP_eq_zero.mpr
    intro act member
    simp [(quiet act member).1]
  have noSubmissions : after.countP Act.isSubmission = 0 := by
    apply List.countP_eq_zero.mpr
    intro act member
    simp [(quiet act member).2]
  refine {
    calls := by simp [List.countP_cons, noCalls, Act.isCall]
    submissions := by simp [noSubmissions, Act.isSubmission]
    called := ?_
    submitted := ?_
    fallback := ?_
    nowhere := by simp
  }
  · intro peer batch member
    rcases List.mem_cons.mp member with same | later
    · injection same with hp hb
      exact ⟨congrArg Placement.peer hp.symm, hb⟩
    · exact absurd (quiet _ later).1 (by simp [Act.isCall])
  · intro other member
    rcases List.mem_cons.mp member with same | later
    · cases same
    · exact absurd (quiet _ later).2 (by simp [Act.isSubmission])
  · rintro _ ⟨other, member⟩
    rcases List.mem_cons.mp member with same | later
    · cases same
    · exact absurd (quiet _ later).2 (by simp [Act.isSubmission])

theorem sparing_nil (index : UInt64) (task : Task) (place : Placement)
    : Sparing index task place [] where
  calls := by simp
  submissions := by simp
  called := by simp
  submitted := by simp
  fallback := by simp
  nowhere _ := rfl

theorem Concluded.sparing {result : Task} (concluded : Concluded index task place acts result)
    : Sparing index task place acts := by
  cases concluded with
  | untouched => exact sparing_nil index task _
  | returned _ => exact sparing_call (by simp [Act.isCall, Act.isSubmission])
  | own approach _ =>
      exact approach.sparing_append (by simp [Act.isCall])
        (by simp [List.countP_cons, Act.isSubmission]) (by simp)

/-- The acts that lead to a phase are sparing, by cases on the phase. -/
theorem Explains.sparing {phase : Phase} (explains : Explains expire index task place acts phase)
    : Sparing index task place acts := by
  cases phase with
  | toCall card =>
      obtain ⟨rfl, rfl⟩ := explains
      exact sparing_nil index task _
  | awaiting =>
      obtain ⟨card, rfl, rfl⟩ := explains
      exact sparing_call (by simp)
  | toRun =>
      have sparing : Sparing index task place (acts ++ []) :=
        Approach.sparing_append explains (by simp) (by simp) (by simp)
      simpa only [List.append_nil] using sparing
  | running =>
      obtain ⟨before, approach, rfl⟩ := explains
      exact approach.sparing_append (by simp [Act.isCall])
        (by simp [List.countP_cons, Act.isSubmission]) (by simp)
  | ended result => exact Concluded.sparing explains
  | finished =>
      obtain ⟨_, before, approach, rfl⟩ := explains
      exact approach.sparing_append (by simp [Act.isCall])
        (by simp [Act.isSubmission]) (by simp)

end TaskFabric.Dispatch
