import TaskFabric.Proofs.Gossip.Traffic

/-! Where the views of nodes come from that do nothing but gossip. A view is taken over whole or not
at all, so none is ever made up of others, and none comes back once a newer one has been seen.
-/

namespace TaskFabric

namespace Case

/-- A node that handles a message keeps its view or takes over the newer view of a message that is
meant for it, and stays in its cluster.
-/
theorem digest_exchange (c : Case) (m : Message) (disk : Disk)
    : (c.exchange m disk).2.1.state.id = c.state.id
      ∧ ((c.exchange m disk).2.1.digest = c.digest
        ∨ c.Meant m
          ∧ c.digest.timestamp < m.digest.timestamp
          ∧ (c.exchange m disk).2.1.digest = m.digest) := by
  have outcome := c.exchange_outcome m disk
  generalize c.exchange m disk = result at outcome
  cases outcome with
  | refused _ _ | acknowledged _ _ | ended _ _ => exact ⟨rfl, .inl rfl⟩
  | adopted meant _ _ =>
      refine ⟨rfl, ?_⟩
      rcases c.digest.merge_cases m.digest with ⟨newer, same⟩ | ⟨_, same⟩
      · exact .inr ⟨meant, newer, same⟩
      · exact .inl same

end Case

namespace Traffic

variable {ν : Type} {start t next now later : Traffic ν} {x : ν}

-----------------------------------------------------------------------------------------
-- Views within their clusters
-----------------------------------------------------------------------------------------

/-- Whether a node of a cluster has a view. -/
def Lists (t : Traffic ν) (cluster : String) (d : Digest) : Prop :=
  ∃ y, (t.case y).state.id = cluster ∧ (t.case y).digest = d

/-- Nodes are still of their clusters, and all views around, those of the nodes and those of the
messages, were each there within its cluster at the start.
-/
structure Traced (start t : Traffic ν) : Prop where
  cluster : ∀ x, (t.case x).state.id = (start.case x).state.id
  held : ∀ x, start.Lists (start.case x).state.id (t.case x).digest
  carried : ∀ m ∈ t.sent, start.Lists m.cluster m.digest

/-- Before anything is sent, all views are those of the start. -/
theorem traced_start (silent : start.sent = []) : Traced start start := by
  refine ⟨fun _ => rfl, fun x => ⟨x, rfl, rfl⟩, ?_⟩
  intro m member
  rw [silent] at member
  cases member

variable [DecidableEq ν]

/-- A step gives no node and no message a view that was not there before in the same cluster. -/
theorem Traced.step (traced : Traced start t) (step : Step t next) : Traced start next := by
  cases step with
  | tell x addressee type =>
      refine ⟨traced.cluster, traced.held, ?_⟩
      intro m member
      rcases List.mem_cons.mp member with rfl | before
      · obtain ⟨y, same, view⟩ := traced.held x
        exact ⟨y, same.trans (traced.cluster x).symm, view⟩
      · exact traced.carried m before
  | @handle x m reply _ handles =>
      obtain ⟨arrived, handled⟩ := handles
      rename_i after disk _
      obtain ⟨same, taken⟩ := (t.case x).digest_exchange m disk
      have answered (answer : Message) (replied : reply = some answer)
          : Case.Answers (t.case x) after m answer := by
        have spec := Case.answers_of_exchange ((congrArg Prod.fst handled).trans replied)
        rwa [handled] at spec
      simp only [handled] at same taken
      have cluster : after.state.id = (start.case x).state.id := same.trans (traced.cluster x)
      have own : start.Lists (start.case x).state.id after.digest := by
        rcases taken with kept | ⟨meant, _, adopted⟩
        · exact kept ▸ traced.held x
        · have carried := traced.carried m arrived
          rwa [meant.1, traced.cluster x, ← adopted] at carried
      refine ⟨?_, ?_, ?_⟩
      · intro z
        by_cases here : z = x
        · rw [here, case_answer_self]
          exact cluster
        · rw [case_answer_of_ne t here]
          exact traced.cluster z
      · intro z
        by_cases here : z = x
        · rw [here, case_answer_self]
          exact own
        · rw [case_answer_of_ne t here]
          exact traced.held z
      · intro answer member
        rcases mem_sent_answer.mp member with replied | before
        · have spec := answered answer replied
          rwa [spec.cluster, spec.view, traced.cluster x]
        · exact traced.carried answer before

theorem Traced.run (traced : Traced start t) (run : Run t next) : Traced start next := by
  induction run with
  | refl => exact traced
  | tail _ step ih => exact ih.step step

-----------------------------------------------------------------------------------------
-- Views of one node
-----------------------------------------------------------------------------------------

/-- A step leaves a node its view or gives it a newer one. -/
theorem Step.digest_cases (step : Step t next) (x : ν)
    : (next.case x).digest = (t.case x).digest
      ∨ (t.case x).digest.timestamp < (next.case x).digest.timestamp := by
  cases step with
  | tell _ _ _ => exact .inl rfl
  | @handle z m _ _ handles =>
      obtain ⟨arrived, handled⟩ := handles
      rename_i after disk _
      by_cases same : x = z
      · subst same
        have taken := ((t.case x).digest_exchange m disk).2
        simp only [handled] at taken
        rw [case_answer_self]
        rcases taken with kept | ⟨_, newer, adopted⟩
        · exact .inl kept
        · exact .inr (adopted ▸ newer)
      · rw [case_answer_of_ne t same]
        exact .inl rfl

theorem Run.digest_cases (run : Run t next) (x : ν)
    : (next.case x).digest = (t.case x).digest
      ∨ (t.case x).digest.timestamp < (next.case x).digest.timestamp := by
  induction run with
  | refl => exact .inl rfl
  | tail _ step ih =>
      rcases step.digest_cases x with same | newer
      · exact same ▸ ih
      · rcases ih with before | risen
        · exact .inr (before ▸ newer)
        · exact .inr (UInt64.lt_trans risen newer)

/-- Gossip hands views on as they are, within a cluster, and only forwards. Whatever is sent by
whichever nodes of whichever clusters, and however late, often or out of order it is handled, each
node has at every moment one of the views that nodes of its cluster had at the start, and so does
each message of its cluster. From then on a node has this view or newer ones; and one that has a
view as new as any in its cluster at the start keeps it.
-/
theorem views_are_handed_on (silent : start.sent = []) (before : Run start now)
    (after : Run now later) (x : ν)
    : start.Lists (start.case x).state.id (now.case x).digest
      ∧ (∀ m ∈ now.sent, start.Lists m.cluster m.digest)
      ∧ (now.case x).digest.timestamp ≤ (later.case x).digest.timestamp
      ∧ ((later.case x).digest ≠ (now.case x).digest
          → (now.case x).digest.timestamp < (later.case x).digest.timestamp)
      ∧ ((∀ y, (start.case y).state.id = (start.case x).state.id
            → (start.case y).digest.timestamp ≤ (now.case x).digest.timestamp)
          → (later.case x).digest = (now.case x).digest) := by
  have traced : Traced start now := (traced_start silent).run before
  refine ⟨traced.held x, traced.carried, ?_, ?_, ?_⟩
  · rcases after.digest_cases x with same | newer
    · exact same ▸ UInt64.le_refl _
    · exact UInt64.le_of_lt newer
  · intro changed
    exact (after.digest_cases x).resolve_left changed
  · intro newest
    refine (after.digest_cases x).resolve_right ?_
    intro newer
    -- The later view was there at the start too, so it cannot be newer than the newest one.
    obtain ⟨y, cluster, view⟩ := (traced.run after).held x
    exact UInt64.not_lt.mpr (view ▸ newest y cluster) newer

/-- Two nodes of one cluster and one of another that has the newest view. -/
def neighbours : Traffic (Fin 3) where
  case
    | 0 => .desk "office" 1 [2] 1700000005
    | 1 => .desk "office" 2 [1] 1700000000
    | 2 => .desk "home" 3 [] 1800000000
  sent := []

/-- The newest view of a cluster arrives where it is asked for and stays, though there is a newer
view in another cluster.
-/
theorem newest_of_cluster_stays
    : ∃ now,
        Run neighbours now
        ∧ (now.case 1).digest = (neighbours.case 0).digest
        ∧ (now.case 1).digest ≠ (neighbours.case 1).digest
        ∧ ∀ later, Run now later → (later.case 1).digest = (neighbours.case 0).digest := by
  have recognised : (neighbours.case 1).isLocal (Card.ofAddress "127.0.0.1" 2) = true := by decide
  have together : (neighbours.case 1).state.id = (neighbours.case 0).state.id := by decide
  have different : (1 : Fin 3) ≠ 0 := by decide
  obtain ⟨now, round, _, view⟩ := exists_completedRound different _ together recognised
  have arrived : (now.case 1).digest = (neighbours.case 0).digest := by
    rw [view]
    decide
  refine ⟨now, round.run, arrived, ?_, ?_⟩
  · rw [arrived]
    decide
  · intro later after
    obtain ⟨_, _, _, _, stays⟩ := views_are_handed_on rfl round.run after 1
    rw [← arrived]
    refine stays ?_
    rw [arrived]
    decide

end Traffic

end TaskFabric
