import TaskFabric.Proofs.Gossip.Partners

/-! Whether the order in which views arrive matters. Merging is idempotent and associative, and the
second of the result is the later one; but of two views of one second the first one stays, so they
come together in either order only if they list the same cards.
-/

namespace TaskFabric

namespace Digest

variable {own d e : Digest} {arrivals others : List Digest}

-----------------------------------------------------------------------------------------
-- Two and three views
-----------------------------------------------------------------------------------------

/-- The first of the newest of three views wins, however they are bracketed. -/
theorem merge_assoc (a b c : Digest) : (a.merge b).merge c = a.merge (b.merge c) := by
  rcases a.merge_cases b with ⟨newer, first⟩ | ⟨known, first⟩
  · rcases b.merge_cases c with ⟨later, second⟩ | ⟨_, second⟩
    · rw [first, second, merge_eq_of_lt (UInt64.lt_trans newer later)]
    · rw [first, second, first]
  · rcases b.merge_cases c with ⟨_, second⟩ | ⟨older, second⟩
    · rw [first, second]
    · rw [first, second, first, merge_eq_of_le (UInt64.le_trans older known)]

/-- Merging back a view that was merged into changes nothing. -/
theorem merge_merge_self (a b : Digest) : (a.merge b).merge a = a.merge b := by
  rcases a.merge_cases b with ⟨newer, same⟩ | ⟨_, same⟩
  · rw [same, merge_eq_of_le (UInt64.le_of_lt newer)]
  · rw [same, merge_self]

/-- Each side keeps its own view of one second, so both end with one view only if the seconds differ
or the cards do not.
-/
theorem merge_comm_iff (a b : Digest)
    : a.merge b = b.merge a ↔ (a.timestamp = b.timestamp → a.cards = b.cards) := by
  constructor
  · intro same tied
    have kept : a.merge b = a := merge_eq_of_le (UInt64.le_of_eq tied.symm)
    have also : b.merge a = b := merge_eq_of_le (UInt64.le_of_eq tied)
    rw [← kept, same, also]
  · intro untied
    rcases a.merge_cases b with ⟨newer, same⟩ | ⟨known, same⟩
    · rw [same, merge_eq_of_le (UInt64.le_of_lt newer)]
    · by_cases tied : a.timestamp = b.timestamp
      · have equal : a = b := by
          cases a
          cases b
          exact congr (congrArg mk (untied tied)) tied
        rw [equal]
      · rw [same, merge_eq_of_lt (UInt64.lt_of_le_of_ne known (Ne.symm tied))]

-----------------------------------------------------------------------------------------
-- Any number of views
-----------------------------------------------------------------------------------------

/-- A view that arrives is newer than the own one, and none that arrives is newer than it. -/
structure Wins (own : Digest) (arrivals : List Digest) (d : Digest) : Prop where
  arrives : d ∈ arrivals
  newer : own.timestamp < d.timestamp
  newest : ∀ e ∈ arrivals, e.timestamp ≤ d.timestamp

theorem Wins.of_perm (wins : own.Wins arrivals d) (order : others.Perm arrivals)
    : own.Wins others d :=
  ⟨order.mem_iff.mpr wins.arrives, wins.newer, fun e member =>
    wins.newest e (order.mem_iff.mp member)⟩

theorem foldl_merge_eq_self (known : ∀ e ∈ arrivals, e.timestamp ≤ d.timestamp)
    : arrivals.foldl merge d = d := by
  induction arrivals with
  | nil => rfl
  | cons e rest ih =>
      obtain ⟨first, later⟩ := List.forall_mem_cons.mp known
      rw [List.foldl_cons, merge_eq_of_le first, ih later]

/-- A view that wins stays if it arrives first. -/
theorem Wins.foldl_merge_cons {rest : List Digest} (wins : own.Wins (d :: rest) d)
    : (d :: rest).foldl merge own = d := by
  rw [List.foldl_cons, merge_eq_of_lt wins.newer]
  exact foldl_merge_eq_self (List.forall_mem_cons.mp wins.newest).2

/-- A node ends with its own view if nothing newer arrives, and else with one that wins, by
induction on the arrivals.
-/
theorem foldl_merge_cases (own : Digest) (arrivals : List Digest)
    : (∀ e ∈ arrivals, e.timestamp ≤ own.timestamp) ∧ arrivals.foldl merge own = own
      ∨ own.Wins arrivals (arrivals.foldl merge own) := by
  induction arrivals generalizing own with
  | nil => exact .inl ⟨by simp, rfl⟩
  | cons d rest ih =>
      rw [List.foldl_cons]
      rcases own.merge_cases d with ⟨newer, same⟩ | ⟨known, same⟩
      · rw [same]
        rcases ih d with ⟨older, kept⟩ | wins
        · rw [kept]
          exact .inr ⟨List.mem_cons_self, newer,
            List.forall_mem_cons.mpr ⟨UInt64.le_refl _, older⟩⟩
        · exact .inr ⟨List.mem_cons_of_mem _ wins.arrives, UInt64.lt_trans newer wins.newer,
            List.forall_mem_cons.mpr ⟨UInt64.le_of_lt wins.newer, wins.newest⟩⟩
      · rw [same]
        rcases ih own with ⟨older, kept⟩ | wins
        · exact .inl ⟨List.forall_mem_cons.mpr ⟨known, older⟩, kept⟩
        · have behind := UInt64.le_trans known (UInt64.le_of_lt wins.newer)
          exact .inr ⟨List.mem_cons_of_mem _ wins.arrives, wins.newer,
            List.forall_mem_cons.mpr ⟨behind, wins.newest⟩⟩

/-- The order of arrival does not matter exactly if no two different views win. -/
theorem foldl_merge_perm_iff (own : Digest) (arrivals : List Digest)
    : (∀ others : List Digest, others.Perm arrivals
          → others.foldl merge own = arrivals.foldl merge own)
      ↔ ∀ d e, own.Wins arrivals d → own.Wins arrivals e → d = e := by
  constructor
  · intro same
    have ends {d : Digest} (wins : own.Wins arrivals d) : arrivals.foldl merge own = d := by
      have first := (List.perm_cons_erase wins.arrives).symm
      rw [← same _ first]
      exact (wins.of_perm first).foldl_merge_cons
    intro d e one other
    rw [← ends one, ends other]
  · intro alone others order
    rcases own.foldl_merge_cases arrivals with ⟨older, kept⟩ | wins
    · rw [kept]
      exact foldl_merge_eq_self fun e member => older e (order.mem_iff.mp member)
    · rcases own.foldl_merge_cases others with ⟨older, _⟩ | also
      · -- Nothing newer arrives in one order, but the winner of the other order is newer.
        have known := older _ (order.mem_iff.mpr wins.arrives)
        exact absurd wins.newer (UInt64.not_lt.mpr known)
      · exact alone _ _ (also.of_perm order.symm) wins

end Digest

namespace Case

/-- A node to which views arrive one after another ends with what they are merged to, whatever can
be written.
-/
theorem digest_foldl_merge (arrivals : List Digest) (c : Case) (disk : Disk)
    : (arrivals.foldl (fun now d => (now.1.merge d now.2).2) (c, disk)).1.digest
      = arrivals.foldl Digest.merge c.digest := by
  induction arrivals generalizing c disk with
  | nil => rfl
  | cons d rest ih =>
      rw [List.foldl_cons, List.foldl_cons, ih, merge_eq, digest_withDigest]

end Case

namespace Digest

/-- Merging views joins them but for ties. It is idempotent, a view that was merged into brings
nothing new, the second of the result is the later one, and brackets do not matter. Two views come
to the same in either order exactly if they are not of one second with different cards; and a node
ends with one view in whatever order some views arrive exactly if no two different ones of them are
the newest and newer than its own.
-/
theorem arrival_order_matters_only_for_ties (a b c : Digest) (arrivals : List Digest)
    : a.merge a = a
      ∧ (a.merge b).merge a = a.merge b
      ∧ (a.merge b).timestamp = max a.timestamp b.timestamp
      ∧ (a.merge b).merge c = a.merge (b.merge c)
      ∧ (a.merge b = b.merge a ↔ (a.timestamp = b.timestamp → a.cards = b.cards))
      ∧ ∀ (node : Case) (disk : Disk),
          let ends := fun views : List Digest =>
            (views.foldl (fun now d => (now.1.merge d now.2).2) (node, disk)).1.digest
          (∀ others : List Digest, others.Perm arrivals → ends others = ends arrivals)
          ↔ ∀ d e, node.digest.Wins arrivals d → node.digest.Wins arrivals e → d = e := by
  refine ⟨a.merge_self, a.merge_merge_self b, a.timestamp_merge b, a.merge_assoc b c,
    a.merge_comm_iff b, ?_⟩
  intro node disk
  simp only [Case.digest_foldl_merge]
  exact foldl_merge_perm_iff node.digest arrivals

/-- Two views of one second that list different nodes each stay where they are, and a node that
knows of neither ends with the one that arrives first.
-/
theorem tied_views_stay_apart
    : let a := ofCards [Card.ofAddress "127.0.0.1" 1] 1700000000
      let b := ofCards [Card.ofAddress "127.0.0.1" 2] 1700000000
      a.merge b = a
      ∧ b.merge a = b
      ∧ a ≠ b
      ∧ [a, b].foldl merge empty ≠ [b, a].foldl merge empty := by
  decide

end Digest

end TaskFabric
