import TaskFabric.Pipeline

/-! Moving from stage to stage. A pipeline can be walked forth and back, and between its stages the
two directions undo each other. The one exception stands outside: an index just behind the last
stage leads back to that stage, from which no move leads to it.
-/

namespace TaskFabric

namespace Pipeline

variable {p : Pipeline} {i j : UInt64}

-----------------------------------------------------------------------------------------
-- Neighbours
-----------------------------------------------------------------------------------------

theorem isSome_get?_iff : (p.get? i).isSome ↔ i.toNat < p.size := by
  simp [get?, size]

/-- The next index is the successor, as far as it is the index of a stage. -/
theorem next?_eq_some_iff
    : p.next? i = some j ↔ j.toNat = i.toNat + 1 ∧ j.toNat < p.size := by
  have bounded := j.toNat_lt_size
  unfold next?
  split
  · next inside =>
      have successor : (i + 1).toNat = i.toNat + 1 := by
        rw [UInt64.toNat_add, UInt64.toNat_one, Nat.mod_eq_of_lt inside.1]
      rw [Option.some.injEq, ← UInt64.toNat_inj, successor]
      omega
  · next outside =>
      refine ⟨fun found => (nomatch found), fun successor => ?_⟩
      omega

/-- The previous index is the predecessor, as far as it is the index of a stage. -/
theorem prev?_eq_some_iff
    : p.prev? j = some i ↔ j.toNat = i.toNat + 1 ∧ i.toNat < p.size := by
  unfold prev?
  split
  · next inside =>
      have one : (1 : UInt64) ≤ j := UInt64.le_iff_toNat_le.mpr inside.1
      have predecessor : (j - 1).toNat = j.toNat - 1 := by
        rw [UInt64.toNat_sub_of_le _ _ one, UInt64.toNat_one]
      rw [Option.some.injEq, ← UInt64.toNat_inj, predecessor]
      omega
  · next outside =>
      refine ⟨fun found => (nomatch found), fun predecessor => ?_⟩
      omega

-----------------------------------------------------------------------------------------
-- Walks
-----------------------------------------------------------------------------------------

/-- A move to a neighbour. -/
inductive Move where
  | forth
  | back
deriving DecidableEq

namespace Move

/-- How far a move leads. -/
def shift : Move → Int
  | .forth => 1
  | .back => -1

/-- The move the other way. -/
def reverse : Move → Move
  | .forth => .back
  | .back => .forth

@[simp]
theorem shift_reverse (m : Move) : m.reverse.shift = -m.shift := by
  cases m <;> rfl

end Move

/-- The index to which a move leads. -/
def move? (p : Pipeline) : Move → UInt64 → Option UInt64
  | .forth, i => p.next? i
  | .back, i => p.prev? i

/-- The index to which some moves lead, one after another, unless one of them leads nowhere. -/
def walk? (p : Pipeline) : List Move → UInt64 → Option UInt64
  | [], i => some i
  | m :: rest, i => (p.move? m i).bind (p.walk? rest)

/-- How far some moves lead together. -/
def displacement : List Move → Int
  | [] => 0
  | m :: rest => m.shift + displacement rest

/-- The stages have a number, and this is one of them. -/
def HasStage (p : Pipeline) (position : Int) : Prop :=
  ∃ k : UInt64, (k.toNat : Int) = position ∧ (p.get? k).isSome

/-- From a stage a move leads to the neighbouring stage, if there is one. -/
theorem move?_eq_some_iff (m : Move) (inside : (p.get? i).isSome)
    : p.move? m i = some j ↔ (j.toNat : Int) = i.toNat + m.shift ∧ (p.get? j).isSome := by
  rw [isSome_get?_iff] at inside ⊢
  cases m with
  | forth =>
      rw [move?, next?_eq_some_iff, Move.shift]
      omega
  | back =>
      rw [move?, prev?_eq_some_iff, Move.shift]
      omega

theorem walk?_append (first second : List Move) (i : UInt64)
    : p.walk? (first ++ second) i = (p.walk? first i).bind (p.walk? second) := by
  induction first generalizing i with
  | nil => rfl
  | cons m rest ih =>
      rw [List.cons_append, walk?, walk?, Option.bind_assoc]
      exact congrArg _ (funext ih)

/-- A walk from a stage leads as far as its moves lead together, exactly if it passes stages only;
by induction on the moves.
-/
theorem walk?_eq_some_iff (moves : List Move) (inside : (p.get? i).isSome)
    : p.walk? moves i = some j
      ↔ (j.toNat : Int) = i.toNat + displacement moves
        ∧ ∀ part, part <+: moves → p.HasStage (i.toNat + displacement part) := by
  have start : p.HasStage (i.toNat + displacement []) := ⟨i, by simp [displacement], inside⟩
  induction moves generalizing i with
  | nil =>
      rw [walk?, Option.some.injEq, ← UInt64.toNat_inj]
      simp only [List.prefix_nil, forall_eq, start, and_true]
      simp only [displacement]
      omega
  | cons m rest ih =>
      rw [walk?, Option.bind_eq_some_iff]
      constructor
      · rintro ⟨k, moved, walked⟩
        obtain ⟨shifted, there⟩ := (move?_eq_some_iff m inside).mp moved
        obtain ⟨ends, passed⟩ := (ih there ⟨k, by simp [displacement], there⟩).mp walked
        refine ⟨by rw [ends, displacement]; omega, ?_⟩
        intro part initial
        rcases List.prefix_cons_iff.mp initial with rfl | ⟨behind, rfl, later⟩
        · exact start
        · have stage := passed behind later
          rwa [shifted, Int.add_assoc] at stage
      · rintro ⟨ends, passed⟩
        have first := passed [m] (List.prefix_cons_iff.mpr (.inr ⟨[], rfl, List.nil_prefix⟩))
        obtain ⟨k, shifted, there⟩ := first
        have moved : (k.toNat : Int) = i.toNat + m.shift := by
          rw [shifted, displacement, displacement, Int.add_zero]
        refine ⟨k, (move?_eq_some_iff m inside).mpr ⟨moved, there⟩, ?_⟩
        refine (ih there ⟨k, by simp [displacement], there⟩).mpr ⟨?_, ?_⟩
        · rw [ends, moved, displacement, Int.add_assoc]
        · intro part initial
          have stage := passed (m :: part) (List.prefix_cons_iff.mpr (.inr ⟨part, rfl, initial⟩))
          rwa [displacement, ← Int.add_assoc, ← moved] at stage

/-- A walk ends at a stage. -/
theorem isSome_get?_of_walk? {moves : List Move} (inside : (p.get? i).isSome)
    (walked : p.walk? moves i = some j)
    : (p.get? j).isSome := by
  obtain ⟨ends, passed⟩ := (walk?_eq_some_iff moves inside).mp walked
  obtain ⟨k, same, there⟩ := passed moves List.prefix_rfl
  rw [← ends, Int.natCast_inj, UInt64.toNat_inj] at same
  exact same ▸ there

/-- The moves of a walk lead back in the opposite order and direction; by induction on the moves. -/
theorem walk?_back {moves : List Move} (inside : (p.get? i).isSome)
    (walked : p.walk? moves i = some j)
    : p.walk? (moves.map Move.reverse).reverse j = some i := by
  induction moves generalizing i with
  | nil =>
      obtain rfl := Option.some.inj walked
      rfl
  | cons m rest ih =>
      obtain ⟨k, moved, walked⟩ := Option.bind_eq_some_iff.mp walked
      obtain ⟨shifted, there⟩ := (move?_eq_some_iff m inside).mp moved
      have returned : p.move? m.reverse k = some i := by
        refine (move?_eq_some_iff m.reverse there).mpr ⟨?_, inside⟩
        rw [shifted, Move.shift_reverse]
        omega
      rw [List.map_cons, List.reverse_cons, walk?_append, ih there walked, Option.bind_some, walk?,
        returned]
      rfl

/-- The next and the previous stage are inverse between stages. From an index `i` to an index `j`
one moves forth exactly if one moves back from `j` to `i` and `j` is a stage; either way `i` is a
stage. So the two moves undo each other but for one pair of indices, the last stage and the index
just behind it. A walk from a stage leads as far as its moves lead together if it passes stages
only, and otherwise nowhere; it ends at a stage, and the opposite moves lead back to its start.
-/
theorem moves_are_inverse_between_stages (p : Pipeline) (i j : UInt64)
    : (p.next? i = some j ↔ p.prev? j = some i ∧ (p.get? j).isSome)
      ∧ (p.prev? j = some i → (p.get? i).isSome)
      ∧ ((p.next? i = some j ↔ p.prev? j = some i)
          ↔ ¬ (i.toNat + 1 = p.size ∧ j.toNat = p.size))
      ∧ ((p.get? i).isSome
          → ∀ moves : List Move,
              (p.walk? moves i = some j
                ↔ (j.toNat : Int) = i.toNat + displacement moves
                  ∧ ∀ part, part <+: moves → p.HasStage (i.toNat + displacement part))
              ∧ (p.walk? moves i = some j
                  → (p.get? j).isSome
                    ∧ p.walk? (moves.map Move.reverse).reverse j = some i)) := by
  refine ⟨?_, ?_, ?_, ?_⟩
  · rw [next?_eq_some_iff, prev?_eq_some_iff, isSome_get?_iff]
    omega
  · intro moved
    exact isSome_get?_iff.mpr (prev?_eq_some_iff.mp moved).2
  · rw [next?_eq_some_iff, prev?_eq_some_iff]
    omega
  · intro inside moves
    refine ⟨walk?_eq_some_iff moves inside, ?_⟩
    intro walked
    exact ⟨isSome_get?_of_walk? inside walked, walk?_back inside walked⟩

/-- A pipeline of three stages. -/
def threeStages : Pipeline :=
  ⟨["parse", "enrich", "store"].map fun name => ⟨name, name, .base, .short⟩⟩

/-- Of the indices that stand for no stage the first one leads back to the last stage, which leads
nowhere; one further off does not lead back.
-/
theorem index_behind_last_stage_leads_back
    : threeStages.get? 3 = none
      ∧ threeStages.prev? 3 = some 2
      ∧ threeStages.next? 2 = none
      ∧ threeStages.prev? 7 = none
      ∧ ¬ ∀ i j, threeStages.next? i = some j ↔ threeStages.prev? j = some i := by
  refine ⟨rfl, rfl, rfl, rfl, ?_⟩
  intro inverse
  have forth := (inverse 2 3).mpr rfl
  cases forth

end Pipeline

end TaskFabric
