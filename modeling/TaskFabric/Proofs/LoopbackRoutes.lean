import TaskFabric.Loopback

/-! Nodes of one process. A card leads to a node through the directory alone, so changing a node
does not change where other cards lead.
-/

namespace TaskFabric.Loopback

variable {l : Loopback} {card : Card} {number other : Nat} {node changed : Node}

theorem route_eq_ok_iff
    : l.route card = .ok (number, node)
      ↔ l.directory.get? card.identity = some (number, true) ∧ l.node? number = some node := by
  unfold route
  split
  · next target listed =>
      rw [listed]
      split
      · next found =>
          simp only [Except.ok.injEq, Prod.mk.injEq, Option.some.injEq, and_true]
          constructor
          · rintro ⟨rfl, rfl⟩
            exact ⟨rfl, found⟩
          · rintro ⟨rfl, known⟩
            exact ⟨rfl, Option.some.inj (found.symm.trans known)⟩
      · next missing =>
          simp only [reduceCtorEq, Option.some.injEq, Prod.mk.injEq, and_true, false_iff, not_and]
          rintro rfl
          simp [missing]
  · next listed => simp [listed]
  · next listed => simp [listed]

theorem node?_setNode_self (known : l.node? number = some node)
    : (l.setNode number changed).node? number = some changed := by
  obtain ⟨bound, _⟩ := List.getElem?_eq_some_iff.mp known
  simp [node?, setNode, bound]

theorem node?_setNode_of_ne (different : other ≠ number)
    : (l.setNode number changed).node? other = l.node? other := by
  simp [node?, setNode, List.getElem?_set_ne different.symm]

@[simp]
theorem setNode_setNode (l : Loopback) (number : Nat) (first second : Node)
    : (l.setNode number first).setNode number second = l.setNode number second := by
  simp [setNode]

/-- A card leads to its node as that has become. -/
theorem route_setNode_self (routed : l.route card = .ok (number, node)) (changed : Node)
    : (l.setNode number changed).route card = .ok (number, changed) := by
  obtain ⟨listed, known⟩ := route_eq_ok_iff.mp routed
  exact route_eq_ok_iff.mpr ⟨listed, node?_setNode_self known⟩

theorem route_setNode_of_ne (routed : l.route card = .ok (other, node)) (different : other ≠ number)
    : (l.setNode number changed).route card = .ok (other, node) := by
  obtain ⟨listed, known⟩ := route_eq_ok_iff.mp routed
  exact route_eq_ok_iff.mpr ⟨listed, (node?_setNode_of_ne different).trans known⟩

end TaskFabric.Loopback
