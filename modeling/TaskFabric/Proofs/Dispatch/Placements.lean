import Mathlib.Data.Int.CardIntervalMod
import TaskFabric.Placement

/-! Nodes that hold one view agree on where each task runs. The owner of an index does not depend on
the node that looks for it, and each node tells its own card from the others, directly or by its
external host; so a task with a live owner stays at one node and goes to it from all others. The
indices of a batch are shared out evenly among the cards.
-/

namespace TaskFabric

/-- Nodes that hold one view, of which each recognises one card as its own, and no two the same. -/
structure SharedView {ι : Type} (nodes : ι → Case) (view : Digest) : Prop where
  agree : ∀ i, (nodes i).digest = view
  own : ∀ i, ∃! card, card ∈ view.peers ∧ (nodes i).isLocal card = true
  apart
    : ∀ i j card,
        card ∈ view.peers
        → (nodes i).isLocal card = true
        → (nodes j).isLocal card = true
        → i = j

theorem Case.isLocal_eq_true_iff {c : Case} {card : Card}
    : c.isLocal card = true
      ↔ c.state.own.port = card.port
        ∧ (c.state.own.ip = card.ip ∨ c.externalIp = some card.ip) := by
  cases outside : c.externalIp with
  | none => simp [isLocal, Card.sameAs, Card.sameAddress, outside, and_comm]
  | some ip =>
      simp only [isLocal, Card.sameAs, Card.sameAddress, outside, Bool.or_eq_true,
        Bool.and_eq_true, beq_iff_eq, Option.some.injEq]
      constructor
      · rintro (⟨host, port⟩ | ⟨port, host⟩)
        · exact ⟨port, .inl host⟩
        · exact ⟨port, .inr host.symm⟩
      · rintro ⟨port, host | host⟩
        · exact .inl ⟨host, port⟩
        · exact .inr ⟨port, host.symm⟩

namespace Placement

variable {c : Case} {peers : List Card} {index : UInt64} {task : Task} {card : Card}

-----------------------------------------------------------------------------------------
-- One placement
-----------------------------------------------------------------------------------------

/-- Every index has an owner among the cards, if there are any. -/
theorem exists_owner (member : card ∈ peers) (index : UInt64)
    : ∃ owner ∈ peers, owner? peers index = some owner := by
  have place : index.toNat % peers.length < peers.length :=
    Nat.mod_lt _ (List.length_pos_of_mem member)
  exact ⟨peers[index.toNat % peers.length], List.getElem_mem place,
    List.getElem?_eq_getElem place⟩

theorem place_of_owner {owner : Card} (named : task.consumable.isEmpty = false)
    (owned : owner? peers index = some owner)
    : place c peers index task
      = if !owner.alive || c.isLocal owner then .here else .peer owner := by
  simp [place, named, owned]

/-- A task goes to a peer only if the peer is the owner, alive, and not the node itself. -/
theorem of_place_eq_peer (sent : place c peers index task = .peer card)
    : owner? peers index = some card ∧ card.alive = true ∧ c.isLocal card = false := by
  unfold place at sent
  split at sent
  · cases sent
  · split at sent
    · cases sent
    · next owner owned =>
        split at sent
        · cases sent
        · next leaves =>
            cases sent
            simp only [Bool.or_eq_true, not_or, Bool.not_eq_true, Bool.not_eq_false'] at leaves
            exact ⟨owned, leaves⟩

-----------------------------------------------------------------------------------------
-- The indices of a batch
-----------------------------------------------------------------------------------------

/-- Of the numbers below a size, those of one remainder are an even share, rounded down or up. -/
theorem count_mod_eq (size : Nat) {places place : Nat} (within : place < places)
    : (List.range size).countP (· % places == place) = size / places
      ∨ (List.range size).countP (· % places == place) = (size + places - 1) / places := by
  have positive : 0 < places := Nat.zero_lt_of_lt within
  have count
      : (List.range size).countP (· % places == place)
        = size / places + if place % places < size % places then 1 else 0 := by
    rw [← Nat.count_modEq_card size positive, Nat.count]
    refine List.countP_congr fun index _ => ?_
    simp [Nat.ModEq, Nat.mod_eq_of_lt within]
  have whole := Nat.div_add_mod' size places
  have less := Nat.mod_lt size positive
  split at count
  · next behind =>
      refine .inr (count.trans (Nat.div_eq_of_lt_le ?_ ?_).symm)
      · rw [Nat.add_mul]
        omega
      · rw [Nat.add_mul, Nat.add_mul]
        omega
  · exact .inl count

/-- The number of indices of a batch whose owner stands at one place among so many. -/
def share (batch : Batch) (places place : Nat) : Nat :=
  batch.keys.countP (·.toNat % places == place)

theorem share_eq {batch : Batch} {size places place : Nat}
    (numbered : batch.keys.map UInt64.toNat = List.range size) (within : place < places)
    : share batch places place = size / places
      ∨ share batch places place = (size + places - 1) / places := by
  have same : share batch places place = (List.range size).countP (· % places == place) := by
    rw [← numbered, List.countP_map]
    rfl
  rw [same]
  exact count_mod_eq size within

/-- Among different cards, a card owns the indices of its place and no others. -/
theorem owner?_eq_getElem_iff (distinct : peers.Nodup) {place : Nat}
    (within : place < peers.length) (index : UInt64)
    : owner? peers index = some peers[place] ↔ index.toNat % peers.length = place := by
  have inside : index.toNat % peers.length < peers.length :=
    Nat.mod_lt _ (Nat.zero_lt_of_lt within)
  rw [owner?, List.getElem?_eq_getElem inside, Option.some.injEq]
  exact distinct.getElem_inj_iff

/-- Among different cards, a card owns as many indices as its place. -/
theorem exists_share_eq_countP_owner? (distinct : peers.Nodup) (member : card ∈ peers)
    (batch : Batch)
    : ∃ place < peers.length,
        batch.keys.countP (fun index => owner? peers index = some card)
        = share batch peers.length place := by
  obtain ⟨place, within, rfl⟩ := List.getElem_of_mem member
  refine ⟨place, within, List.countP_congr fun index _ => ?_⟩
  simp [owner?_eq_getElem_iff distinct within]

-----------------------------------------------------------------------------------------
-- One partition
-----------------------------------------------------------------------------------------

/-- The nodes agree on the owner of an index. A task with a live owner stays at the node that
recognises the owner and goes to it from all others, and one with a dead owner stays at every node;
no task is sent to a node itself or to a dead card. Of the indices from zero on, each card owns an
even share, rounded down or up.
-/
theorem place_partition {ι : Type} [Nonempty ι] {nodes : ι → Case} {view : Digest}
    (shared : SharedView nodes view)
    : (∀ (index : UInt64) (task : Task),
        task.consumable.isEmpty = false
        → ∃ owner,
            view.peers[index.toNat % view.peers.length]? = some owner
            ∧ (owner.alive = true
                → (∀ i,
                    (nodes i).isLocal owner = true
                    → place (nodes i) (nodes i).peers index task = .here
                      ∧ ∀ j, j ≠ i → place (nodes j) (nodes j).peers index task = .peer owner)
                  ∧ ∀ i,
                      (nodes i).isLocal owner = false
                      → place (nodes i) (nodes i).peers index task = .peer owner)
            ∧ (owner.alive = false → ∀ i, place (nodes i) (nodes i).peers index task = .here))
      ∧ (∀ (i : ι) (index : UInt64) (task : Task) (card : Card),
          place (nodes i) (nodes i).peers index task = .peer card
          → card.alive = true
            ∧ ¬((nodes i).state.own.port = card.port ∧ (nodes i).state.own.ip = card.ip)
            ∧ ¬((nodes i).state.own.port = card.port ∧ (nodes i).externalIp = some card.ip))
      ∧ ∀ (batch : Batch) (size : Nat),
          batch.keys.map UInt64.toNat = List.range size
          → (∀ place < view.peers.length,
              share batch view.peers.length place = size / view.peers.length
              ∨ share batch view.peers.length place
                = (size + view.peers.length - 1) / view.peers.length)
            ∧ (view.peers.Nodup
                → ∀ card ∈ view.peers,
                    let owned := batch.keys.countP fun index => owner? view.peers index = some card
                    owned = size / view.peers.length
                    ∨ owned = (size + view.peers.length - 1) / view.peers.length) := by
  have known (i : ι) : (nodes i).peers = view.peers := congrArg Digest.peers (shared.agree i)
  simp only [known]
  refine ⟨fun index task named => ?_, fun i index task card sent => ?_,
    fun batch size numbered => ⟨fun place within => share_eq numbered within, ?_⟩⟩
  · obtain ⟨own, ⟨listed, _⟩, _⟩ := shared.own (Classical.arbitrary ι)
    obtain ⟨owner, member, owned⟩ := exists_owner listed index
    refine ⟨owner, owned, fun alive => ⟨fun i mine => ⟨?_, fun j other => ?_⟩, fun i foreign => ?_⟩,
      fun dead i => ?_⟩
    · simp [place_of_owner named owned, mine]
    · have foreign : (nodes j).isLocal owner = false :=
        Bool.eq_false_iff.mpr fun also => other (shared.apart j i owner member also mine)
      simp [place_of_owner named owned, alive, foreign]
    · simp [place_of_owner named owned, alive, foreign]
    · simp [place_of_owner named owned, dead]
  · obtain ⟨_, alive, foreign⟩ := of_place_eq_peer sent
    have apart := mt Case.isLocal_eq_true_iff.mpr (Bool.eq_false_iff.mp foreign)
    exact ⟨alive, fun direct => apart ⟨direct.1, .inl direct.2⟩,
      fun outside => apart ⟨outside.1, .inr outside.2⟩⟩
  · intro distinct card member
    obtain ⟨place, within, same⟩ := exists_share_eq_countP_owner? distinct member batch
    simp only [same]
    exact share_eq numbered within

/-- The view of three nodes: the second is held to be dead, and the third is listed under the host
that it has from outside.
-/
def gatewayView : Digest :=
  .ofCards [.ofAddress "10.0.0.1" 1, { Card.ofAddress "10.0.0.2" 2 with alive := false },
    .ofAddress "203.0.113.7" 3] 5

/-- The three nodes; the third knows itself by another host. -/
def gatewayNodes (i : Fin 3) : Case :=
  ⟨⟨"case", gatewayView,
      [.ofAddress "10.0.0.1" 1, .ofAddress "10.0.0.2" 2, .ofAddress "192.168.0.4" 3][i],
      .ofAddress "10.0.0.1" 1⟩,
    none, [none, none, some "203.0.113.7"][i]⟩

theorem sharedView_gateway : SharedView gatewayNodes gatewayView where
  agree _ := rfl
  own i := by
    have listed : ∃ card ∈ gatewayView.peers, (gatewayNodes i).isLocal card = true := by
      revert i
      decide
    have alone
        : ∀ a ∈ gatewayView.peers,
            ∀ b ∈ gatewayView.peers,
              (gatewayNodes i).isLocal a = true → (gatewayNodes i).isLocal b = true → a = b := by
      revert i
      decide
    obtain ⟨card, member, mine⟩ := listed
    exact ⟨card, ⟨member, mine⟩, fun other ⟨also, too⟩ => alone other also card member too mine⟩
  apart i j card member := by
    revert i j card
    decide

/-- The third node keeps the task of index five, and the others send it there; the task of index one
stays at every node. Of four indices each card owns one or two.
-/
theorem place_partition_gateway
    : ∃ task : Task,
        task.consumable.isEmpty = false
        ∧ place (gatewayNodes 2) (gatewayNodes 2).peers 5 task = .here
        ∧ place (gatewayNodes 0) (gatewayNodes 0).peers 5 task
          = .peer (.ofAddress "203.0.113.7" 3)
        ∧ (∀ i, place (gatewayNodes i) (gatewayNodes i).peers 1 task = .here)
        ∧ ∀ place < 3,
            let batch := SortedMap.ofList [(0, task), (1, task), (2, task), (3, task)]
            share batch 3 place = 1 ∨ share batch 3 place = 2 := by
  obtain ⟨each, _, shares⟩ := place_partition sharedView_gateway
  let task : Task := { Task.empty with consumable := "echo" }
  have named : task.consumable.isEmpty = false := by decide
  obtain ⟨third, owns, alive, _⟩ := each 5 task named
  have isThird : third = .ofAddress "203.0.113.7" 3 := by
    refine Option.some.inj (owns.symm.trans ?_)
    decide
  subst isThird
  obtain ⟨mine, others⟩ := (alive rfl).1 2 (by decide)
  obtain ⟨second, owns, _, dead⟩ := each 1 task named
  have isSecond : second = { Card.ofAddress "10.0.0.2" 2 with alive := false } := by
    refine Option.some.inj (owns.symm.trans ?_)
    decide
  subst isSecond
  exact ⟨task, named, mine, others 0 (by decide), dead rfl, (shares _ 4 rfl).1⟩

end Placement

end TaskFabric
