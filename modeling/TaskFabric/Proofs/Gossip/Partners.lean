import TaskFabric.Proofs.Gossip.Rounds
import TaskFabric.Proofs.LoopbackRoutes

/-! Rounds among nodes of a process. A node that gossips with partners that it reaches completes a
round with each of them, and no round touches the nodes of the others.
-/

namespace TaskFabric

/-- A peer of a catchup: the card that leads to it, its number in the process, and the node. -/
structure Partner where
  card : Card
  number : Nat
  node : Node

namespace Partner

/-- The view that a peer has before the catchup. -/
def digest (p : Partner) : Digest := p.node.case.digest

/-- The timestamp of that view. -/
def stamp (p : Partner) : UInt64 := p.digest.timestamp

end Partner

/-- Different nodes of a cluster that their cards lead to and that recognise these as their own. -/
structure Reachable (l : Loopback) (c : Case) (partners : List Partner) : Prop where
  routed : ∀ p ∈ partners, l.route p.card = .ok (p.number, p.node)
  cluster : ∀ p ∈ partners, p.node.case.state.id = c.state.id
  recognised : ∀ p ∈ partners, p.node.case.isLocal p.card = true
  distinct : (partners.map Partner.number).Nodup

/-- A round with one partner changes nothing about the way to the others. -/
theorem Reachable.tail {l : Loopback} {c : Case} {p : Partner} {rest : List Partner}
    (reachable : Reachable l c (p :: rest)) (d : Digest) (node : Node)
    : Reachable (l.setNode p.number node) (c.withDigest d) rest := by
  obtain ⟨fresh, distinct⟩ := List.nodup_cons.mp reachable.distinct
  refine {
    routed := ?_
    cluster := fun q member => reachable.cluster q (List.mem_cons_of_mem p member)
    recognised := fun q member => reachable.recognised q (List.mem_cons_of_mem p member)
    distinct := distinct
  }
  intro q member
  refine Loopback.route_setNode_of_ne (reachable.routed q (List.mem_cons_of_mem p member)) ?_
  intro same
  exact fresh (same ▸ List.mem_map_of_mem member)

/-- The newest of a first timestamp and some others. -/
def newest (first : UInt64) (stamps : List UInt64) : UInt64 := stamps.foldl max first

namespace Digest

theorem timestamp_merge (d other : Digest)
    : (d.merge other).timestamp = max d.timestamp other.timestamp := by
  have greater : max d.timestamp other.timestamp
      = if d.timestamp ≤ other.timestamp then other.timestamp else d.timestamp := rfl
  rcases d.merge_cases other with ⟨newer, same⟩ | ⟨known, same⟩
  · rw [same, greater, if_pos (UInt64.le_of_lt newer)]
  · rw [same, greater]
    split
    · next also => exact UInt64.le_antisymm also known
    · rfl

theorem timestamp_merge_comm (d other : Digest)
    : (d.merge other).timestamp = (other.merge d).timestamp := by
  rcases d.merge_cases other with ⟨newer, same⟩ | ⟨known, same⟩
  · rw [same, merge_eq_of_le (UInt64.le_of_lt newer)]
  · rcases other.merge_cases d with ⟨_, again⟩ | ⟨also, again⟩
    · rw [same, again]
    · rw [same, again]
      exact UInt64.le_antisymm also known

theorem timestamp_foldl_merge (d : Digest) (others : List Digest)
    : (others.foldl merge d).timestamp = newest d.timestamp (others.map timestamp) := by
  induction others generalizing d with
  | nil => rfl
  | cons other rest ih =>
      rw [List.foldl_cons, ih, timestamp_merge]
      rfl

theorem foldl_merge_mem (d : Digest) (others : List Digest)
    : others.foldl merge d ∈ d :: others := by
  induction others generalizing d with
  | nil => simp
  | cons other rest ih =>
      rw [List.foldl_cons]
      rcases List.mem_cons.mp (ih (d.merge other)) with same | later
      · rw [same]
        rcases d.merge_cases other with ⟨_, merged⟩ | ⟨_, merged⟩ <;> simp [merged]
      · simp [later]

end Digest

-----------------------------------------------------------------------------------------
-- Rounds
-----------------------------------------------------------------------------------------

namespace Site

/-- A node behind a round with another view. -/
def meet (node : Node) (d : Digest) : Node :=
  { node with case := node.case.withDigest (node.case.digest.merge d) }

theorem call_eq {s : Site Loopback} {card : Card} {number : Nat} {node : Node} (knobs : Knobs)
    {m : Message} {reply : Option Message} {after : Case} {disk : Disk}
    (routed : s.network.route card = .ok (number, node))
    (handled : node.case.exchange m s.disk = (reply, after, disk))
    : s.call Loopback.transport knobs card m
      = (.ok reply,
        { s with disk, network := s.network.setNode number { node with case := after } }) := by
  simp only [call, Loopback.transport, Loopback.exchange, routed, handled]

theorem handle_eq {s : Site Loopback} {m : Message} {reply : Option Message} {after : Case}
    {disk : Disk} (handled : s.case.exchange m s.disk = (reply, after, disk))
    : s.handle m = (reply, { s with case := after, disk }) := by
  simp only [handle, handled]

/-- A round whose four messages pass is done. -/
theorem gossipWith_eq {σ : Type} {t : Transport σ} {knobs : Knobs} {peer : Card}
    {s asked told answered ended : Site σ} {ack ack2 ack3 : Message}
    (first : s.call t knobs peer (s.case.message peer .sync) = (.ok (some ack), asked))
    (ackOk : ack.checkStatus = .ok ()) (type : ack.type = .ack)
    (second : asked.handle ack = (some ack2, told)) (ack2Ok : ack2.checkStatus = .ok ())
    (third : told.call t knobs peer ack2 = (.ok (some ack3), answered))
    (ack3Ok : ack3.checkStatus = .ok ()) (last : answered.handle ack3 = (none, ended))
    : s.gossipWith t knobs peer
      = (.ok (told.case.digest.timestamp != s.case.digest.timestamp), ended) := by
  simp only [gossipWith, first, ackOk, type, ne_eq, not_true_eq_false, if_false, second, ack2Ok,
    finishRound, third, ack3Ok, last]

theorem timestamp_merge_bne (d other : Digest)
    : ((d.merge other).timestamp != d.timestamp) = decide (d.timestamp < other.timestamp) := by
  rcases d.merge_cases other with ⟨newer, same⟩ | ⟨known, same⟩
  · have different : other.timestamp ≠ d.timestamp := (UInt64.ne_of_lt newer).symm
    simp [same, newer, different]
  · have notNewer : ¬d.timestamp < other.timestamp := UInt64.not_lt.mpr known
    simp [same, notNewer]

/-- A round with a partner takes in its view if that is newer, and leaves the newer view with it. -/
theorem exists_gossipWith {s : Site Loopback} {p : Partner} (knobs : Knobs)
    (routed : s.network.route p.card = .ok (p.number, p.node))
    (cluster : p.node.case.state.id = s.case.state.id)
    (recognised : p.node.case.isLocal p.card = true)
    : ∃ disk,
        s.gossipWith Loopback.transport knobs p.card
        = (.ok (decide (s.case.digest.timestamp < p.stamp)),
          { s with
            case := s.case.withDigest (s.case.digest.merge p.digest)
            disk
            network := s.network.setNode p.number (meet p.node s.case.digest) }) := by
  obtain ⟨first, second, third, last⟩ := Case.exchanges cluster recognised
  have again := Loopback.route_setNode_self routed (meet p.node s.case.digest)
  have round := gossipWith_eq (call_eq knobs routed (first _)) rfl rfl (handle_eq (second _)) rfl
    (call_eq knobs again (third _)) rfl (handle_eq (last _))
  simp only [Loopback.setNode_setNode, Case.digest_withDigest, timestamp_merge_bne] at round
  exact ⟨_, round⟩

-----------------------------------------------------------------------------------------
-- Rounds one after another
-----------------------------------------------------------------------------------------

theorem contact_eq {σ : Type} {t : Transport σ} {knobs : Knobs} {peer : Card} {s next : Site σ}
    {merged : Bool} (gossips : s.gossipWith t knobs peer = (.ok merged, next)) (clock : Int64)
    (report : CatchupReport)
    : s.contact t knobs clock report peer
      = ({ report with
            contacted := report.contacted + 1
            merged := report.merged + merged.toNat },
        next) := by
  cases merged <;> simp [contact, gossips]

theorem contactEach_append {σ : Type} (t : Transport σ) (knobs : Knobs) (clock : Int64)
    (first second : List Card) (report : CatchupReport) (s : Site σ)
    : s.contactEach t knobs clock (first ++ second) report
      = (s.contactEach t knobs clock first report).2.contactEach t knobs clock second
          (s.contactEach t knobs clock first report).1 := by
  induction first generalizing report s with
  | nil => rfl
  | cons peer rest ih => exact ih _ _

/-- The nodes of a process behind the rounds that a view goes through. -/
def spread (l : Loopback) (d : Digest) : List Partner → Loopback
  | [] => l
  | p :: rest => spread (l.setNode p.number (meet p.node d)) (d.merge p.digest) rest

/-- How many timestamps are greater than all before them. -/
def records (first : UInt64) : List UInt64 → Nat
  | [] => 0
  | stamp :: rest => (decide (first < stamp)).toNat + records (max first stamp) rest

/-- Rounds with partners pass one after another, by induction on the partners. -/
theorem exists_contactEach {partners : List Partner} {s : Site Loopback}
    (reachable : Reachable s.network s.case partners) (knobs : Knobs) (clock : Int64)
    (report : CatchupReport)
    : ∃ disk,
        s.contactEach Loopback.transport knobs clock (partners.map Partner.card) report
        = ({ report with
              contacted := report.contacted + partners.length
              merged :=
                report.merged + records s.case.digest.timestamp (partners.map Partner.stamp) },
          { s with
            case :=
              s.case.withDigest ((partners.map Partner.digest).foldl Digest.merge s.case.digest)
            disk
            network := spread s.network s.case.digest partners }) := by
  induction partners generalizing s report with
  | nil => exact ⟨s.disk, rfl⟩
  | cons p rest ih =>
      obtain ⟨disk, gossips⟩ := exists_gossipWith knobs (reachable.routed p List.mem_cons_self)
        (reachable.cluster p List.mem_cons_self) (reachable.recognised p List.mem_cons_self)
      obtain ⟨later, contacted⟩ := ih (s := { s with
          case := s.case.withDigest (s.case.digest.merge p.digest)
          disk
          network := s.network.setNode p.number (meet p.node s.case.digest) })
        (reachable.tail _ _) { report with
          contacted := report.contacted + 1
          merged := report.merged + (decide (s.case.digest.timestamp < p.stamp)).toNat }
      refine ⟨later, ?_⟩
      simp only [List.map_cons, contactEach, contact_eq gossips, contacted, records, spread,
        List.foldl_cons, List.length_cons, Case.digest_withDigest, Digest.timestamp_merge,
        Nat.add_assoc, Nat.add_comm 1]
      rfl

theorem spread_append (l : Loopback) (d : Digest) (first second : List Partner)
    : spread l d (first ++ second)
      = spread (spread l d first) ((first.map Partner.digest).foldl Digest.merge d) second := by
  induction first generalizing l d with
  | nil => rfl
  | cons p rest ih => exact ih _ _

theorem node?_spread_of_not_mem {l : Loopback} {d : Digest} {partners : List Partner} {number : Nat}
    (absent : number ∉ partners.map Partner.number)
    : (spread l d partners).node? number = l.node? number := by
  induction partners generalizing l d with
  | nil => rfl
  | cons p rest ih =>
      simp only [List.map_cons, List.mem_cons, not_or] at absent
      exact (ih absent.2).trans (Loopback.node?_setNode_of_ne absent.1)

/-- A node ends with the newer of its view and the one that the rounds before brought along. -/
theorem node?_spread_middle {l : Loopback} {d : Digest} {first rest : List Partner} {p : Partner}
    (known : l.node? p.number = some p.node) (before : p.number ∉ first.map Partner.number)
    (behind : p.number ∉ rest.map Partner.number)
    : (spread l d (first ++ p :: rest)).node? p.number
      = some (meet p.node ((first.map Partner.digest).foldl Digest.merge d)) := by
  have still : (spread l d first).node? p.number = some p.node :=
    (node?_spread_of_not_mem before).trans known
  rw [spread_append, spread, node?_spread_of_not_mem behind, Loopback.node?_setNode_self still]

theorem directory_spread (l : Loopback) (d : Digest) (partners : List Partner)
    : (spread l d partners).directory = l.directory := by
  induction partners generalizing l d with
  | nil => rfl
  | cons p rest ih => exact ih _ _

end Site

theorem Reachable.take {l : Loopback} {c : Case} {partners : List Partner}
    (reachable : Reachable l c partners) (count : Nat)
    : Reachable l c (partners.take count) where
  routed p member := reachable.routed p (List.mem_of_mem_take member)
  cluster p member := reachable.cluster p (List.mem_of_mem_take member)
  recognised p member := reachable.recognised p (List.mem_of_mem_take member)
  distinct := (reachable.distinct).sublist ((List.take_sublist count partners).map Partner.number)

theorem parts_of_lt {partners : List Partner} {i : Nat} (bound : i < partners.length)
    : partners.take i ++ partners[i] :: partners.drop (i + 1) = partners := by
  rw [← List.drop_eq_getElem_cons bound, List.take_append_drop]

/-- A partner is none of those before it and behind it. -/
theorem Reachable.fresh {l : Loopback} {c : Case} {partners : List Partner}
    (reachable : Reachable l c partners) {i : Nat} (bound : i < partners.length)
    : partners[i].number ∉ (partners.take i).map Partner.number
      ∧ partners[i].number ∉ (partners.drop (i + 1)).map Partner.number := by
  have distinct : ((partners.take i).map Partner.number
      ++ partners[i].number :: (partners.drop (i + 1)).map Partner.number).Nodup := by
    rw [← List.map_cons, ← List.map_append, parts_of_lt bound]
    exact reachable.distinct
  have fresh := (List.nodup_cons.mp (List.perm_middle.nodup_iff.mp distinct)).1
  rwa [List.mem_append, not_or] at fresh

end TaskFabric
