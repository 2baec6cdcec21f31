import TaskFabric.Proofs.Gossip.Partners

/-! One catchup among nodes of a process. Each round leaves the newer of two views on both sides, so
the view of the node that gossips is always the newest that it has met, and the peers are left with
what was the newest when their turn came.
-/

namespace TaskFabric

/-- What one round of a catchup does with a partner that it takes to a state: it passes with all
four messages, tells whether the view of the partner was newer, and if the views are not equally
old, both sides end with the newer one.
-/
structure Met (knobs : Knobs) (s : Site Loopback) (p : Partner) (next : Site Loopback)
    (theirs : Case)
    : Prop where
  passed
    : s.gossipWith Loopback.transport knobs p.card
      = (.ok (decide (s.case.digest.timestamp < p.stamp)), next)
  messages : Case.Round p.card s.case p.node.case next.case theirs
  before : s.network.node? p.number = some p.node
  after : next.network.node? p.number = some { p.node with case := theirs }
  differ
    : s.case.digest.timestamp ≠ p.stamp
      → next.case.digest = theirs.digest
        ∧ theirs.digest = if s.case.digest.timestamp < p.stamp then p.digest else s.case.digest
  agree
    : s.case.digest.timestamp = p.stamp
      → next.case.digest = s.case.digest ∧ theirs.digest = p.digest

theorem exists_met {s next : Site Loopback} {p : Partner} {knobs : Knobs} {merged : Bool}
    (routed : s.network.route p.card = .ok (p.number, p.node))
    (cluster : p.node.case.state.id = s.case.state.id)
    (recognised : p.node.case.isLocal p.card = true)
    (gossips : s.gossipWith Loopback.transport knobs p.card = (.ok merged, next))
    : Met knobs s p next (p.node.case.withDigest (p.digest.merge s.case.digest)) := by
  obtain ⟨disk, passed⟩ := Site.exists_gossipWith knobs routed cluster recognised
  rw [passed, Prod.mk.injEq] at gossips
  obtain ⟨_, rfl⟩ := gossips
  obtain ⟨_, known⟩ := Loopback.route_eq_ok_iff.mp routed
  refine {
    passed := passed
    messages := Case.exists_round cluster recognised
    before := known
    after := Loopback.node?_setNode_self known
    differ := ?_
    agree := ?_
  }
  · intro different
    rcases s.case.digest.merge_cases p.digest with ⟨newer, same⟩ | ⟨older, same⟩
    · have theirs : p.digest.merge s.case.digest = p.digest :=
        Digest.merge_eq_of_le (UInt64.le_of_lt newer)
      simp only [Case.digest_withDigest, same, theirs, Partner.stamp, newer, if_true, and_self]
    · have strict : p.stamp < s.case.digest.timestamp := UInt64.lt_of_le_of_ne older different.symm
      have theirs : p.digest.merge s.case.digest = s.case.digest := Digest.merge_eq_of_lt strict
      have notNewer : ¬s.case.digest.timestamp < p.stamp := UInt64.not_lt.mpr older
      simp only [Case.digest_withDigest, same, theirs, notNewer, if_false, and_self]
  · intro same
    simp only [Case.digest_withDigest]
    exact ⟨Digest.merge_eq_of_le (UInt64.le_of_eq same.symm),
      Digest.merge_eq_of_le (UInt64.le_of_eq same)⟩

/-- The records among timestamps are those that exceed the newest before them. -/
theorem records_eq (first : UInt64) (stamps : List UInt64)
    : Site.records first stamps
      = (List.finRange stamps.length).countP fun i : Fin _ =>
          decide (newest first (stamps.take i) < stamps[i]) := by
  induction stamps generalizing first with
  | nil => rfl
  | cons stamp rest ih =>
      have split : List.finRange (stamp :: rest).length
          = 0 :: (List.finRange rest.length).map Fin.succ := List.finRange_succ
      rw [Site.records, ih, split, List.countP_cons, List.countP_map, Nat.add_comm]
      congr 1
      change _ = if decide (first < stamp) = true then 1 else 0
      cases decide (first < stamp) <;> rfl

/-- A catchup has its rounds, also if there are none. -/
theorem Site.catchup_eq {σ : Type} (t : Transport σ) (knobs : Knobs) (clock : Int64)
    (round : UInt64) (s : Site σ)
    : ∃ next,
        s.catchup t knobs clock round
        = ((s.contactEach t knobs clock (s.case.contacts knobs.fanout round) .empty).1, next,
          (s.contactEach t knobs clock (s.case.contacts knobs.fanout round) .empty).2) := by
  unfold catchup
  split
  · exact ⟨_, rfl⟩
  · next silent =>
      have nobody : s.case.contacts knobs.fanout round = [] := by
        unfold Case.contacts
        simp only [gossips, Bool.and_eq_true, bne_iff_ne, ne_eq, Bool.not_eq_true',
          not_and, Bool.not_eq_false] at silent
        by_cases off : knobs.fanout = 0
        · simp [off]
        · have empty := List.isEmpty_iff.mp (silent off)
          simp [empty]
      exact ⟨round, by rw [nobody]; rfl⟩

/-- The report and the state after the first rounds with some peers. -/
def Site.rounds (knobs : Knobs) (clock : Int64) (peers : List Card) (s : Site Loopback)
    (count : Nat)
    : CatchupReport × Site Loopback :=
  s.contactEach Loopback.transport knobs clock (peers.take count) .empty

namespace Reachable

variable {s : Site Loopback} {partners : List Partner}

theorem exists_rounds (reachable : Reachable s.network s.case partners) (knobs : Knobs)
    (clock : Int64) (count : Nat)
    : ∃ disk,
        (s.rounds knobs clock (partners.map Partner.card) count).2
        = { s with
            case :=
              s.case.withDigest
                (((partners.take count).map Partner.digest).foldl Digest.merge s.case.digest)
            disk
            network := Site.spread s.network s.case.digest (partners.take count) } := by
  obtain ⟨disk, contacted⟩ := Site.exists_contactEach (reachable.take count) knobs clock .empty
  rw [List.map_take] at contacted
  exact ⟨disk, congrArg Prod.snd contacted⟩

theorem timestamp_rounds (reachable : Reachable s.network s.case partners) (knobs : Knobs)
    (clock : Int64) (count : Nat)
    : (s.rounds knobs clock (partners.map Partner.card) count).2.case.digest.timestamp
      = newest s.case.digest.timestamp ((partners.map Partner.stamp).take count) := by
  obtain ⟨_, same⟩ := reachable.exists_rounds knobs clock count
  rw [same, Case.digest_withDigest, Digest.timestamp_foldl_merge, List.map_map, ← List.map_take]
  rfl

/-- Each round meets its partner as that was before the first round. -/
theorem met (reachable : Reachable s.network s.case partners) (knobs : Knobs) (clock : Int64)
    {i : Nat} (bound : i < partners.length)
    : let rounds := s.rounds knobs clock (partners.map Partner.card)
      Met knobs (rounds i).2 partners[i] (rounds (i + 1)).2
        (partners[i].node.case.withDigest
          (partners[i].digest.merge (rounds i).2.case.digest)) := by
  intro rounds
  have member := List.getElem_mem bound
  obtain ⟨_, same⟩ := reachable.exists_rounds knobs clock i
  have before : (rounds i).2 = _ := same
  have routed : (rounds i).2.network.route partners[i].card
      = .ok (partners[i].number, partners[i].node) := by
    obtain ⟨listed, found⟩ := Loopback.route_eq_ok_iff.mp (reachable.routed _ member)
    rw [before]
    refine Loopback.route_eq_ok_iff.mpr ⟨?_, ?_⟩
    · rw [Site.directory_spread]
      exact listed
    · exact (Site.node?_spread_of_not_mem (reachable.fresh bound).1).trans found
  have cluster : partners[i].node.case.state.id = (rounds i).2.case.state.id := by
    rw [before]
    exact reachable.cluster _ member
  have recognised := reachable.recognised _ member
  obtain ⟨_, gossips⟩ := Site.exists_gossipWith knobs routed cluster recognised
  have more : (partners.map Partner.card).take (i + 1)
      = (partners.map Partner.card).take i ++ [partners[i].card] := by
    rw [← List.map_take, ← List.map_take, List.take_succ_eq_append_getElem bound, List.map_append]
    rfl
  have next : rounds (i + 1)
      = (rounds i).2.contact Loopback.transport knobs clock (rounds i).1 partners[i].card := by
    simp only [rounds, Site.rounds, more, Site.contactEach_append, Site.contactEach]
  rw [next, Site.contact_eq gossips]
  exact exists_met routed cluster recognised gossips

theorem node?_spread (reachable : Reachable s.network s.case partners) (knobs : Knobs)
    (clock : Int64) {i : Nat} (bound : i < partners.length)
    : (Site.spread s.network s.case.digest partners).node? partners[i].number
      = some
          (Site.meet partners[i].node
            (s.rounds knobs clock (partners.map Partner.card) i).2.case.digest) := by
  obtain ⟨_, found⟩ :=
    Loopback.route_eq_ok_iff.mp (reachable.routed _ (List.getElem_mem bound))
  obtain ⟨before, behind⟩ := reachable.fresh bound
  have ended := Site.node?_spread_middle (d := s.case.digest) found before behind
  obtain ⟨_, same⟩ := reachable.exists_rounds knobs clock i
  rw [parts_of_lt bound] at ended
  rw [ended, same]
  rfl

end Reachable

/-- A catchup of a node of a process, with the time that it waits in vain. -/
def catchupAt (clock : Int64) (h : Host Loopback) : (CatchupReport × Nat) × Host Loopback :=
  let (report, waited, h) := h.catchup Loopback.transport clock
  ((report, waited), h)

/-- One catchup spreads the newest view as prefix maxima. A node that gossips with partners that it
reaches completes a round with each of them, in their order, without waiting; before and behind each
round its view is the newest so far, and so is what the round leaves with the partner for good.
-/
theorem catchup_spreads_newest {l : Loopback} {number : Nat} {a : Node} {partners : List Partner}
    (here : l.node? number = some a)
    (contacts : a.case.contacts a.knobs.fanout a.round = partners.map Partner.card)
    (reachable : Reachable l a.case partners) (others : number ∉ partners.map Partner.number)
    (clock : Int64) (disk : Disk)
    : let stamps := partners.map Partner.stamp
      let maximum (count : Nat) := newest a.case.digest.timestamp (stamps.take count)
      let rounds :=
        Site.rounds a.knobs clock (partners.map Partner.card) ⟨a.case, disk, l, 0⟩
      ∃ (ended : Node) (later : Disk) (after : Loopback),
        l.onNode number (catchupAt clock) disk
          = some
              ((⟨partners.length,
                  (List.finRange stamps.length).countP fun i : Fin _ =>
                    decide (maximum i < stamps[i]),
                  0, 0⟩, 0),
                later, after)
        ∧ after.node? number = some ended
        ∧ ended.case = (rounds partners.length).2.case
        ∧ ended.case.digest.timestamp = maximum partners.length
        ∧ ended.case.digest ∈ a.case.digest :: partners.map Partner.digest
        ∧ ∀ (i : Nat) (bound : i < partners.length), ∃ theirs,
            Met a.knobs (rounds i).2 partners[i] (rounds (i + 1)).2 theirs
            ∧ (rounds i).2.case.digest.timestamp = maximum i
            ∧ after.node? partners[i].number = some { partners[i].node with case := theirs }
            ∧ theirs.digest.timestamp = maximum (i + 1) := by
  intro stamps maximum rounds
  let site : Site Loopback := ⟨a.case, disk, l, 0⟩
  have start : Reachable site.network site.case partners := reachable
  have stamped (count : Nat) : (rounds count).2.case.digest.timestamp = maximum count :=
    start.timestamp_rounds a.knobs clock count
  obtain ⟨disk', last⟩ := Site.exists_contactEach start a.knobs clock .empty
  obtain ⟨round, caught⟩ := Site.catchup_eq Loopback.transport a.knobs clock a.round
    ⟨a.case, disk, l, 0⟩
  rw [contacts, last] at caught
  have all : rounds partners.length
      = Site.contactEach Loopback.transport a.knobs clock (partners.map Partner.card) .empty
          ⟨a.case, disk, l, 0⟩ := by
    simp only [rounds, Site.rounds, List.take_of_length_le (Nat.le_of_eq (List.length_map _))]
  rw [last] at all
  refine ⟨{ a with case := (rounds partners.length).2.case, round }, disk',
    (Site.spread l a.case.digest partners).setNode number
      { a with case := (rounds partners.length).2.case, round }, ?_, ?_, rfl,
    stamped partners.length, ?_, ?_⟩
  · have counted : Site.records a.case.digest.timestamp stamps
        = (List.finRange stamps.length).countP fun i : Fin _ =>
            decide (maximum i < stamps[i]) := records_eq a.case.digest.timestamp stamps
    simp only [Loopback.onNode, here, Option.map_some, catchupAt, Host.catchup, caught, all,
      CatchupReport.empty, Nat.zero_add, ← counted]
    rfl
  · have still : (Site.spread l a.case.digest partners).node? number = some a :=
      (Site.node?_spread_of_not_mem others).trans here
    exact Loopback.node?_setNode_self still
  · rw [all]
    exact Digest.foldl_merge_mem _ _
  · intro i bound
    have round := start.met a.knobs clock bound
    refine ⟨_, round, stamped i, ?_, ?_⟩
    · have other : partners[i].number ≠ number := fun same =>
        others (same ▸ List.mem_map_of_mem (List.getElem_mem bound))
      exact (Loopback.node?_setNode_of_ne other).trans (start.node?_spread a.knobs clock bound)
    · have asked : (rounds (i + 1)).2.case
          = (rounds i).2.case.withDigest
              ((rounds i).2.case.digest.merge partners[i].digest) :=
        round.messages.spec.1
      rw [← stamped (i + 1), asked]
      exact Digest.timestamp_merge_comm _ _

/-- A node on a port of this host, whose view is of some second. -/
def nodeAt (port : UInt16) (seeds : List Card) (clock : Int64) : Node :=
  ⟨Case.start "office" (Card.ofAddress "127.0.0.1" port) seeds clock, default,
    ⟨2, .ofMillis 1000, .ofMillis 1000, .ofMillis 2000⟩, 0⟩

/-- A peer with an older view than the node that gossips. -/
def olderPeer : Partner := ⟨(Card.ofAddress "127.0.0.1" 2).asSeed, 1, nodeAt 2 [] 10⟩

/-- A peer with a newer view, which is reached from outside under another address. -/
def newerPeer : Partner :=
  let node := nodeAt 3 [] 20
  ⟨(Card.ofAddress "203.0.113.9" 3).asSeed, 2,
    { node with case := node.case.withExternalIp "203.0.113.9" }⟩

/-- The node that gossips, before its first catchup. -/
def gossipingNode : Node :=
  nodeAt 1 [Card.ofAddress "127.0.0.1" 2, Card.ofAddress "203.0.113.9" 3] 15

/-- The process with these three nodes. -/
def threeNodes : Loopback :=
  ⟨[gossipingNode, olderPeer.node, newerPeer.node],
    SortedMap.ofList [("127.0.0.1:2", (1, true)), ("203.0.113.9:3", (2, true))]⟩

theorem reachable_threeNodes
    : Reachable threeNodes gossipingNode.case [olderPeer, newerPeer] where
  routed := by
    intro p member
    rw [List.mem_cons, List.mem_singleton] at member
    rcases member with rfl | rfl <;> rfl
  cluster := by decide
  recognised := by decide
  distinct := by decide

/-- A node takes in the newer view of its second peer; the first one has what was newest before. -/
theorem second_peer_is_newest
    : ∃ (later : Disk) (after : Loopback) (first second ended : Node),
        threeNodes.onNode 0 (catchupAt 30) .empty = some ((⟨2, 1, 0, 0⟩, 0), later, after)
        ∧ after.node? 1 = some first
        ∧ first.case.digest.timestamp = 15
        ∧ after.node? 2 = some second
        ∧ second.case.digest.timestamp = 20
        ∧ after.node? 0 = some ended
        ∧ ended.case.digest.timestamp = 20 := by
  have here : threeNodes.node? 0 = some gossipingNode := rfl
  obtain ⟨ended, later, after, report, own, _, newest, _, each⟩ :=
    catchup_spreads_newest here rfl reachable_threeNodes (by decide) 30 .empty
  obtain ⟨first, _, _, firstNode, firstStamp⟩ := each 0 (by decide)
  obtain ⟨second, _, _, secondNode, secondStamp⟩ := each 1 (by decide)
  exact ⟨later, after, _, _, ended, report, firstNode, firstStamp, secondNode, secondStamp, own,
    newest⟩

end TaskFabric
