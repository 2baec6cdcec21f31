import TaskFabric.Proofs.Gossip.OwnCard

/-! Under which keys the cards of a view stand. Every view that nodes make lists each card under the
identity of its own address, and gossip hands views on whole. So no address is listed twice in a
cluster, and the identity of a listed card leads to that card.
-/

namespace TaskFabric

-----------------------------------------------------------------------------------------
-- Keyed views
-----------------------------------------------------------------------------------------

namespace Digest

/-- Whether each card of a view is listed under the identity of its address. -/
def Keyed (d : Digest) : Prop := ∀ key card, d.cards.get? key = some card → card.identity = key

variable {d other : Digest} {card : Card}

theorem keyed_ofCards (cards : List Card) (clock : Int64) : (ofCards cards clock).Keyed := by
  intro key card found
  obtain ⟨source, _, same⟩ := List.mem_map.mp (SortedMap.mem_of_get?_ofList found)
  obtain ⟨identity, rfl⟩ := Prod.mk.inj same
  exact identity

/-- A card that is put under its identity, in the place of another one or of none, is keyed. -/
theorem Keyed.of_insert {key : String} (keyed : d.Keyed) (identity : card.identity = key)
    (later : UInt64)
    : Keyed ⟨d.cards.insert key card, later⟩ := by
  intro other listed found
  rw [SortedMap.get?_insert] at found
  split at found
  · next same =>
      cases found
      exact identity.trans same.symm
  · exact keyed other listed found

theorem Keyed.insert (keyed : d.Keyed) (card : Card) (clock : Int64)
    : (d.insert card clock).Keyed :=
  keyed.of_insert rfl _

/-- Whether a card is alive is no part of its identity. -/
theorem Keyed.setAlive (keyed : d.Keyed) (key : String) (alive : Bool) (clock : Int64)
    : (d.setAlive key alive clock).Keyed := by
  unfold Digest.setAlive
  split
  · next card found =>
      have identity : Card.identity { card with alive } = key := keyed key card found
      split
      · exact keyed.of_insert identity _
      · exact keyed
  · exact keyed

theorem Keyed.removeDead (keyed : d.Keyed) (clock : Int64) : (d.removeDead clock).Keyed := by
  unfold Digest.removeDead
  split
  · exact keyed
  · intro key card found
    exact keyed key card (SortedMap.get?_filter_eq_some.mp found).1

theorem Keyed.merge (keyed : d.Keyed) (others : other.Keyed) : (d.merge other).Keyed := by
  rcases d.merge_cases other with ⟨_, same⟩ | ⟨_, same⟩
  · rwa [same]
  · rwa [same]

/-- In a keyed view the identity of a listed card leads to the card. -/
theorem Keyed.get?_identity (keyed : d.Keyed) (listed : card ∈ d.peers)
    : d.cards.get? card.identity = some card := by
  obtain ⟨⟨key, _⟩, entry, rfl⟩ := List.mem_map.mp listed
  have found := SortedMap.mem_toList_iff.mp entry
  exact keyed key _ found ▸ found

/-- No address is listed twice in a keyed view, since no key stands twice in a map. -/
theorem Keyed.peers_apart (keyed : d.Keyed)
    : d.peers.Pairwise fun a b => a.sameAddress b = false := by
  refine List.pairwise_map.mpr ?_
  have distinct := List.pairwise_map.mp d.cards.keys_nodup
  refine distinct.imp_of_mem ?_
  intro a b first second different
  have identity {entry : String × Card} (member : entry ∈ d.cards.toList)
      : entry.2.identity = entry.1 :=
    keyed entry.1 entry.2 (SortedMap.mem_toList_iff.mp member)
  refine Bool.eq_false_iff.mpr ?_
  intro same
  apply different
  calc
    a.1 = a.2.identity := (identity first).symm
    _ = b.2.identity := Card.identity_eq_of_sameAddress same
    _ = b.1 := identity second

end Digest

-----------------------------------------------------------------------------------------
-- Operations of a case
-----------------------------------------------------------------------------------------

namespace Case

/-- A case as it is made, in memory or in a file, and as it is known from outside. -/
inductive Fresh : Case → Prop
  | started {id : String} {own : Card} {seeds : List Card} {clock : Int64}
    : Fresh (start id own seeds clock)
  | created {path : Path} {id : String} {own : Card} {seeds : List Card} {clock : Int64}
    {disk later : Disk} {c : Case}
    (made : create path id own seeds clock disk = (.ok c, later))
    : Fresh c
  | known {c : Case} (fresh : Fresh c) (ip : String) : Fresh (c.withExternalIp ip)

variable {c : Case} {m : Message} {card : Card}

theorem Fresh.keyed (fresh : c.Fresh) : c.digest.Keyed := by
  induction fresh with
  | started => exact Digest.keyed_ofCards _ _
  | @created path id own seeds clock disk _ _ made =>
      unfold create at made
      simp only at made
      split at made <;> cases made
      exact Digest.keyed_ofCards (own :: seeds.map Card.asSeed) clock
  | known _ _ ih => exact ih

/-- An operation keeps a view keyed, if a view that it takes over is. -/
theorem keyed_edit {e : Edit} (keyed : c.digest.Keyed)
    (taken : ∀ other, e = .merge other → other.Keyed) (clock : Int64) (disk : Disk)
    : (c.edit clock disk e).2.1.digest.Keyed := by
  rw [edit_case, digest_withDigest]
  cases writes : e.view? c.digest clock with
  | none => exact keyed
  | some view =>
      cases e with
      | insert card =>
          cases writes
          exact keyed.insert card clock
      | merge other =>
          obtain ⟨_, ⟨⟩⟩ := Option.ite_none_right_eq_some.mp writes
          exact taken _ rfl
      | markDown key =>
          obtain ⟨_, ⟨⟩⟩ := Option.ite_none_right_eq_some.mp writes
          exact keyed.setAlive key false clock
      | clean =>
          obtain ⟨_, ⟨⟩⟩ := Option.ite_none_left_eq_some.mp writes
          exact keyed.removeDead clock

theorem keyed_markDown (keyed : c.digest.Keyed) (key : String) (clock : Int64) (disk : Disk)
    : (c.markDown key clock disk).2.1.digest.Keyed :=
  keyed_edit (e := .markDown key) keyed nofun clock disk

/-- A node that handles a keyed message has a keyed view behind it, and so has its reply. -/
theorem keyed_exchange (keyed : c.digest.Keyed) (carried : m.digest.Keyed) (disk : Disk)
    : (c.exchange m disk).2.1.digest.Keyed
      ∧ ∀ reply, (c.exchange m disk).1 = some reply → reply.digest.Keyed := by
  rcases handled : c.exchange m disk with ⟨reply, after, later⟩
  obtain ⟨kept, answered⟩ := exchange_spec handled
  have own : after.digest.Keyed := by
    rcases kept with rfl | rfl
    · exact keyed
    · exact keyed.merge carried
  refine ⟨own, ?_⟩
  intro answer came
  rw [answered answer came]
  exact own

/-- Marking down a card that a keyed view lists as alive changes that card and nothing else. It
answers that it did so, unless the changed case cannot be written.
-/
theorem markDown_of_keyed (keyed : c.digest.Keyed) (listed : card ∈ c.peers)
    (alive : card.alive = true) (clock : Int64) (disk : Disk)
    : let marked := c.markDown card.identity clock disk
      marked.1 = (marked.2.1.persist disk).1.map (fun _ => true)
      ∧ marked.2.1 = c.withDigest marked.2.1.digest
      ∧ ∀ key, marked.2.1.digest.cards.get? key
          = if key = card.identity then some { card with alive := false }
            else c.digest.cards.get? key := by
  intro marked
  have found := keyed.get?_identity listed
  have changes : c.digest.changesAlive card.identity false = true := by
    simp [Digest.changesAlive, found, alive]
  obtain ⟨same, sameFound, _, down⟩ := Digest.setAlive_eq changes clock
  obtain rfl : card = same := Option.some.inj (found.symm.trans sameFound)
  have case_eq : marked.2.1 = c.withDigest (c.digest.setAlive card.identity false clock) := by
    simp only [marked, markDown, changes, if_true]
    split <;> rfl
  refine ⟨?_, ?_, ?_⟩
  · rw [case_eq]
    simp only [marked, markDown, changes, if_true]
    rcases persist _ disk with ⟨_ | _, _⟩ <;> rfl
  · rw [case_eq, digest_withDigest]
  · intro key
    rw [case_eq, digest_withDigest, down]
    exact SortedMap.get?_insert _ _ _ _

end Case

-----------------------------------------------------------------------------------------
-- Catchups
-----------------------------------------------------------------------------------------

variable {σ : Type}

/-- Calls that answer keyed views with keyed views, as long as the network is sound. -/
structure Transport.Keying (t : Transport σ) (sound : σ → Prop) : Prop where
  network
    : ∀ {network : σ} {m : Message},
        sound network
        → m.digest.Keyed
        → ∀ peer disk, sound (t.exchange peer m disk network).2.2
  reply
    : ∀ {network : σ} {m reply : Message} {peer : Card} {disk : Disk},
        sound network
        → m.digest.Keyed
        → (t.exchange peer m disk network).1 = .reply (some reply)
        → reply.digest.Keyed

namespace Site

/-- A node with a keyed view in a sound network. -/
structure Keyed (sound : σ → Prop) (s : Site σ) : Prop where
  view : s.case.digest.Keyed
  network : sound s.network

variable {t : Transport σ} {sound : σ → Prop} {knobs : Knobs} {clock : Int64} {peer : Card}
  {s next : Site σ} {m : Message}

theorem Keyed.call (keyed : s.Keyed sound) (keying : t.Keying sound) (carried : m.digest.Keyed)
    {result : Except ClusterError (Option Message)}
    (called : s.call t knobs peer m = (result, next))
    : next.Keyed sound ∧ ∀ reply, result = .ok (some reply) → reply.digest.Keyed := by
  have network := keying.network keyed.network carried peer s.disk
  rcases answered : t.exchange peer m s.disk s.network with ⟨_ | _ | _, disk, after⟩
  all_goals
    rw [answered] at network
    simp only [Site.call, answered, Prod.mk.injEq] at called
    obtain ⟨rfl, rfl⟩ := called
    refine ⟨⟨keyed.view, network⟩, ?_⟩
  · intro reply came
    rw [Except.ok.inj came] at answered
    exact keying.reply keyed.network carried (congrArg Prod.fst answered)
  · simp
  · simp

theorem Keyed.handle (keyed : s.Keyed sound) (carried : m.digest.Keyed)
    {reply : Option Message} (handled : s.handle m = (reply, next))
    : next.Keyed sound ∧ ∀ answer, reply = some answer → answer.digest.Keyed := by
  obtain ⟨own, answered⟩ := Case.keyed_exchange keyed.view carried s.disk
  cases handled
  exact ⟨⟨own, keyed.network⟩, answered⟩

theorem Keyed.markDown (keyed : s.Keyed sound) (key : String) (clock : Int64)
    : (s.markDown key clock).2.Keyed sound :=
  ⟨Case.keyed_markDown keyed.view key clock s.disk, keyed.network⟩

theorem Keyed.finishRound (keyed : s.Keyed sound) (keying : t.Keying sound)
    (carried : m.digest.Keyed) (merged : Bool)
    : (s.finishRound t knobs peer m merged).2.Keyed sound := by
  unfold Site.finishRound
  rcases called : s.call t knobs peer m with ⟨_ | _ | ack3, told⟩ <;>
    obtain ⟨after, replied⟩ := keyed.call keying carried called
  · exact after
  · exact after
  · simp only
    split
    · exact after
    · rcases handled : told.handle ack3 with ⟨_, ended⟩
      exact (after.handle (replied ack3 rfl) handled).1

theorem Keyed.gossipWith (keyed : s.Keyed sound) (keying : t.Keying sound) (knobs : Knobs)
    (peer : Card)
    : (s.gossipWith t knobs peer).2.Keyed sound := by
  unfold Site.gossipWith
  rcases called : s.call t knobs peer (s.case.message peer .sync) with ⟨_ | _ | ack, asked⟩ <;>
    obtain ⟨after, replied⟩ := keyed.call keying keyed.view called
  · exact after
  · exact after
  · simp only
    split
    · exact after
    · split
      · exact after
      · rcases handled : asked.handle ack with ⟨_ | ack2, told⟩ <;>
          obtain ⟨own, answered⟩ := after.handle (replied ack rfl) handled
        · exact own
        · simp only
          split
          · exact own
          · exact own.finishRound keying (answered ack2 rfl) _

theorem Keyed.contact (keyed : s.Keyed sound) (keying : t.Keying sound) (report : CatchupReport)
    : (s.contact t knobs clock report peer).2.Keyed sound := by
  have round := keyed.gossipWith keying knobs peer
  unfold Site.contact
  rcases gossiped : s.gossipWith t knobs peer with ⟨e | _ | _, next⟩ <;> rw [gossiped] at round
  · have marked := round.markDown peer.identity clock
    simp only
    split
    · rcases down : next.markDown peer.identity clock with ⟨_ | _, last⟩ <;>
        (rw [down] at marked; exact marked)
    · exact round
  · exact round
  · exact round

/-- Rounds keep the views keyed, by induction on the peers. -/
theorem Keyed.contactEach {peers : List Card} (keyed : s.Keyed sound) (keying : t.Keying sound)
    (report : CatchupReport)
    : (s.contactEach t knobs clock peers report).2.Keyed sound := by
  induction peers generalizing s report with
  | nil => exact keyed
  | cons peer rest ih => exact ih (keyed.contact keying report) _

theorem Keyed.catchup (keyed : s.Keyed sound) (keying : t.Keying sound) (round : UInt64)
    : (s.catchup t knobs clock round).2.2.Keyed sound := by
  unfold Site.catchup
  split
  · exact keyed.contactEach keying .empty
  · exact keyed

end Site

-----------------------------------------------------------------------------------------
-- Networks that remember more
-----------------------------------------------------------------------------------------

/-- A network that does what another one does, and may remember more. -/
def Transport.Shows {τ : Type} (t : Transport σ) (u : Transport τ) (f : σ → τ) : Prop :=
  ∀ peer m disk network,
    u.exchange peer m disk (f network)
      = Prod.map id (Prod.map id f) (t.exchange peer m disk network)

namespace Site

variable {τ : Type} {t : Transport σ} {u : Transport τ} {f : σ → τ}

/-- The same node in another network. -/
def onto (f : σ → τ) (s : Site σ) : Site τ := ⟨s.case, s.disk, f s.network, s.waited⟩

theorem call_onto (shows : t.Shows u f) (knobs : Knobs) (peer : Card) (m : Message) (s : Site σ)
    : (s.onto f).call u knobs peer m = Prod.map id (onto f) (s.call t knobs peer m) := by
  unfold Site.call
  simp only [onto, shows peer m]
  rcases t.exchange peer m s.disk s.network with ⟨_ | _ | _, _, _⟩ <;> rfl

theorem finishRound_onto (shows : t.Shows u f) (knobs : Knobs) (peer : Card) (m : Message)
    (merged : Bool) (s : Site σ)
    : (s.onto f).finishRound u knobs peer m merged
      = Prod.map id (onto f) (s.finishRound t knobs peer m merged) := by
  unfold Site.finishRound
  rw [call_onto shows]
  rcases s.call t knobs peer m with ⟨_ | _ | ack3, told⟩
  · rfl
  · rfl
  · simp only [Prod.map, id]
    split <;> rfl

theorem gossipWith_onto (shows : t.Shows u f) (knobs : Knobs) (peer : Card) (s : Site σ)
    : (s.onto f).gossipWith u knobs peer = Prod.map id (onto f) (s.gossipWith t knobs peer) := by
  unfold Site.gossipWith
  simp only [call_onto shows]
  have same : (s.onto f).case = s.case := rfl
  rw [same]
  rcases s.call t knobs peer (s.case.message peer .sync) with ⟨_ | _ | ack, asked⟩
  · rfl
  · rfl
  · have handled : (asked.onto f).handle ack = Prod.map id (onto f) (asked.handle ack) := rfl
    simp only [Prod.map, id, handled]
    split
    · rfl
    · split
      · rfl
      · rcases asked.handle ack with ⟨_ | ack2, told⟩
        · rfl
        · simp only [finishRound_onto shows]
          split <;> rfl

theorem contact_onto (shows : t.Shows u f) (knobs : Knobs) (clock : Int64) (report : CatchupReport)
    (peer : Card) (s : Site σ)
    : (s.onto f).contact u knobs clock report peer
      = Prod.map id (onto f) (s.contact t knobs clock report peer) := by
  unfold Site.contact
  rw [gossipWith_onto shows]
  rcases s.gossipWith t knobs peer with ⟨e | _ | _, next⟩
  · have marked : (next.onto f).markDown peer.identity clock
        = Prod.map id (onto f) (next.markDown peer.identity clock) :=
      rfl
    simp only [Prod.map, id, marked]
    split
    · rcases next.markDown peer.identity clock with ⟨_ | _, _⟩ <;> rfl
    · rfl
  · rfl
  · rfl

theorem contactEach_onto (shows : t.Shows u f) (knobs : Knobs) (clock : Int64) (peers : List Card)
    (report : CatchupReport) (s : Site σ)
    : (s.onto f).contactEach u knobs clock peers report
      = Prod.map id (onto f) (s.contactEach t knobs clock peers report) := by
  induction peers generalizing report s with
  | nil => rfl
  | cons peer rest ih =>
      simp only [contactEach, contact_onto shows, Prod.map, id]
      exact ih _ _

/-- A catchup goes the same way whatever else the network remembers. -/
theorem catchup_onto (shows : t.Shows u f) (knobs : Knobs) (clock : Int64) (round : UInt64)
    (s : Site σ)
    : (s.onto f).catchup u knobs clock round
      = Prod.map id (Prod.map id (onto f)) (s.catchup t knobs clock round) := by
  have gossips : (s.onto f).gossips knobs = s.gossips knobs := rfl
  have same : (s.onto f).case = s.case := rfl
  unfold Site.catchup
  rw [gossips, same]
  split
  · rw [contactEach_onto shows]
    rfl
  · rfl

end Site

-----------------------------------------------------------------------------------------
-- Clusters
-----------------------------------------------------------------------------------------

/-- The nodes of a cluster, and all messages that they have sent. -/
structure Cluster where
  network : Loopback
  sent : List Message

/-- The message that comes with an answer, if there is one. -/
def Answer.message? : Answer (Option Message) → Option Message
  | .reply message => message
  | .failure _ | .silence => none

namespace Cluster

/-- The cluster before its first node. -/
def empty : Cluster := ⟨.empty, []⟩

/-- Calls among the nodes. A message has been sent whether or not it arrives. -/
def transport : Transport Cluster where
  exchange peer m disk c :=
    let (answer, disk, network) := Loopback.exchange peer m disk c.network
    (answer, disk, ⟨network, answer.message?.toList ++ m :: c.sent⟩)
  distribute limit peer tasks c :=
    let (answer, network) := Loopback.distribute limit peer tasks c.network
    (answer, { c with network })

/-- A message is sent. -/
def tell (c : Cluster) (m : Message) : Cluster := { c with sent := m :: c.sent }

/-- A node has become another one and has sent messages. -/
def become (c : Cluster) (number : Nat) (node : Node) (messages : List Message) : Cluster :=
  ⟨c.network.setNode number node, messages ++ c.sent⟩

/-- A node has one catchup, and nothing else comes between. -/
def catchup (c : Cluster) (number : Nat) (node : Node) (clock : Int64) (disk : Disk) : Cluster :=
  let (_, _, host) := Host.catchup transport clock ⟨node, disk, c⟩
  host.network.become number host.node []

/-- Such a catchup is one within the process: keeping the messages changes nothing. -/
theorem network_catchup (c : Cluster) (number : Nat) (node : Node) (clock : Int64) (disk : Disk)
    : let (_, _, host) := Host.catchup Loopback.transport clock ⟨node, disk, c.network⟩
      (c.catchup number node clock disk).network = host.network.setNode number host.node := by
  have shows : transport.Shows Loopback.transport network := fun _ _ _ _ => rfl
  let site : Site Cluster := ⟨node.case, disk, c, 0⟩
  have same := Site.catchup_onto shows node.knobs clock node.round site
  simp only [Site.onto, site] at same
  simp only [catchup, Host.catchup, same]
  rfl

/-- What happens in a cluster. A node that has just been made joins it. A node inserts a card, marks
one down, or cleans its view; it sends a message of any kind with its view; it handles any message
that was ever sent, and its reply is sent; or it has a catchup of which nothing else comes between.
A catchup during which other things happen is one message after another, with another node marked
down at the end of a failed round. The disk is any at any time, and whatever else nodes and networks
are made of may change.
-/
inductive Step (c : Cluster) : Cluster → Prop
  | joined (node : Node) (fresh : node.case.Fresh)
    : Step c { c with network.nodes := c.network.nodes ++ [node] }
  | edited {number : Nat} {node : Node} {e : Case.Edit} {clock : Int64} {disk : Disk}
    (known : c.network.node? number = some node) (own : ∀ other, e ≠ .merge other)
    : Step c (c.become number { node with case := (node.case.edit clock disk e).2.1 } [])
  | told {number : Nat} {node : Node} {m : Message} (known : c.network.node? number = some node)
    (own : m.digest = node.case.digest)
    : Step c (c.tell m)
  | handled {number : Nat} {node : Node} {m : Message} {disk : Disk}
    (known : c.network.node? number = some node) (arrived : m ∈ c.sent)
    : Step c
        (c.become number { node with case := (node.case.exchange m disk).2.1 }
          (node.case.exchange m disk).1.toList)
  | caughtUp {number : Nat} {node : Node} {clock : Int64} {disk : Disk}
    (known : c.network.node? number = some node)
    : Step c (c.catchup number node clock disk)
  | elsewhere {network : Loopback}
    (cases : network.nodes.map Node.case = c.network.nodes.map Node.case)
    : Step c { c with network }

/-- Any number of steps. -/
abbrev Run : Cluster → Cluster → Prop := Relation.ReflTransGen Step

/-- All views around, those of the nodes and those of the messages, are keyed. -/
structure Keyed (c : Cluster) : Prop where
  held : ∀ node ∈ c.network.nodes, node.case.digest.Keyed
  carried : ∀ m ∈ c.sent, m.digest.Keyed

variable {c next now : Cluster} {number : Nat} {node : Node} {messages : List Message}

theorem Keyed.known (keyed : c.Keyed) (known : c.network.node? number = some node)
    : node.case.digest.Keyed :=
  keyed.held node (List.mem_of_getElem? known)

theorem Keyed.become (keyed : c.Keyed) (number : Nat) (node : Node)
    (own : node.case.digest.Keyed) (sent : ∀ m ∈ messages, m.digest.Keyed)
    : (c.become number node messages).Keyed := by
  refine ⟨?_, ?_⟩
  · intro other member
    rcases List.mem_or_eq_of_mem_set member with before | same
    · exact keyed.held other before
    · exact same ▸ own
  · intro m member
    rcases List.mem_append.mp member with new | before
    · exact sent m new
    · exact keyed.carried m before

theorem Keyed.tell {m : Message} (keyed : c.Keyed) (carried : m.digest.Keyed)
    : (c.tell m).Keyed :=
  ⟨keyed.held, List.forall_mem_cons.mpr ⟨carried, keyed.carried⟩⟩

/-- A node that handles a keyed message sends a keyed reply. -/
theorem Keyed.handle {m : Message} (keyed : c.Keyed) (carried : m.digest.Keyed)
    (known : c.network.node? number = some node) (disk : Disk)
    : (c.become number { node with case := (node.case.exchange m disk).2.1 }
        (node.case.exchange m disk).1.toList).Keyed := by
  obtain ⟨own, answered⟩ := Case.keyed_exchange (keyed.known known) carried disk
  refine keyed.become number { node with case := (node.case.exchange m disk).2.1 } own ?_
  intro answer member
  exact answered answer (Option.mem_toList.mp member)

/-- A call hands a keyed view to one node at most, which answers with the view that it then has. -/
theorem keying_transport : transport.Keying Keyed where
  network := by
    intro c m keyed carried peer disk
    cases routed : c.network.route peer with
    | error e =>
        simp only [transport, Loopback.exchange, routed]
        exact keyed.tell carried
    | ok target =>
        have known := (Loopback.route_eq_ok_iff.mp routed).2
        simp only [transport, Loopback.exchange, routed]
        exact (keyed.tell carried).handle carried known disk
  reply := by
    intro c m reply peer disk keyed carried answered
    cases routed : c.network.route peer with
    | error e => simp [transport, Loopback.exchange, routed] at answered
    | ok target =>
        have known := (Loopback.route_eq_ok_iff.mp routed).2
        simp only [transport, Loopback.exchange, routed, Answer.reply.injEq] at answered
        exact (Case.keyed_exchange (keyed.known known) carried disk).2 reply answered

theorem Keyed.step (keyed : c.Keyed) (step : Step c next) : next.Keyed := by
  cases step with
  | joined node fresh =>
      refine ⟨?_, keyed.carried⟩
      intro other member
      rcases List.mem_append.mp member with before | new
      · exact keyed.held other before
      · rw [List.mem_singleton.mp new]
        exact fresh.keyed
  | @edited number node e clock disk known own =>
      have edited := Case.keyed_edit (keyed.known known) (fun other same => absurd same (own other))
        clock disk
      exact keyed.become number { node with case := (node.case.edit clock disk e).2.1 } edited
        (List.forall_mem_nil _)
  | @told number node m known own =>
      exact keyed.tell (own ▸ keyed.known known)
  | @handled number node m disk known arrived =>
      exact keyed.handle (keyed.carried m arrived) known disk
  | @caughtUp number node clock disk known =>
      let site : Site Cluster := ⟨node.case, disk, c, 0⟩
      have start : site.Keyed Keyed := ⟨keyed.known known, keyed⟩
      have caught : (site.catchup transport node.knobs clock node.round).2.2.Keyed Keyed :=
        start.catchup keying_transport node.round
      exact caught.network.become number (Host.catchup transport clock ⟨node, disk, c⟩).2.2.node
        caught.view (List.forall_mem_nil _)
  | @elsewhere network cases =>
      refine ⟨?_, keyed.carried⟩
      intro node member
      have same : node.case ∈ c.network.nodes.map Node.case := by
        rw [← cases]
        exact List.mem_map_of_mem member
      obtain ⟨before, known, equal⟩ := List.mem_map.mp same
      exact equal ▸ keyed.held before known

/-- Whatever happens in a cluster, all views are keyed, by induction on what happens. -/
theorem Run.keyed (run : Run empty now) : now.Keyed := by
  induction run with
  | refl => exact ⟨List.forall_mem_nil _, List.forall_mem_nil _⟩
  | tail _ step ih => exact ih.step step

/-- In a cluster whose nodes were all made afresh, each card is listed under the identity of its
address at every moment, in the views of the nodes and in those of all messages ever sent. So no
node lists an address twice; and to mark down a card that a node lists as alive changes that card
and no other, and is answered with true if the change can be written.
-/
theorem cards_stand_under_identities (run : Run empty now)
    : (∀ m ∈ now.sent, m.digest.Keyed)
      ∧ ∀ node ∈ now.network.nodes,
          node.case.digest.Keyed
          ∧ (node.case.peers.Pairwise fun a b => a.sameAddress b = false)
          ∧ ∀ card ∈ node.case.peers, card.alive = true → ∀ clock disk,
              let marked := node.case.markDown card.identity clock disk
              marked.1 = (marked.2.1.persist disk).1.map (fun _ => true)
              ∧ marked.2.1 = node.case.withDigest marked.2.1.digest
              ∧ ∀ key, marked.2.1.digest.cards.get? key
                  = if key = card.identity then some { card with alive := false }
                    else node.case.digest.cards.get? key := by
  have keyed := run.keyed
  refine ⟨keyed.carried, ?_⟩
  intro node member
  have own := keyed.held node member
  refine ⟨own, own.peers_apart, ?_⟩
  intro card listed alive clock disk
  exact Case.markDown_of_keyed own listed alive clock disk

/-- Two nodes that have met: both have joined, and one has had a catchup with the other, for which
four messages were sent. It can mark the other one down.
-/
theorem met_peer_is_marked_down
    : let first := Host.member 1 [2] 1700000000
      let second := Host.member 2 [1] 1700000005
      let met := (Cluster.mk (Host.pair first second) []).catchup 0 first 1700000006 .empty
      Run empty met
      ∧ met.sent.length = 4
      ∧ ∃ node ∈ met.network.nodes,
          node.case.digest = second.case.digest
          ∧ (node.case.markDown "127.0.0.1:2" 1700000007 .empty).1 = .ok true := by
  intro first second met
  have one : Step empty ⟨⟨[first], ∅⟩, []⟩ := .joined first .started
  have two : Step ⟨⟨[first], ∅⟩, []⟩ ⟨⟨[first, second], ∅⟩, []⟩ :=
    .joined second .started
  have known : Step ⟨⟨[first, second], ∅⟩, []⟩ ⟨Host.pair first second, []⟩ := .elsewhere rfl
  have caught : Step ⟨Host.pair first second, []⟩ met := .caughtUp rfl
  have run : Run empty met := (((Relation.ReflTransGen.single one).tail two).tail known).tail caught
  obtain ⟨_, keyed⟩ := cards_stand_under_identities run
  have there : ∃ node ∈ met.network.nodes,
      node.case.digest = second.case.digest ∧ node.case.path = none := by
    decide
  obtain ⟨node, member, view, noFile⟩ := there
  obtain ⟨_, _, marks⟩ := keyed node member
  have listed : Card.ofAddress "127.0.0.1" 2 ∈ node.case.peers := by
    rw [Case.peers, view]
    decide
  obtain ⟨answer, kept, _⟩ := marks _ listed rfl 1700000007 .empty
  have written (view : Digest) (disk : Disk)
      : ((node.case.withDigest view).persist disk).1 = .ok () := by
    simp [Case.persist, Case.withDigest, noFile]
  rw [kept, written] at answer
  exact ⟨run, by decide, node, member, view, answer⟩

end Cluster

end TaskFabric
