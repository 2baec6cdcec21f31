import TaskFabric.Loopback
import TaskFabric.Proofs.CardIdentities
import TaskFabric.Proofs.Gossip.AdoptionReports
import TaskFabric.Proofs.Gossip.Isolation
import TaskFabric.Proofs.Persistence.FailedChanges

/-! What becomes of the card of a node in its own view. The node neither marks itself down nor reaps
itself, whomever it fails to reach; but it takes views over whole, and one that lacks its card is
taken over like any other.
-/

namespace TaskFabric

-----------------------------------------------------------------------------------------
-- Listed cards
-----------------------------------------------------------------------------------------

namespace Digest

/-- Whether a view lists a card of some address under the identity of that address, as alive. -/
def ListsAlive (d : Digest) (card : Card) : Prop :=
  ∃ listed,
    d.cards.get? card.identity = some listed
    ∧ listed.sameAddress card = true
    ∧ listed.alive = true

instance (d : Digest) (card : Card) : Decidable (d.ListsAlive card) :=
  decidable_of_iff
    ((d.cards.get? card.identity).any fun listed => listed.sameAddress card && listed.alive)
    (by simp [ListsAlive, Option.any_eq_true])

variable {d : Digest} {card : Card} {key : String}

/-- Marking down another card leaves a card as it is. -/
theorem listsAlive_setAlive (other : key ≠ card.identity)
    (changes : d.changesAlive key false = true) (clock : Int64)
    : (d.setAlive key false clock).ListsAlive card ↔ d.ListsAlive card := by
  obtain ⟨_, _, _, down⟩ := setAlive_eq changes clock
  have same : (d.setAlive key false clock).cards.get? card.identity
      = d.cards.get? card.identity := by
    rw [down]
    exact SortedMap.get?_insert_of_ne _ other.symm _
  simp only [ListsAlive, same]

/-- Removing cards that are not alive leaves those that are. -/
theorem listsAlive_removeDead (clock : Int64)
    : (d.removeDead clock).ListsAlive card ↔ d.ListsAlive card := by
  unfold removeDead
  split
  · rfl
  · constructor
    · rintro ⟨listed, found, address, alive⟩
      exact ⟨listed, (SortedMap.get?_filter_eq_some.mp found).1, address, alive⟩
    · rintro ⟨listed, found, address, alive⟩
      exact ⟨listed, SortedMap.get?_filter_eq_some.mpr ⟨found, alive⟩, address, alive⟩

theorem ListsAlive.peers_ne_nil (lists : d.ListsAlive card) : d.peers ≠ [] := by
  obtain ⟨listed, found, _⟩ := lists
  exact List.ne_nil_of_mem (List.mem_map_of_mem (SortedMap.mem_toList_iff.mpr found))

/-- A view that is made of some cards lists each address among them, as alive if all cards of that
address are.
-/
theorem listsAlive_ofCards {cards : List Card} (member : card ∈ cards)
    (alive : ∀ other ∈ cards, other.sameAddress card = true → other.alive = true) (clock : Int64)
    : (ofCards cards clock).ListsAlive card := by
  have key : card.identity ∈ (cards.map fun card => (card.identity, card)).map Prod.fst := by
    rw [List.map_map]
    exact List.mem_map_of_mem member
  obtain ⟨listed, found⟩ := SortedMap.exists_get?_ofList key
  obtain ⟨_, source, same⟩ := List.mem_map.mp (SortedMap.mem_of_get?_ofList found)
  obtain ⟨identity, rfl⟩ := Prod.mk.inj same
  have address := Card.sameAddress_of_identity_eq identity
  exact ⟨_, found, address, alive _ source address⟩

end Digest

-----------------------------------------------------------------------------------------
-- Operations
-----------------------------------------------------------------------------------------

namespace Case

/-- A node as it is started with a card of its own that is alive, also among the seeds, and as it is
known from outside.
-/
inductive Started (own : Card) : Case → Prop
  | fresh {id : String} {seeds : List Card} {clock : Int64}
    (alive : ∀ card ∈ own :: seeds, card.sameAddress own = true → card.alive = true)
    : Started own (start id own seeds clock)
  | known {c : Case} (started : Started own c) (ip : String) : Started own (c.withExternalIp ip)

/-- What a node becomes by taking a view that lists its own card as alive, or one that does not.
-/
inductive Relisted (listed : Prop) (c : Case) : Case → Prop
  | withDigest {d : Digest} (lists : d.ListsAlive c.state.own ↔ listed)
    : Relisted listed c (c.withDigest d)

variable {listed : Prop} {c between after : Case} {own peer : Card}

theorem Started.spec (started : Started own c)
    : c.state.own = own ∧ c.digest.ListsAlive c.state.own := by
  induction started with
  | @fresh id seeds clock alive =>
      refine ⟨rfl, Digest.listsAlive_ofCards List.mem_cons_self ?_ clock⟩
      intro card member address
      rcases List.mem_cons.mp member with rfl | seed
      · exact alive card List.mem_cons_self address
      · obtain ⟨source, known, rfl⟩ := List.mem_map.mp seed
        exact alive source (List.mem_cons_of_mem _ known) address
  | known _ _ ih => exact ih

theorem identity_ne_of_not_isLocal (other : c.isLocal peer = false)
    : peer.identity ≠ c.state.own.identity := by
  intro same
  have address := Card.sameAddress_of_identity_eq same.symm
  simp [isLocal, Card.sameAs, address] at other

/-- The peers of a catchup are others. -/
theorem isLocal_of_mem_contacts {fanout round : UInt64} (member : peer ∈ c.contacts fanout round)
    : c.isLocal peer = false := by
  have eligible : peer ∈ c.eligible := by
    have rotated := List.mem_of_mem_take member
    simp only [List.rotateLeft] at rotated
    split at rotated
    · exact rotated
    · rcases List.mem_append.mp rotated with behind | before
      · exact List.mem_of_mem_drop behind
      · exact List.mem_of_mem_take before
  have both : peer.alive = true ∧ c.isLocal peer = false := by
    simpa using (List.mem_filter.mp eligible).2
  exact both.2

namespace Relisted

theorem refl (lists : c.digest.ListsAlive c.state.own ↔ listed) : Relisted listed c c :=
  .withDigest lists

theorem own_eq (relisted : Relisted listed c after) : after.state.own = c.state.own := by
  cases relisted with
  | withDigest _ => rfl

theorem lists (relisted : Relisted listed c after)
    : after.digest.ListsAlive after.state.own ↔ listed := by
  cases relisted with
  | withDigest lists => exact lists

/-- Who the node is does not depend on its view. -/
theorem isLocal_eq (relisted : Relisted listed c after) (card : Card)
    : after.isLocal card = c.isLocal card := by
  cases relisted with
  | withDigest _ => rfl

theorem trans (first : Relisted listed c between) (second : Relisted listed between after)
    : Relisted listed c after := by
  cases first with
  | withDigest _ =>
      cases second with
      | withDigest lists => exact .withDigest lists

/-- A peer that is marked down is another node. -/
theorem markDown (lists : c.digest.ListsAlive c.state.own ↔ listed) (other : c.isLocal peer = false)
    (clock : Int64) (disk : Disk)
    : Relisted listed c (c.markDown peer.identity clock disk).2.1 := by
  have same : (c.markDown peer.identity clock disk).2.1 = _ :=
    c.edit_case clock disk (.markDown peer.identity)
  rw [same]
  refine .withDigest (Iff.trans ?_ lists)
  cases changes : c.digest.changesAlive peer.identity false with
  | true =>
      simpa [Edit.view?, changes]
        using Digest.listsAlive_setAlive (identity_ne_of_not_isLocal other) changes clock
  | false => simp [Edit.view?, changes]

/-- Whoever is reaped is not alive. -/
theorem clean (lists : c.digest.ListsAlive c.state.own ↔ listed) (clock : Int64) (disk : Disk)
    : Relisted listed c (c.clean clock disk).2.1 := by
  have same : (c.clean clock disk).2.1 = _ := c.edit_case clock disk .clean
  rw [same]
  refine .withDigest (Iff.trans ?_ lists)
  cases noOne : c.digest.dead.isEmpty with
  | true => simp [Edit.view?, noOne]
  | false => simpa [Edit.view?, noOne] using Digest.listsAlive_removeDead clock

theorem exchange {m : Message} (lists : c.digest.ListsAlive c.state.own ↔ listed)
    (adopted : c.adopts m = true → (m.digest.ListsAlive c.state.own ↔ listed)) (disk : Disk)
    : Relisted listed c (c.exchange m disk).2.1 := by
  rw [exchange_case]
  split
  · next adopts => exact .withDigest (adopted adopts)
  · exact .refl lists

end Relisted

end Case

-----------------------------------------------------------------------------------------
-- Catchups
-----------------------------------------------------------------------------------------

namespace Site

variable {σ : Type} {t : Transport σ} {knobs : Knobs} {clock : Int64} {peer : Card} {s : Site σ}
  {listed : Prop} {own : Card}

/-- A round takes over a view: a reply brings it, it is newer, and the node ends the round with it.
-/
inductive Takes (t : Transport σ) (knobs : Knobs) (peer : Card) (s : Site σ) : Digest → Prop
  | taken {reply : Message} (came : Replied t knobs peer s reply)
    (newer : s.case.digest.timestamp < reply.digest.timestamp)
    (kept : (s.gossipWith t knobs peer).2.case = s.case.withDigest reply.digest)
    : Takes t knobs peer s reply.digest

theorem relisted_gossipWith (lists : s.case.digest.ListsAlive s.case.state.own ↔ listed)
    (taken : ∀ d, s.Takes t knobs peer d → (d.ListsAlive s.case.state.own ↔ listed))
    : s.case.Relisted listed (s.gossipWith t knobs peer).2.case := by
  rcases case_gossipWith t knobs peer s with same | ⟨reply, came, newer, kept⟩
  · rw [same]
    exact .refl lists
  · rw [kept]
    exact .withDigest (taken _ (.taken came newer kept))

theorem relisted_contact (lists : s.case.digest.ListsAlive s.case.state.own ↔ listed)
    (other : s.case.isLocal peer = false)
    (taken : ∀ d, s.Takes t knobs peer d → (d.ListsAlive s.case.state.own ↔ listed))
    (report : CatchupReport)
    : s.case.Relisted listed (s.contact t knobs clock report peer).2.case := by
  have round := relisted_gossipWith lists taken
  unfold contact
  rcases gossiped : s.gossipWith t knobs peer with ⟨e | _ | _, next⟩
  · rw [gossiped] at round
    by_cases unreachable : e.isConnection = true
    · have still : next.case.isLocal peer = false := (round.isLocal_eq peer).trans other
      have marked : s.case.Relisted listed (next.markDown peer.identity clock).2.case :=
        round.trans (.markDown round.lists still clock next.disk)
      simp only [unreachable, if_true]
      rcases down : next.markDown peer.identity clock with ⟨_ | _, last⟩ <;>
        (rw [down] at marked; exact marked)
    · simpa [unreachable] using round
  · simpa [gossiped] using round
  · simpa [gossiped] using round

/-- Rounds with others do to the own card what the views do that they take over, by induction on
the peers.
-/
theorem relisted_contactEach {peers : List Card} (self : s.case.state.own = own)
    (lists : s.case.digest.ListsAlive own ↔ listed)
    (others : ∀ peer ∈ peers, s.case.isLocal peer = false)
    (taken : ∀ entry ∈ s.begun t knobs clock peers, ∀ d,
      entry.2.Takes t knobs entry.1 d → (d.ListsAlive own ↔ listed))
    (report : CatchupReport)
    : s.case.Relisted listed (s.contactEach t knobs clock peers report).2.case := by
  induction peers generalizing s report with
  | nil =>
      subst self
      exact .refl lists
  | cons peer rest ih =>
      subst self
      obtain ⟨other, later⟩ := List.forall_mem_cons.mp others
      obtain ⟨first, remaining⟩ := List.forall_mem_cons.mp taken
      have round : s.case.Relisted listed (s.contact t knobs clock .empty peer).2.case :=
        relisted_contact lists other first .empty
      obtain ⟨next, _⟩ := contact_spec t knobs clock report peer s
      simp only [contactEach, next]
      refine round.trans (ih round.own_eq (round.own_eq ▸ round.lists) ?_ remaining _)
      intro card member
      exact (round.isLocal_eq card).trans (later card member)

end Site

-----------------------------------------------------------------------------------------
-- Nodes
-----------------------------------------------------------------------------------------

namespace Host

variable {σ : Type} {t : Transport σ} {listed : Prop} {own : Card} {h next first now : Host σ}

/-- The rounds of a catchup, each peer with the node as the round finds it. -/
def rounds (t : Transport σ) (clock : Int64) (h : Host σ) : List (Card × Site σ) :=
  let site : Site σ := ⟨h.node.case, h.disk, h.network, 0⟩
  site.begun t h.node.knobs clock (h.node.case.contacts h.node.knobs.fanout h.node.round)

/-- What happens to a node that changes its view only by gossip and reaping, where all views that it
takes over have some property. It has a catchup, handles a message, or reaps. A catchup during which
it handles other messages is one message after another, and at the end of a failed round another
node is marked down. In between, its scheduler, the disk and the network do whatever they do.
-/
inductive Turn (t : Transport σ) (brought : Digest → Prop) : Host σ → Host σ → Prop
  | caughtUp {h : Host σ} {clock : Int64}
    (taken : ∀ entry ∈ h.rounds t clock, ∀ d,
      entry.2.Takes t h.node.knobs entry.1 d → brought d)
    : Turn t brought h (h.catchup t clock).2.2
  | handled {h : Host σ} {m : Message} (adopted : h.node.case.adopts m = true → brought m.digest)
    : Turn t brought h (h.onCase fun case disk => case.exchange m disk).2
  | unreached {h : Host σ} {peer : Card} {clock : Int64} (other : h.node.case.isLocal peer = false)
    : Turn t brought h (h.onCase fun case disk => case.markDown peer.identity clock disk).2
  | cleaned {h : Host σ} {clock : Int64} : Turn t brought h (h.clean clock).2
  | elsewhere {h : Host σ} {scheduler : Scheduler} {disk : Disk} {network : σ}
    : Turn t brought h ⟨{ h.node with scheduler }, disk, network⟩

theorem relisted_catchup {clock : Int64} (self : h.node.case.state.own = own)
    (lists : h.node.case.digest.ListsAlive own ↔ listed)
    (taken : ∀ entry ∈ h.rounds t clock, ∀ d,
      entry.2.Takes t h.node.knobs entry.1 d → (d.ListsAlive own ↔ listed))
    : h.node.case.Relisted listed (h.catchup t clock).2.2.node.case := by
  let site : Site σ := ⟨h.node.case, h.disk, h.network, 0⟩
  obtain ⟨_, caught⟩ := Site.catchup_eq t h.node.knobs clock h.node.round site
  have after : (h.catchup t clock).2.2.node.case
      = (site.catchup t h.node.knobs clock h.node.round).2.2.case :=
    rfl
  rw [after, caught]
  exact Site.relisted_contactEach (s := site) self lists
    (fun peer member => Case.isLocal_of_mem_contacts member) taken .empty

theorem Turn.relisted (turn : Turn t (fun d => d.ListsAlive own ↔ listed) h next)
    (self : h.node.case.state.own = own) (lists : h.node.case.digest.ListsAlive own ↔ listed)
    : h.node.case.Relisted listed next.node.case := by
  subst self
  cases turn with
  | caughtUp taken => exact relisted_catchup rfl lists taken
  | handled adopted => exact .exchange lists adopted h.disk
  | unreached other => exact .markDown lists other _ h.disk
  | cleaned => exact .clean lists _ h.disk
  | elsewhere => exact .refl lists

open Relation in
/-- Nothing but taking over a view changes whether a node lists itself as alive: neither does it
lose itself otherwise, nor does it come back, by induction on what happens.
-/
theorem relisted_of_run (self : first.node.case.state.own = own)
    (lists : first.node.case.digest.ListsAlive own ↔ listed)
    (run : ReflTransGen (Turn t fun d => d.ListsAlive own ↔ listed) first now)
    : first.node.case.Relisted listed now.node.case := by
  subst self
  induction run with
  | refl => exact .refl lists
  | tail _ turn ih => exact ih.trans (turn.relisted ih.own_eq (ih.own_eq ▸ ih.lists))

theorem distribute_ne_noPeers (lists : h.node.case.digest.ListsAlive own) (t : Transport σ)
    (tasks : Batch)
    : (h.distribute t tasks).1 ≠ .error .noPeers := by
  have someone : h.node.case.peers.isEmpty = false :=
    List.isEmpty_eq_false_iff.mpr lists.peers_ne_nil
  simp [distribute, Executor.distribute, someone]

open Relation in
/-- A node never drops itself of its own accord. Whatever catchups it has, whichever peers answer
and whichever do not, whatever messages it handles and whenever it reaps: as long as all views that
it takes over list it as alive, it lists itself as alive, and no batch fails for want of peers. Nor
does it put itself back: once it does not list itself as alive, it does so only after it has taken
over a view that does.
-/
theorem own_card_follows_adopted_views (started : first.node.case.Started own)
    : (∀ now, ReflTransGen (Turn t fun d => d.ListsAlive own) first now
        → now.node.case.state.own = own
          ∧ now.node.case.digest.ListsAlive own
          ∧ ∀ tasks, (now.distribute t tasks).1 ≠ .error .noPeers)
      ∧ ∀ lost now : Host σ, lost.node.case.state.own = own
        → ¬lost.node.case.digest.ListsAlive own
        → ReflTransGen (Turn t fun d => ¬d.ListsAlive own) lost now
        → ¬now.node.case.digest.ListsAlive own := by
  obtain ⟨self, lists⟩ := started.spec
  rw [self] at lists
  refine ⟨?_, ?_⟩
  · intro now run
    have relisted : first.node.case.Relisted True now.node.case :=
      relisted_of_run self (iff_true_intro lists) (by simpa only [iff_true] using run)
    have same := relisted.own_eq.trans self
    have still : now.node.case.digest.ListsAlive own := of_iff_true (same ▸ relisted.lists)
    exact ⟨same, still, distribute_ne_noPeers still t⟩
  · intro lost now self unlisted run
    have relisted : lost.node.case.Relisted False now.node.case :=
      relisted_of_run self (iff_false_intro unlisted) (by simpa only [iff_false] using run)
    have same := relisted.own_eq.trans self
    exact not_of_iff_false (same ▸ relisted.lists)

-----------------------------------------------------------------------------------------
-- Two nodes
-----------------------------------------------------------------------------------------

/-- A node on a port of this host that has listed some ports at some second. One worker runs its
tasks, and it contacts one peer at a time.
-/
def member (port : UInt16) (ports : List UInt16) (clock : Int64) : Node where
  case := Case.desk "office" port ports clock
  scheduler := (Scheduler.create .empty Scheduler.defaultExpire).attach.changeWorker 1 Worker.launch
  knobs := ⟨1, .ofMillis 1000, .ofMillis 1000, .ofMillis 1000⟩
  round := 0

/-- A process of two nodes. -/
def pair (a b : Node) : Loopback := ((⟨[a, b], ∅⟩ : Loopback).register 0).register 1

/-- The node that is reached under an identity is switched on or off. -/
def switch (identity : String) (on : Bool) (h : Host Loopback) : Host Loopback :=
  { h with network := h.network.setReachable identity on }

/-- The second of two nodes, which lists the first one. The first one has the newer view and lists
some nodes.
-/
def besidePeer (ports : List UInt16) : Host Loopback :=
  let own := member 2 [1] 1700000000
  ⟨own, .empty, pair (member 1 ports 1700000005) own⟩

theorem started_besidePeer (ports : List UInt16)
    : (besidePeer ports).node.case.Started (Card.ofAddress "127.0.0.1" 2) := by
  refine .fresh ?_
  intro card member _
  rcases List.mem_cons.mp member with rfl | seed
  · rfl
  · rw [List.mem_singleton.mp seed]
    rfl

/-- What a round takes over is what the node has behind it. -/
theorem taken_of_rounds {clock : Int64} {p : Digest → Prop}
    (ended : ∀ entry ∈ h.rounds t clock,
      p (entry.2.gossipWith t h.node.knobs entry.1).2.case.digest)
    : ∀ entry ∈ h.rounds t clock, ∀ d, entry.2.Takes t h.node.knobs entry.1 d → p d := by
  intro entry member d takes
  have behind := ended entry member
  cases takes with
  | taken _ _ kept =>
      rw [kept] at behind
      exact behind

open Relation in
/-- A node that takes over a view that lists it, and then loses and reaps its peer, is left with
itself.
-/
theorem own_card_outlasts_peer
    : let own := Card.ofAddress "127.0.0.1" 2
      let caught := ((besidePeer [2]).catchup Loopback.transport 1700000005).2.2
      let missed := ((caught.switch "127.0.0.1:1" false).catchup Loopback.transport 1700000006).2.2
      let alone := (missed.clean 1700000007).2
      (besidePeer [2]).node.case.Started own
      ∧ ReflTransGen (Turn Loopback.transport fun d => d.ListsAlive own) (besidePeer [2]) alone
      ∧ alone.node.case.peers = [own.asSeed]
      ∧ ∀ tasks, (alone.distribute Loopback.transport tasks).1 ≠ .error .noPeers := by
  intro own caught missed alone
  have started : (besidePeer [2]).node.case.Started own := started_besidePeer [2]
  let Next := Turn Loopback.transport fun d => d.ListsAlive own
  have met : Next (besidePeer [2]) caught := .caughtUp (taken_of_rounds (by decide))
  have cut : Next caught (caught.switch "127.0.0.1:1" false) := .elsewhere
  have lost : Next (caught.switch "127.0.0.1:1" false) missed :=
    .caughtUp (taken_of_rounds (by decide))
  have reaped : Next missed alone := .cleaned
  have run : ReflTransGen Next (besidePeer [2]) alone :=
    (((ReflTransGen.single met).tail cut).tail lost).tail reaped
  obtain ⟨_, _, served⟩ := (own_card_follows_adopted_views started).1 alone run
  exact ⟨started, run, by decide, served⟩

/-- A node takes over the view of a peer that does not list it, and is gone from its own view; when
it has lost and reaped the peer, it has no peers left. Another one cannot be reached for a moment;
it takes over the view in which it has been marked down, and reaps itself. So does one that starts
with a card of its own that is not alive.
-/
theorem own_card_lost_to_peer
    : let caught := ((besidePeer []).catchup Loopback.transport 1700000005).2.2
      let missed := ((caught.switch "127.0.0.1:1" false).catchup Loopback.transport 1700000006).2.2
      let alone := (missed.clean 1700000007).2
      let first := member 1 [2] 1700000000
      let second := member 2 [1] 1700000000
      let cut : Host Loopback := ⟨first, .empty, pair first second⟩
      let marked :=
        ((cut.switch "127.0.0.1:2" false).catchup Loopback.transport 1700000005).2.2.node
      let back : Host Loopback := ⟨second, .empty, pair marked second⟩
      let told := (back.catchup Loopback.transport 1700000005).2.2
      let faint := Case.start "office" { Card.ofAddress "127.0.0.1" 2 with alive := false } []
      let reaped := ((faint 1700000000).clean 1700000000 .empty).2.1
      caught.node.case.digest.cards.get? "127.0.0.1:2" = none
      ∧ (∀ tasks, (alone.distribute Loopback.transport tasks).1 = .error .noPeers)
      ∧ told.node.case.digest.changesAlive "127.0.0.1:2" true = true
      ∧ (told.clean 1700000006).2.node.case.digest.cards.get? "127.0.0.1:2" = none
      ∧ reaped.peers = [] := by
  exact ⟨by decide, fun _ => rfl, by decide, by decide, by decide⟩

end Host

end TaskFabric
