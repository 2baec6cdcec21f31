import TaskFabric.Proofs.Gossip.Unreached
import TaskFabric.Script

/-! What a catchup and the cleaning behind it come to in a view that lists cards under their
identities, if no reply brings a newer view: exactly the peers that were not reached are marked
down, and exactly those that are not alive are removed.
-/

namespace TaskFabric

-----------------------------------------------------------------------------------------
-- Marking down listed cards
-----------------------------------------------------------------------------------------

namespace Digest

variable {d : Digest} {cards : List Card}

/-- Identities lead to no other cards than their own. -/
theorem Keyed.mem_identities_iff (keyed : d.Keyed) (listed : ∀ card ∈ cards, card ∈ d.peers)
    {key : String} {card : Card} (found : d.cards.get? key = some card)
    : key ∈ cards.map Card.identity ↔ card ∈ cards := by
  constructor
  · intro member
    obtain ⟨other, among, rfl⟩ := List.mem_map.mp member
    have same : some other = some card :=
      (keyed.get?_identity (listed other among)).symm.trans found
    exact Option.some.inj same ▸ among
  · intro member
    exact keyed key card found ▸ List.mem_map_of_mem member

/-- To mark down listed cards changes these cards. -/
theorem Keyed.cards_markAllDown (keyed : d.Keyed) (listed : ∀ card ∈ cards, card ∈ d.peers)
    (clock : Int64)
    : (d.markAllDown (cards.map Card.identity) clock).cards
      = d.cards.map fun _ card => if card ∈ cards then card.asDown else card := by
  rw [Digest.cards_markAllDown]
  refine SortedMap.map_congr ?_
  intro key card found
  simp only [keyed.mem_identities_iff listed found]

/-- To mark down cards that are alive moves the second to the clock, unless there are none. -/
theorem Keyed.timestamp_markAllDown (keyed : d.Keyed) (listed : ∀ card ∈ cards, card ∈ d.peers)
    (alive : ∀ card ∈ cards, card.alive = true) (clock : Int64)
    : (d.markAllDown (cards.map Card.identity) clock).timestamp
      = if cards = [] then d.timestamp else max (epochSecs clock) d.timestamp := by
  rw [Digest.timestamp_markAllDown]
  cases cards with
  | nil => rfl
  | cons card rest =>
      have first := List.mem_cons_self (a := card) (l := rest)
      have changes : d.changesAlive card.identity false = true := by
        simp [changesAlive_eq, keyed.get?_identity (listed card first), alive card first]
      simp [changes]

/-- To mark down cards that are alive changes what is found under as many keys. -/
theorem Keyed.countP_markAllDown (keyed : d.Keyed) (listed : ∀ card ∈ cards, card ∈ d.peers)
    (alive : ∀ card ∈ cards, card.alive = true) (distinct : (cards.map Card.identity).Nodup)
    (clock : Int64)
    : (d.cards.keys.countP fun key =>
        decide ((d.markAllDown (cards.map Card.identity) clock).cards.get? key ≠ d.cards.get? key))
      = cards.length := by
  have changed (key : String)
      : (d.markAllDown (cards.map Card.identity) clock).cards.get? key ≠ d.cards.get? key
        ↔ key ∈ cards.map Card.identity := by
    rw [Digest.cards_markAllDown, SortedMap.get?_map]
    constructor
    · intro different
      by_contra absent
      simp [absent] at different
    · intro member
      obtain ⟨card, among, rfl⟩ := List.mem_map.mp member
      have down : card.asDown ≠ card := by
        intro same
        have still := alive card among
        rw [← same] at still
        cases still
      simpa [keyed.get?_identity (listed card among), member] using down
  have keys : (d.cards.keys.filter fun key =>
      decide ((d.markAllDown (cards.map Card.identity) clock).cards.get? key
        ≠ d.cards.get? key)).Perm (cards.map Card.identity) := by
    refine (List.perm_ext_iff_of_nodup (d.cards.keys_nodup.filter _) distinct).mpr ?_
    intro key
    rw [List.mem_filter, decide_eq_true_iff, changed, and_iff_right_iff_imp]
    intro member
    obtain ⟨card, among, rfl⟩ := List.mem_map.mp member
    exact SortedMap.mem_keys_iff.mpr ⟨card, keyed.get?_identity (listed card among)⟩
  rw [List.countP_eq_length_filter, keys.length_eq, List.length_map]

end Digest

-----------------------------------------------------------------------------------------
-- Catchups and cleaning
-----------------------------------------------------------------------------------------

namespace Site

variable {σ : Type} {t : Transport σ} {knobs : Knobs} {clock : Int64} {round : UInt64}
  {s : Site σ}

/-- Those whom a catchup does not reach are alive, listed, and not the node itself. -/
theorem eligible_of_missed {peer : Card}
    (member : peer ∈ missed t knobs (s.begun t knobs clock (s.contacted t knobs clock round)))
    : peer ∈ s.case.eligible := by
  have contacted : peer ∈ s.contacted t knobs clock round := by
    rw [← map_fst_begun t knobs clock (s.contacted t knobs clock round) s]
    exact (List.filter_sublist.map Prod.fst).subset member
  rw [(contacted_spec t knobs clock round s).1] at contacted
  exact (Case.contacts_subperm s.case knobs.fanout round).subset contacted

/-- Among different peers a peer is missed exactly if its own round does not reach it. -/
theorem mem_missed_iff {rounds : List (Card × Site σ)} (distinct : (rounds.map Prod.fst).Nodup)
    {entry : Card × Site σ} (member : entry ∈ rounds)
    : entry.1 ∈ missed t knobs rounds ↔ Unreached t knobs entry.1 entry.2 := by
  rw [← misses_iff]
  constructor
  · intro missed
    obtain ⟨other, among, same⟩ := List.mem_map.mp missed
    obtain ⟨begun, misses⟩ := List.mem_filter.mp among
    exact List.inj_on_of_nodup_map distinct begun member same ▸ misses
  · intro misses
    exact List.mem_map_of_mem (List.mem_filter.mpr ⟨member, misses⟩)

/-- A catchup that takes no view over, in a view that lists cards under their identities, contacts
as many of the peers that are alive as the fan-out allows, no address twice. Behind it exactly those
of them are no longer alive whom their round did not reach, with its first message or with its third
one; those that answered are as they were, and so is the node itself. The second moves to the clock,
but not back, if anyone has been marked down. The report counts the cards that have changed, the
rounds that failed otherwise, and all of them. Cleaning then removes those that are not alive,
returns them in the order of their keys and leaves the others as they are; to clean again does
nothing.
-/
theorem catchup_and_clean_reap_the_unreached (keyed : s.case.digest.Keyed)
    (undisturbed : Undisturbed t knobs clock
      (s.begun t knobs clock (s.contacted t knobs clock round)))
    : let contacted := s.contacted t knobs clock round
      let rounds := s.begun t knobs clock contacted
      let missed := missed t knobs rounds
      let report := (s.catchup t knobs clock round).1
      let after := (s.catchup t knobs clock round).2.2
      let cards := s.case.digest.cards.map fun _ card => if card ∈ missed then card.asDown else card
      let second := s.case.digest.timestamp
      (contacted.length = min knobs.fanout.toNat s.case.eligible.length
        ∧ contacted.Subperm s.case.eligible
        ∧ contacted.Pairwise fun a b => a.sameAddress b = false)
      ∧ (∀ entry ∈ rounds, entry.1 ∈ missed ↔ Unreached t knobs entry.1 entry.2)
      ∧ after.case
        = s.case.withDigest ⟨cards, if missed = [] then second else max (epochSecs clock) second⟩
      ∧ (∀ card ∈ s.case.peers, s.case.isLocal card = true → card ∈ after.case.peers)
      ∧ (report.contacted = contacted.length
        ∧ report.contacted
          = report.markedDown + report.failed
            + rounds.countP fun entry => entry.2.completes t knobs entry.1)
      ∧ report.markedDown
        = (s.case.digest.cards.keys.countP fun key =>
            decide (after.case.digest.cards.get? key ≠ s.case.digest.cards.get? key))
      ∧ ∀ later, after.case.Writes later after.disk .clean →
          let cleaned := (after.clean later).2
          (after.clean later).1 = .ok (after.case.peers.filter fun card => !card.alive)
          ∧ cleaned.case = after.case.withDigest cleaned.case.digest
          ∧ cleaned.case.digest.cards = after.case.digest.cards.filter (fun _ card => card.alive)
          ∧ ∀ again, cleaned.clean again = (.ok [], cleaned) := by
  intro contacted rounds missed report after cards second
  have same : contacted = s.case.contacts knobs.fanout round := (contacted_spec _ _ _ _ _).1
  have peers : rounds.map Prod.fst = contacted := map_fst_begun t knobs clock contacted s
  have apart : contacted.Pairwise fun a b => a.sameAddress b = false :=
    same ▸ Case.contacts_apart (Case.eligible_apart keyed) knobs.fanout round
  have distinct := Card.nodup_identities apart
  have part : missed.Sublist contacted := peers ▸ List.filter_sublist.map Prod.fst
  have able (card : Card) (member : card ∈ missed)
      : card ∈ s.case.peers ∧ card.alive = true ∧ s.case.isLocal card = false := by
    simpa [Case.eligible] using eligible_of_missed member
  have listed (card : Card) (member : card ∈ missed) := (able card member).1
  have alive (card : Card) (member : card ∈ missed) := (able card member).2.1
  obtain ⟨counted, marked⟩ : report = _ ∧ after.case = _ := catchup_of_undisturbed undisturbed
  have left : after.case.digest.cards = cards :=
    (congrArg (fun c => c.digest.cards) marked).trans (keyed.cards_markAllDown listed clock)
  refine ⟨⟨?_, ?_, apart⟩, ?_, ?_, ?_, ⟨?_, ?_⟩, ?_, ?_⟩
  · rw [same, Case.length_contacts]
  · rw [same]
    exact Case.contacts_subperm s.case knobs.fanout round
  · intro entry member
    exact mem_missed_iff (peers ▸ List.Nodup.of_map _ distinct) member
  · rw [marked]
    refine congrArg s.case.withDigest ?_
    exact congrArg₂ Digest.mk (keyed.cards_markAllDown listed clock)
      (keyed.timestamp_markAllDown listed alive clock)
  · intro card member itself
    have other : card ∉ missed := by
      intro unreached
      simp [(able card unreached).2.2] at itself
    have found := keyed.get?_identity member
    have still : cards.get? card.identity = some card := by simp [cards, found, other]
    rw [Case.peers, Digest.peers, left]
    exact List.mem_map_of_mem (SortedMap.mem_toList_iff.mpr still)
  · rw [counted]
  · have size : contacted.length = rounds.length := by rw [← peers, List.length_map]
    rw [counted]
    exact size.trans (length_rounds t knobs rounds)
  · rw [counted, marked]
    refine (keyed.countP_markAllDown listed alive ?_ clock).symm
    exact (part.map Card.identity).nodup distinct
  · intro later writes
    obtain ⟨returned, kept, again⟩ := clean_spec writes
    refine ⟨returned, ?_, ?_, again⟩
    · rw [kept, Case.digest_withDigest]
    · rw [kept, Case.digest_withDigest, Digest.cards_removeDead]

/-- A node that contacts four of its five peers. The first call fails, the second peer has nothing
to say, the third one has a round that comes to its end, and the fourth one does not answer in time
to the third message of its round.
-/
def amongFive : Site Script where
  case := .desk "office" 1 [2, 3, 4, 5, 6] 1700000000
  disk := .empty
  network :=
    ⟨[.failure (.connection "gone"), .reply none, .reply (some (reply 5)), .reply none,
        .reply (some (reply 5)), .silence],
      ∅, []⟩
  waited := 0

/-- The first and the fourth peer are marked down and removed. -/
theorem two_of_five_are_reaped
    : let knobs : Knobs := ⟨4, .ofMillis 1000, .ofMillis 1000, .ofMillis 1000⟩
      let after := (amongFive.catchup Script.transport knobs 1700000001 0).2.2
      (amongFive.catchup Script.transport knobs 1700000001 0).1 = ⟨4, 0, 2, 1⟩
      ∧ ∃ removed,
          (after.clean 1700000002).1 = .ok removed
          ∧ removed.map Card.identity = ["127.0.0.1:2", "127.0.0.1:5"] := by
  intro knobs after
  have keyed : amongFive.case.digest.Keyed := Digest.keyed_ofCards _ _
  have undisturbed : Undisturbed Script.transport knobs 1700000001
      (amongFive.begun Script.transport knobs 1700000001
        (amongFive.contacted Script.transport knobs 1700000001 0)) := by
    rw [(contacted_spec _ _ _ _ _).1]
    exact .of_no_file (by decide)
  obtain ⟨_, _, _, _, _, _, reaped⟩ := catchup_and_clean_reap_the_unreached keyed undisturbed
  obtain ⟨removed, _⟩ := reaped 1700000002 (.of_no_file (by decide))
  exact ⟨by decide, _, removed, by decide⟩

end Site

end TaskFabric
