import TaskFabric.Proofs.Gossip.Unreached
import TaskFabric.Proofs.Json.WireDocuments
import TaskFabric.Proofs.Persistence.Restart
import TaskFabric.Script

/-! Peers that are listed under other keys than their identities. A peer that is not reached is
looked up under its identity; a case file or a message can list it elsewhere, and there it stays
alive.
-/

namespace TaskFabric

namespace Site

variable {σ : Type} {t : Transport σ} {knobs : Knobs} {clock : Int64} {round : UInt64}
  {s : Site σ}

/-- Whatever a view lists as alive at the address of a peer stands under the identity of a peer that
one of some rounds does not reach.
-/
def InPlace (t : Transport σ) (knobs : Knobs) (rounds : List (Card × Site σ)) (peer : Card)
    (d : Digest)
    : Prop :=
  ∀ key card, d.cards.get? key = some card → card.alive = true → card.sameAddress peer = true
    → ∃ entry ∈ rounds, Unreached t knobs entry.1 entry.2 ∧ entry.1.identity = key

theorem mem_identities_missed_iff {rounds : List (Card × Site σ)} {key : String}
    : key ∈ (missed t knobs rounds).map Card.identity
      ↔ ∃ entry ∈ rounds, Unreached t knobs entry.1 entry.2 ∧ entry.1.identity = key := by
  simp only [missed, List.map_map, List.mem_map, List.mem_filter, misses_iff, and_assoc,
    Function.comp_apply]

/-- A view that lists cards under their identities lists those of an unreached peer in their place.
-/
theorem InPlace.of_keyed {rounds : List (Card × Site σ)} {d : Digest} (keyed : d.Keyed)
    {entry : Card × Site σ} (member : entry ∈ rounds)
    (unreached : Unreached t knobs entry.1 entry.2)
    : InPlace t knobs rounds entry.1 d := by
  intro key card found _ address
  exact ⟨entry, member, unreached,
    (Card.identity_eq_of_sameAddress address).symm.trans (keyed key card found)⟩

/-- The cards of a peer are all down behind the marks exactly if they were in their place. -/
theorem down_iff_inPlace {rounds : List (Card × Site σ)} (peer : Card) (d : Digest)
    : (∀ card ∈ (d.markAllDown ((missed t knobs rounds).map Card.identity) clock).peers,
        card.sameAddress peer = true → card.alive = false)
      ↔ InPlace t knobs rounds peer d := by
  simp only [InPlace, ← mem_identities_missed_iff]
  generalize (missed t knobs rounds).map Card.identity = keys
  have found (key : String) : (d.markAllDown keys clock).cards.get? key
      = (d.cards.get? key).map fun card => if key ∈ keys then card.asDown else card := by
    rw [Digest.cards_markAllDown, SortedMap.get?_map]
  constructor
  · intro down key card listed alive address
    by_contra elsewhere
    have still : (d.markAllDown keys clock).cards.get? key = some card := by
      simp [found, listed, elsewhere]
    have dead := down card (List.mem_map_of_mem (SortedMap.mem_toList_iff.mpr still)) address
    rw [alive] at dead
    cases dead
  · intro inPlace card listed address
    obtain ⟨⟨key, _⟩, entry, rfl⟩ := List.mem_map.mp listed
    have here := SortedMap.mem_toList_iff.mp entry
    rw [found, Option.map_eq_some_iff] at here
    obtain ⟨old, before, marked⟩ := here
    by_cases known : key ∈ keys
    · rw [← marked, if_pos known]
      rfl
    · rw [if_neg known] at marked
      subst marked
      refine Bool.not_eq_true _ ▸ fun alive => known ?_
      exact inPlace key old before alive address

/-- Cleaning leaves no card of a peer exactly if all of them are down. -/
theorem gone_iff_down (peer : Card) (d : Digest)
    : (∀ card ∈ (d.removeDead clock).peers, card.sameAddress peer = false)
      ↔ ∀ card ∈ d.peers, card.sameAddress peer = true → card.alive = false := by
  have kept : (d.removeDead clock).peers = d.peers.filter Card.alive := by
    simp only [Digest.peers, Digest.cards_removeDead, SortedMap.values, SortedMap.filter,
      List.filter_map]
    rfl
  simp only [kept, List.mem_filter, and_imp]
  refine forall₂_congr fun card _ => ?_
  cases card.alive <;> cases card.sameAddress peer <;> simp

/-- Whatever view a node has: behind a catchup that takes no view over and can write its marks, a
peer that was not reached is no longer listed as alive, and cleaning removes it, exactly if all that
the view listed as alive at its address stood under the identity of an unreached peer. So it is if
the view lists cards under their identities. The report counts the peer as marked down in any case.
-/
theorem unreached_peer_is_down_iff_in_place
    (undisturbed : Undisturbed t knobs clock
      (s.begun t knobs clock (s.contacted t knobs clock round)))
    : let rounds := s.begun t knobs clock (s.contacted t knobs clock round)
      let after := (s.catchup t knobs clock round).2.2
      (s.catchup t knobs clock round).1.markedDown
        = (rounds.countP fun entry => entry.2.misses t knobs entry.1)
      ∧ ∀ entry ∈ rounds, Unreached t knobs entry.1 entry.2
        → ((∀ card ∈ after.case.peers, card.sameAddress entry.1 = true → card.alive = false)
            ↔ InPlace t knobs rounds entry.1 s.case.digest)
          ∧ (∀ later, after.case.Writes later after.disk .clean →
              (after.clean later).1 = .ok (after.case.peers.filter fun card => !card.alive)
              ∧ ((∀ card ∈ (after.clean later).2.case.peers, card.sameAddress entry.1 = false)
                  ↔ InPlace t knobs rounds entry.1 s.case.digest))
          ∧ (s.case.digest.Keyed → InPlace t knobs rounds entry.1 s.case.digest) := by
  intro rounds after
  obtain ⟨counted, marked⟩ := catchup_of_undisturbed undisturbed
  have down (peer : Card)
      : (∀ card ∈ after.case.peers, card.sameAddress peer = true → card.alive = false)
        ↔ InPlace t knobs rounds peer s.case.digest := by
    rw [show after.case = _ from marked]
    exact down_iff_inPlace peer s.case.digest
  refine ⟨?_, ?_⟩
  · rw [counted]
    exact length_missed t knobs rounds
  · intro entry member unreached
    refine ⟨down entry.1, ?_, fun keyed => .of_keyed keyed member unreached⟩
    intro later writes
    obtain ⟨returned, kept, _⟩ := clean_spec writes
    refine ⟨returned, ?_⟩
    rw [← down entry.1, kept]
    exact gone_iff_down entry.1 after.case.digest

/-- How many peers a catchup contacts, in the following cases. -/
def oneAtATime : Knobs := ⟨1, .ofMillis 1000, .ofMillis 1000, .ofMillis 1000⟩

/-- A node that reaches no one. -/
def cutOff (c : Case) : Site Script := ⟨c, .empty, ⟨[], ∅, []⟩, 0⟩

/-- A peer that is listed under its identity is marked down and removed. -/
theorem peer_in_place_is_removed
    : let s := cutOff (.desk "office" 1 [2] 1700000000)
      let peer := (Card.ofAddress "127.0.0.1" 2).asSeed
      let after := (s.catchup Script.transport oneAtATime 1700000001 0).2.2
      s.contacted Script.transport oneAtATime 1700000001 0 = [peer]
      ∧ (∀ card ∈ after.case.peers, card.sameAddress peer = true → card.alive = false)
      ∧ ∀ card ∈ (after.clean 1700000002).2.case.peers, card.sameAddress peer = false := by
  intro s peer after
  have keyed : s.case.digest.Keyed := Digest.keyed_ofCards _ _
  have contacted : s.contacted Script.transport oneAtATime 1700000001 0 = [peer] := by
    rw [(contacted_spec _ _ _ _ _).1]
    decide
  have undisturbed : Undisturbed Script.transport oneAtATime 1700000001
      (s.begun Script.transport oneAtATime 1700000001
        (s.contacted Script.transport oneAtATime 1700000001 0)) := by
    rw [contacted]
    exact .of_no_file (by decide)
  have member : (peer, s) ∈ s.begun Script.transport oneAtATime 1700000001
      (s.contacted Script.transport oneAtATime 1700000001 0) := by
    rw [contacted]
    exact List.mem_cons_self
  obtain ⟨_, each⟩ := unreached_peer_is_down_iff_in_place undisturbed
  obtain ⟨down, cleaned, inPlace⟩ := each (peer, s) member (.first rfl)
  obtain ⟨_, gone⟩ := cleaned 1700000002 (.of_no_file (by decide))
  exact ⟨contacted, down.mpr (inPlace keyed), gone.mpr (inPlace keyed)⟩

/-- A view that lists a peer under another name than its identity. -/
def nicknamed : Digest where
  cards :=
    .ofList
      [("127.0.0.1:1", Card.ofAddress "127.0.0.1" 1), ("nickname", Card.ofAddress "127.0.0.1" 2)]
  timestamp := 1800000000

/-- A message that brings this view. -/
def nicknaming : Message where
  cluster := "office"
  sender := .ofAddress "127.0.0.1" 2
  addressee := .ofAddress "127.0.0.1" 1
  digest := nicknamed
  status := .ok
  type := .sync

/-- A case with this view. -/
def nicknamedState : CaseState :=
  ⟨"office", nicknamed, .ofAddress "127.0.0.1" 1, .ofAddress "127.0.0.1" 1⟩

/-- A disk with the file of that case. -/
def nicknamedDisk : Disk := ⟨[(["case.json"], .file nicknamedState.fileText)], [], []⟩

/-- A peer under another name is contacted and not reached, and the report counts it as marked down,
but it stays as it is: it is listed as alive, and cleaning removes no one. Such a view comes from a
case file that can be read, and from a message that can be read and is for the node.
-/
theorem nicknamed_peer_stays_alive
    : let peer := Card.ofAddress "127.0.0.1" 2
      let loaded : Case := ⟨nicknamedState, some ⟨"case.json"⟩, none⟩
      let node := Case.desk "office" 1 [] 1700000000
      let adopted := (node.exchange nicknaming .empty).2.1
      Case.load ⟨"case.json"⟩ nicknamedDisk = .ok loaded
      ∧ Message.ofJson? nicknaming.toJson = some nicknaming
      ∧ node.validate nicknaming = .ok ()
      ∧ ∀ c ∈ [loaded, adopted],
          let caught := (cutOff c).catchup Script.transport oneAtATime 1800000001 0
          c.digest = nicknamed
          ∧ (cutOff c).contacted Script.transport oneAtATime 1800000001 0 = [peer]
          ∧ Undisturbed Script.transport oneAtATime 1800000001
              ((cutOff c).begun Script.transport oneAtATime 1800000001 [peer])
          ∧ Unreached Script.transport oneAtATime peer (cutOff c)
          ∧ caught.1 = ⟨1, 0, 1, 0⟩
          ∧ caught.2.2.case = c
          ∧ peer ∈ caught.2.2.case.peers
          ∧ peer.alive = true
          ∧ caught.2.2.clean 1800000002 = (.ok [], caught.2.2) := by
  intro peer loaded node adopted
  refine ⟨?_, Message.ofJson?_toJson nicknaming, rfl, ?_⟩
  · refine Case.load_of_read (Disk.read_eq_ok.mpr ⟨by decide, ["case.json"], ?_, rfl⟩)
    exact Case.locate_file nicknamedDisk rfl
  · refine List.forall_mem_cons.mpr ⟨?_, List.forall_mem_singleton.mpr ?_⟩
    all_goals
      refine ⟨by decide, ?_, ⟨?_, ?_⟩, .first rfl, by decide, by decide, by decide, rfl, ?_⟩
      · rw [(contacted_spec _ _ _ _ _).1]
        decide
      · intro entry member
        obtain rfl := List.mem_singleton.mp member
        exact untaken_of_same (by decide)
      · intro entry member _
        obtain rfl := List.mem_singleton.mp member
        exact .of_idle (by decide)
      · exact clean_of_nobody (by decide) 1800000002

end Site

end TaskFabric
