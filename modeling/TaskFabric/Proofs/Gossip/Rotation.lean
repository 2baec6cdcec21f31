import Mathlib.Data.List.Perm.Basic
import TaskFabric.Proofs.Gossip.Contacts
import TaskFabric.Script

/-! How the contacts of catchups move on. Each catchup that contacts anyone begins one place further
among the peers, so as many catchups as there are peers begin at each place once, and each peer has
its turn equally often.
-/

namespace TaskFabric

-----------------------------------------------------------------------------------------
-- Windows
-----------------------------------------------------------------------------------------

section Windows

variable {α : Type}

/-- What stands at one place in all rotations of a list is what stands in the list. -/
theorem map_get_rotate (l : List α) (first place : Nat) (inside : place < l.length)
    : ((List.range l.length).map fun i =>
        (l.rotate (first + i)).get ⟨place, by rwa [List.length_rotate]⟩)
      = l.rotate (first + place) := by
  refine List.ext_getElem (by simp) ?_
  intro i _ _
  simp only [List.get_eq_getElem, List.getElem_map, List.getElem_range, List.getElem_rotate]
  congr 2
  omega

/-- The first places of all rotations of a list hold each entry as often as there are such places,
by induction on their number.
-/
theorem count_windows_of_le [BEq α] [LawfulBEq α] {l : List α} {width : Nat}
    (inside : width ≤ l.length) (first : Nat) (a : α)
    : ((List.range l.length).flatMap fun i => (l.rotate (first + i)).take width).count a
      = width * l.count a := by
  induction width with
  | zero =>
      rw [Nat.zero_mul]
      exact List.count_eq_zero.mpr (by simp)
  | succ width ih =>
      have last (i : Nat) : width < (l.rotate (first + i)).length := by
        rw [List.length_rotate]
        exact inside
      have split (i : Nat) : (l.rotate (first + i)).take (width + 1)
          = (l.rotate (first + i)).take width ++ [(l.rotate (first + i)).get ⟨width, last i⟩] :=
        (List.take_append_getElem (last i)).symm
      have apart := List.flatMap_append_perm (List.range l.length)
        (fun i => (l.rotate (first + i)).take width)
        (fun i => [(l.rotate (first + i)).get ⟨width, last i⟩])
      -- The last of the places runs through the whole list once.
      simp only [split]
      rw [← apart.count_eq, List.count_append, ih (Nat.le_of_succ_le inside),
        ← List.map_eq_flatMap, map_get_rotate l first width inside,
        (List.rotate_perm l _).count_eq, Nat.succ_mul]

theorem count_windows [BEq α] [LawfulBEq α] (l : List α) (first width : Nat) (a : α)
    : ((List.range l.length).flatMap fun i => (l.rotate (first + i)).take width).count a
      = min width l.length * l.count a := by
  rw [← count_windows_of_le (Nat.min_le_right width l.length) first a]
  congr 2
  funext i
  rw [List.take_eq_take_min, List.length_rotate]

end Windows

-----------------------------------------------------------------------------------------
-- Peers that stay the same
-----------------------------------------------------------------------------------------

namespace Case

/-- The addresses of those that can be contacted, each under the key of its card. -/
def addresses (c : Case) : SortedMap String String :=
  (c.digest.cards.filter fun _ card => card.alive && !c.isLocal card).map fun _ card =>
    card.identity

/-- Two cases have the same peers to contact. They list the same addresses under the same keys; or
both list cards under their identities, and the addresses are the same.
-/
inductive SamePeers (c other : Case) : Prop
  | listed (same : c.addresses = other.addresses)
  | keyed (own : c.digest.Keyed) (others : other.digest.Keyed)
    (same : ∀ address,
      address ∈ c.eligible.map Card.identity ↔ address ∈ other.eligible.map Card.identity)

variable {c other : Case}

theorem values_addresses (c : Case) : c.addresses.values = c.eligible.map Card.identity := by
  simp only [addresses, SortedMap.values, SortedMap.map, SortedMap.filter, eligible, peers,
    Digest.peers, List.filter_map, List.map_map]
  rfl

theorem get?_addresses {key address : String} (keyed : c.digest.Keyed)
    : c.addresses.get? key = some address
      ↔ key = address ∧ address ∈ c.eligible.map Card.identity := by
  simp only [addresses, SortedMap.get?_map, Option.map_eq_some_iff, SortedMap.get?_filter_eq_some,
    eligible, List.mem_map, List.mem_filter]
  constructor
  · rintro ⟨card, ⟨found, able⟩, rfl⟩
    have listed : card ∈ c.peers := List.mem_map_of_mem (SortedMap.mem_toList_iff.mpr found)
    exact ⟨(keyed key card found).symm, card, ⟨listed, able⟩, rfl⟩
  · rintro ⟨rfl, card, ⟨listed, able⟩, rfl⟩
    exact ⟨card, ⟨keyed.get?_identity listed, able⟩, rfl⟩

/-- The same peers are listed in the same order. -/
theorem SamePeers.map_eligible (same : c.SamePeers other)
    : c.eligible.map Card.identity = other.eligible.map Card.identity := by
  rw [← values_addresses, ← values_addresses]
  cases same with
  | listed same => rw [same]
  | keyed own others same =>
      refine congrArg SortedMap.values (SortedMap.ext_get? fun key => Option.ext fun address => ?_)
      rw [get?_addresses own, get?_addresses others, same]

end Case

-----------------------------------------------------------------------------------------
-- Catchups in a row
-----------------------------------------------------------------------------------------

variable {σ : Type}

/-- A catchup of a node: the node as it then is, its knobs, the calls to its peers, and the clock.
-/
structure Occasion (σ : Type) where
  site : Site σ
  knobs : Knobs
  transport : Transport σ
  clock : Int64

namespace Occasion

/-- The catchup at some counter of rounds. -/
def catchup (o : Occasion σ) (round : UInt64) : CatchupReport × UInt64 × Site σ :=
  o.site.catchup o.transport o.knobs o.clock round

/-- All calls of that catchup. -/
def calls (o : Occasion σ) (round : UInt64) : List (Card × Message) :=
  o.site.calls o.transport o.knobs o.clock round

/-- The addresses that it contacts, in their order. -/
def contacted (o : Occasion σ) (round : UInt64) : List String :=
  (o.site.contacted o.transport o.knobs o.clock round).map Card.identity

/-- The counter at each of some catchups in a row: the given one at first, and then the one that the
catchup before has left.
-/
def counter (occasions : Nat → Occasion σ) (first : UInt64) : Nat → UInt64
  | 0 => first
  | i + 1 => ((occasions i).catchup (counter occasions first i)).2.1

variable {o : Occasion σ} {occasions : Nat → Occasion σ} {fanout first : UInt64}

theorem contacted_eq (o : Occasion σ) (round : UInt64)
    : o.contacted round
      = ((o.site.case.eligible.map Card.identity).rotate round.toNat).take
          o.knobs.fanout.toNat := by
  rw [contacted, (Site.contacted_spec _ _ _ _ _).1, Case.contacts_eq, List.map_take,
    List.map_rotate]

/-- A catchup that contacts someone moves the counter on. -/
theorem counter_catchup (enabled : o.knobs.fanout ≠ 0) (someone : o.site.case.eligible ≠ [])
    (round : UInt64)
    : (o.catchup round).2.1 = round + 1 := by
  have gossips : o.site.gossips o.knobs = true := by
    simp [Site.gossips, enabled, someone]
  simp only [catchup, Site.catchup, gossips, if_true]

/-- A catchup with no one to contact does nothing. -/
theorem catchup_of_nobody (nobody : o.knobs.fanout = 0 ∨ o.site.case.eligible = [])
    (round : UInt64)
    : o.catchup round = (.empty, round, o.site) ∧ o.calls round = [] := by
  have silent : o.site.gossips o.knobs = false := by
    rcases nobody with off | empty
    · simp [Site.gossips, off]
    · simp [Site.gossips, empty]
  have logged (s : Site (σ × List (Card × Message))) (same : s.case = o.site.case)
      : s.gossips o.knobs = false := by
    rw [← silent, Site.gossips, same]
    rfl
  refine ⟨?_, ?_⟩
  · simp [catchup, Site.catchup, silent]
  · simp only [calls, Site.calls, Site.catchup]
    rw [logged _ rfl]
    rfl

/-- The counter goes up by one with each catchup, by induction on their number. -/
theorem toNat_counter {count : Nat} (enabled : ∀ i < count, (occasions i).knobs.fanout ≠ 0)
    (someone : ∀ i < count, (occasions i).site.case.eligible ≠ [])
    (bounded : first.toNat + count ≤ UInt64.size) {i : Nat} (within : i < count)
    : (counter occasions first i).toNat = first.toNat + i := by
  induction i with
  | zero => rfl
  | succ i ih =>
      have before : i < count := Nat.lt_of_succ_lt within
      have noWrap : first.toNat + i + 1 < UInt64.size := by omega
      rw [counter, counter_catchup (enabled i before) (someone i before), UInt64.toNat_add,
        ih before, UInt64.toNat_one, Nat.mod_eq_of_lt noWrap, Nat.add_assoc]

/-- Gossip goes round fairly. As many catchups as there are peers to contact, with the same peers at
each of them, contact at each time as many peers as the fan-out allows, none more often than it is
listed, and call no one else; together they contact each peer as many times for each time it is
listed. If no peer is listed twice, as in a view that lists cards under their identities, these are
different peers each time, and equally many turns for each of them. A catchup without fan-out or
peers calls no one and leaves the counter and the node alone.
-/
theorem contacts_rotate_fairly (enabled : fanout ≠ 0)
    (someone : (occasions 0).site.case.eligible ≠ [])
    (steady : ∀ i < (occasions 0).site.case.eligible.length,
      (occasions i).knobs.fanout = fanout
      ∧ (occasions 0).site.case.SamePeers (occasions i).site.case)
    (bounded : first.toNat + (occasions 0).site.case.eligible.length ≤ UInt64.size)
    : let peers := (occasions 0).site.case.eligible.map Card.identity
      let turns := min fanout.toNat peers.length
      let contacted := fun i => (occasions i).contacted (counter occasions first i)
      (∀ i < peers.length,
        (counter occasions first i).toNat = first.toNat + i
        ∧ (contacted i).length = turns
        ∧ (contacted i).Subperm peers
        ∧ ∀ call ∈ (occasions i).calls (counter occasions first i),
            call.1.identity ∈ contacted i)
      ∧ (∀ peer,
          ((List.range peers.length).flatMap contacted).count peer = turns * peers.count peer)
      ∧ ((occasions 0).site.case.digest.Keyed → peers.Nodup)
      ∧ (peers.Nodup
          → (∀ i < peers.length, (contacted i).Nodup)
            ∧ ∀ peer ∈ peers, ((List.range peers.length).flatMap contacted).count peer = turns)
      ∧ ∀ (o : Occasion σ) (round : UInt64),
          o.knobs.fanout = 0 ∨ o.site.case.eligible = []
          → o.catchup round = (.empty, round, o.site) ∧ o.calls round = [] := by
  intro peers turns contacted
  have size : peers.length = (occasions 0).site.case.eligible.length := List.length_map _
  have same {i : Nat} (within : i < peers.length)
      : (occasions i).site.case.eligible.map Card.identity = peers :=
    (steady i (size ▸ within)).2.map_eligible.symm
  have able {i : Nat} (within : i < peers.length) : (occasions i).knobs.fanout ≠ 0 := by
    rw [(steady i (size ▸ within)).1]
    exact enabled
  have others {i : Nat} (within : i < peers.length) : (occasions i).site.case.eligible ≠ [] := by
    intro empty
    have none : peers = [] := by rw [← same within, empty, List.map_nil]
    exact someone (List.map_eq_nil_iff.mp none)
  have counted {i : Nat} (within : i < peers.length)
      : (counter occasions first i).toNat = first.toNat + i :=
    toNat_counter (fun _ => able) (fun _ => others) (size ▸ bounded) within
  have window {i : Nat} (within : i < peers.length)
      : contacted i = (peers.rotate (first.toNat + i)).take fanout.toNat := by
    simp only [contacted]
    rw [contacted_eq, same within, counted within, (steady i (size ▸ within)).1]
  have among {i : Nat} (within : i < peers.length) : (contacted i).Subperm peers := by
    rw [window within]
    exact (List.take_sublist _ _).subperm.trans (List.rotate_perm _ _).subperm
  have even (peer : String)
      : ((List.range peers.length).flatMap contacted).count peer = turns * peers.count peer := by
    have windows : (List.range peers.length).flatMap contacted
        = (List.range peers.length).flatMap fun i =>
            (peers.rotate (first.toNat + i)).take fanout.toNat :=
      List.flatMap_congr fun i member => window (List.mem_range.mp member)
    rw [windows, count_windows]
  refine ⟨?_, even, ?_, ?_, fun o round nobody => catchup_of_nobody nobody round⟩
  · intro i within
    refine ⟨counted within, ?_, among within, ?_⟩
    · rw [window within, List.length_take, List.length_rotate]
    · intro call made
      exact List.mem_map_of_mem ((Site.contacted_spec _ _ _ _ _).2 call made)
  · intro keyed
    exact Card.nodup_identities (Case.eligible_apart keyed)
  · intro distinct
    refine ⟨?_, ?_⟩
    · intro i within
      obtain ⟨part, order, taken⟩ := among within
      exact order.nodup (taken.nodup distinct)
    · intro peer member
      rw [even, List.count_eq_one_of_mem distinct member, Nat.mul_one]

/-- A node that contacts two of its three peers at a time, none of which has anything to say. -/
def amongThree : Occasion Script where
  site :=
    ⟨.desk "office" 1 [2, 3, 4] 1700000000, .empty, ⟨List.replicate 6 (.reply none), ∅, []⟩, 0⟩
  knobs := ⟨2, .ofMillis 1000, .ofMillis 1000, .ofMillis 1000⟩
  transport := Script.transport
  clock := 1700000001

/-- In three catchups each of the three peers has two turns. -/
theorem three_peers_have_two_turns_each
    : let contacted := (List.range 3).flatMap fun i =>
        amongThree.contacted (counter (fun _ => amongThree) 7 i)
      ["127.0.0.1:2", "127.0.0.1:3", "127.0.0.1:4"].map contacted.count = [2, 2, 2] := by
  have peers : amongThree.site.case.eligible.map Card.identity
      = ["127.0.0.1:2", "127.0.0.1:3", "127.0.0.1:4"] := by
    decide
  let occasions : Nat → Occasion Script := fun _ => amongThree
  have enabled : (2 : UInt64) ≠ 0 := by decide
  have someone : (occasions 0).site.case.eligible ≠ [] := by decide
  have steady : ∀ i < (occasions 0).site.case.eligible.length,
      (occasions i).knobs.fanout = 2
      ∧ (occasions 0).site.case.SamePeers (occasions i).site.case :=
    fun _ _ => ⟨rfl, .listed rfl⟩
  have bounded : (7 : UInt64).toNat + (occasions 0).site.case.eligible.length ≤ UInt64.size := by
    decide
  obtain ⟨_, _, _, turns, _⟩ := contacts_rotate_fairly enabled someone steady bounded
  rw [peers] at turns
  exact List.map_congr_left (turns (by decide)).2

end Occasion

end TaskFabric
