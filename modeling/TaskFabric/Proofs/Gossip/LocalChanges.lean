import TaskFabric.Proofs.Gossip.Traffic
import TaskFabric.Proofs.SortedMapLookups

/-! Whether a local change of a view spreads. The change is stamped with the second of the clock,
but only a strictly later second wins over the view that it was made from.
-/

namespace TaskFabric

-----------------------------------------------------------------------------------------
-- Changes of the cards
-----------------------------------------------------------------------------------------

namespace Digest

variable {d : Digest} {key : String}

theorem setAlive_eq (changes : d.changesAlive key false = true) (clock : Int64)
    : ∃ card,
        d.cards.get? key = some card
        ∧ card.alive = true
        ∧ d.setAlive key false clock
          = touch { d with cards := d.cards.insert key { card with alive := false } } clock := by
  unfold changesAlive at changes
  split at changes
  · next card found =>
      have alive : card.alive = true := by simpa using changes
      refine ⟨card, found, alive, ?_⟩
      simp only [setAlive, found, alive, bne_iff_ne, ne_eq, Bool.true_eq_false, not_false_eq_true,
        if_true]
  · cases changes

theorem timestamp_setAlive (changes : d.changesAlive key false = true) (clock : Int64)
    : (d.setAlive key false clock).timestamp = max (epochSecs clock) d.timestamp := by
  obtain ⟨card, _, _, same⟩ := setAlive_eq changes clock
  rw [same]
  rfl

/-- Marking a node down changes its card. -/
theorem cards_setAlive_ne (changes : d.changesAlive key false = true) (clock : Int64)
    : (d.setAlive key false clock).cards ≠ d.cards := by
  obtain ⟨card, found, alive, down⟩ := setAlive_eq changes clock
  intro same
  have kept : d.cards.insert key { card with alive := false } = d.cards := by
    rw [down] at same
    exact same
  rw [← kept, SortedMap.get?_insert_self, Option.some.injEq] at found
  rw [← found] at alive
  cases alive

theorem cards_removeDead_ne (someone : d.dead.isEmpty = false) (clock : Int64)
    : (d.removeDead clock).cards ≠ d.cards := by
  obtain ⟨card, member⟩ := List.exists_mem_of_ne_nil d.dead (by simpa using someone)
  obtain ⟨listed, dead⟩ := List.mem_filter.mp member
  obtain ⟨⟨key, _⟩, entry, rfl⟩ := List.mem_map.mp listed
  have found := SortedMap.mem_toList_iff.mp entry
  intro same
  rw [← same, removeDead, someone] at found
  obtain ⟨_, alive⟩ := SortedMap.get?_filter_eq_some.mp found
  simp [alive] at dead

theorem timestamp_removeDead (someone : d.dead.isEmpty = false) (clock : Int64)
    : (d.removeDead clock).timestamp = max (epochSecs clock) d.timestamp := by
  simp [removeDead, someone, touch]

theorem cards_insert_ne {card : Card} (new : d.cards.get? card.identity ≠ some card) (clock : Int64)
    : (d.insert card clock).cards ≠ d.cards := by
  intro same
  apply new
  rw [← same]
  exact SortedMap.get?_insert_self _ _ _

end Digest

namespace Case

/-- A change of the cards by the node itself: a card that was not listed so is added, a node is
marked down, or someone is removed.
-/
inductive LocalChange (clock : Int64) (c : Case) : Case → Prop
  | inserted {card disk result changed later} (new : c.digest.cards.get? card.identity ≠ some card)
    (did : c.insert card clock disk = (result, changed, later))
    : LocalChange clock c changed
  | markedDown {key disk changed later}
    (did : c.markDown key clock disk = (.ok true, changed, later))
    : LocalChange clock c changed
  | cleaned {disk removed changed later} (did : c.clean clock disk = (.ok removed, changed, later))
    (someone : removed ≠ [])
    : LocalChange clock c changed

/-- A local change is stamped with the clock, unless the view was stamped later, and changes the
cards.
-/
theorem LocalChange.spec {clock : Int64} {c changed : Case} (change : LocalChange clock c changed)
    : changed.digest.timestamp = max (epochSecs clock) c.digest.timestamp
      ∧ changed.digest.cards ≠ c.digest.cards := by
  cases change with
  | @inserted card disk result _ later new did =>
      have same : changed = c.withDigest (c.digest.insert card clock) := by
        unfold insert at did
        simp only at did
        split at did <;> (cases did; rfl)
      rw [same]
      exact ⟨rfl, Digest.cards_insert_ne new clock⟩
  | @markedDown key disk _ later did =>
      unfold markDown at did
      split at did
      · next changes =>
          have same : changed = c.withDigest (c.digest.setAlive key false clock) := by
            simp only at did
            split at did <;> cases did
            rfl
          rw [same]
          exact ⟨Digest.timestamp_setAlive changes clock, Digest.cards_setAlive_ne changes clock⟩
      · cases did
  | @cleaned disk removed _ later did someone =>
      unfold clean at did
      simp only at did
      split at did
      · cases did
        exact absurd rfl someone
      · next nonempty =>
          have occupied : c.digest.dead.isEmpty = false := by simpa using nonempty
          have same : changed = c.withDigest (c.digest.removeDead clock) := by
            split at did <;> cases did
            rfl
          rw [same]
          exact ⟨Digest.timestamp_removeDead occupied clock,
            Digest.cards_removeDead_ne occupied clock⟩

/-- A change that comes later than the view makes it newer; any other one leaves it as old. -/
theorem LocalChange.stamp {clock : Int64} {c changed : Case} (change : LocalChange clock c changed)
    : c.digest.timestamp < epochSecs clock ∧ c.digest.timestamp < changed.digest.timestamp
      ∨ ¬c.digest.timestamp < epochSecs clock
        ∧ changed.digest.timestamp = c.digest.timestamp := by
  have stamped : changed.digest.timestamp
      = if epochSecs clock ≤ c.digest.timestamp then c.digest.timestamp else epochSecs clock :=
    change.spec.1
  rw [stamped]
  split
  · next known => exact .inr ⟨UInt64.not_lt.mpr known, rfl⟩
  · next later => exact .inl ⟨UInt64.not_le.mp later, UInt64.not_le.mp later⟩

end Case

-----------------------------------------------------------------------------------------
-- Local changes among messages
-----------------------------------------------------------------------------------------

namespace Traffic

variable {ν : Type} [DecidableEq ν] {start between ended last : Traffic ν} {a b x y : ν}

/-- A local change is lost to gossip unless the clock has passed the second of the view that it was
made from. Two nodes have one view, which nothing around is newer than, and one of them changes its
cards. Once they have completed a round, started by either of them, the other one has the changed
view if the second of the clock is later, and else both keep what they have, with different cards;
whatever else is sent, repeated, lost, or handled late, before that round, in it, and behind it.
-/
theorem change_arrives_iff_later {old : Case} {clock : Int64}
    (change : Case.LocalChange clock old (start.case a))
    (equal : (start.case b).digest = old.digest)
    (others : ∀ z, z ≠ a → (start.case z).digest.timestamp ≤ old.digest.timestamp)
    (stale : ∀ m ∈ start.sent, m.digest.timestamp ≤ old.digest.timestamp)
    (before : Run start between) (round : CompletedRound x y between ended)
    (sides : x = a ∧ y = b ∨ x = b ∧ y = a) (later : Run ended last)
    : ((last.case b).digest.cards = (start.case a).digest.cards
        ↔ old.digest.timestamp < epochSecs clock)
      ∧ (last.case a).digest = (start.case a).digest
      ∧ (last.case b).digest
        = if old.digest.timestamp < epochSecs clock then (start.case a).digest
          else old.digest := by
  have run : Run start last := (before.trans round.run).trans later
  have around {p : Digest → Prop} (own : p (start.case a).digest)
      (known : ∀ d, d.timestamp ≤ old.digest.timestamp → p d)
      : Everywhere p start := by
    refine ⟨?_, fun m member => known _ (stale m member)⟩
    intro z
    by_cases same : z = a
    · exact same ▸ own
    · exact known _ (others z same)
  rcases change.stamp with ⟨passed, newer⟩ | ⟨notPassed, same⟩
  · -- Everything else around is older than the changed view, so whoever hears it adopts it.
    have newest : Everywhere
        (fun d => d = (start.case a).digest ∨ d.timestamp < (start.case a).digest.timestamp)
        start :=
      around (.inl rfl) fun d known => .inr (UInt64.lt_of_le_of_lt known newer)
    have bound : Everywhere (fun d => d.timestamp ≤ (start.case a).digest.timestamp) start :=
      around (UInt64.le_refl _) fun d known => UInt64.le_of_lt (UInt64.lt_of_le_of_lt known newer)
    have own {t : Traffic ν} (run : Run start t) : (t.case a).digest = (start.case a).digest :=
      Run.digest_eq run rfl bound
    have heard : ∃ t, Run start t ∧ Hears b (start.case a).digest t ended := by
      obtain ⟨second, middle, between, first⟩ := round.hears
      rcases sides with ⟨rfl, rfl⟩ | ⟨rfl, rfl⟩
      · exact ⟨_, before, own before ▸ second⟩
      · exact ⟨_, before.trans between, own (before.trans between) ▸ first⟩
    obtain ⟨t, reached, hears⟩ := heard
    have arrived : (ended.case b).digest = (start.case a).digest :=
      hears.digest_eq (Run.everywhere reached newest)
    have still : (last.case b).digest = (start.case a).digest :=
      Run.digest_eq later arrived (Run.everywhere (before.trans round.run) bound)
    rw [if_pos passed, still]
    exact ⟨⟨fun _ => passed, fun _ => rfl⟩, own run, rfl⟩
  · -- Nothing around is newer than either view, so neither side ever gives up its own.
    have bound : Everywhere (fun d => d.timestamp ≤ old.digest.timestamp) start :=
      around (UInt64.le_of_eq same) fun _ known => known
    have kept : (last.case b).digest = old.digest := Run.digest_eq run equal bound
    have own : (last.case a).digest = (start.case a).digest :=
      Run.digest_eq run rfl (same ▸ bound)
    rw [if_neg notPassed, kept]
    refine ⟨⟨?_, fun passed => absurd passed notPassed⟩, own, rfl⟩
    intro arrived
    exact absurd arrived.symm change.spec.2

/-- A node on a port of this host; its view holds three nodes and is of second 1700000005. -/
def colleague (port : UInt16) : Case where
  state :=
    let card := Card.ofAddress "127.0.0.1"
    ⟨"office", Digest.ofCards [card 1, card 2, card 3] 1700000005, card port, card 1⟩
  path := none
  externalIp := none

/-- Two such nodes, the first of which has marked the third one down at some second. -/
def afterMarkDown (clock : Int64) : Traffic Bool where
  case
    | true => ((colleague 1).markDown "127.0.0.1:3" clock .empty).2.1
    | false => colleague 2
  sent := []

theorem localChange_afterMarkDown (clock : Int64)
    : Case.LocalChange clock (colleague 1) ((afterMarkDown clock).case true) := by
  have did : (colleague 1).markDown "127.0.0.1:3" clock .empty
      = (.ok true, (afterMarkDown clock).case true, .empty) := rfl
  exact .markedDown did

theorem exists_round_afterMarkDown (clock : Int64)
    : ∃ ended,
        CompletedRound true false (afterMarkDown clock) ended
        ∧ (ended.case true).digest
          = ((afterMarkDown clock).case true).digest.merge (colleague 2).digest
        ∧ (ended.case false).digest
          = (colleague 2).digest.merge ((afterMarkDown clock).case true).digest := by
  have recognised : (colleague 2).isLocal (Card.ofAddress "127.0.0.1" 2) = true := by decide
  exact exists_completedRound (by decide) (Card.ofAddress "127.0.0.1" 2) rfl recognised

/-- A node that is marked down in the next second is down for the other side after a round. -/
theorem mark_of_next_second_arrives
    : ∃ ended,
        CompletedRound true false (afterMarkDown 1700000006) ended
        ∧ (ended.case false).digest.cards
          = ((afterMarkDown 1700000006).case true).digest.cards := by
  obtain ⟨ended, round, _⟩ := exists_round_afterMarkDown 1700000006
  have others : ∀ z, z ≠ true
      → ((afterMarkDown 1700000006).case z).digest.timestamp
        ≤ (colleague 1).digest.timestamp := by
    intro z different
    cases z
    · decide
    · exact absurd rfl different
  have stale : ∀ m ∈ (afterMarkDown 1700000006).sent,
      m.digest.timestamp ≤ (colleague 1).digest.timestamp := by
    simp [afterMarkDown]
  obtain ⟨arrives, _⟩ := change_arrives_iff_later (localChange_afterMarkDown 1700000006) rfl others
    stale .refl round (.inl ⟨rfl, rfl⟩) .refl
  exact ⟨ended, round, arrives.mpr (by decide)⟩

/-- A node that is marked down in the second of the view stays alive for the other side. -/
theorem mark_of_same_second_is_lost
    : Case.LocalChange 1700000005 (colleague 1) ((afterMarkDown 1700000005).case true)
      ∧ ((afterMarkDown 1700000005).case false).digest = (colleague 1).digest
      ∧ ∃ ended,
          CompletedRound true false (afterMarkDown 1700000005) ended
          ∧ (ended.case false).digest.cards
            ≠ ((afterMarkDown 1700000005).case true).digest.cards := by
  obtain ⟨ended, round, _, kept⟩ := exists_round_afterMarkDown 1700000005
  refine ⟨localChange_afterMarkDown 1700000005, rfl, ended, round, ?_⟩
  rw [kept]
  decide

end Traffic

end TaskFabric
