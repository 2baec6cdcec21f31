import Mathlib.Data.List.Rotate
import TaskFabric.Proofs.Gossip.Keying

/-! Whom a catchup contacts, as its calls tell. Each round begins with a first message to its peer,
and no other message of a catchup is one; so the peers of these messages are the contacts, as many
as the fan-out allows and none of them twice.
-/

namespace TaskFabric

variable {σ : Type}

-----------------------------------------------------------------------------------------
-- Calls
-----------------------------------------------------------------------------------------

/-- A network that keeps all messages that it is to hand over, with their peers, in the order of the
calls.
-/
def Transport.logged (t : Transport σ) : Transport (σ × List (Card × Message)) where
  exchange peer m disk network :=
    let (answer, disk, after) := t.exchange peer m disk network.1
    (answer, disk, after, network.2 ++ [(peer, m)])
  distribute limit peer tasks network :=
    let (answer, after) := t.distribute limit peer tasks network.1
    (answer, after, network.2)

/-- Keeping the messages changes nothing. -/
theorem Transport.shows_logged (t : Transport σ) : t.logged.Shows t Prod.fst :=
  fun _ _ _ _ => rfl

namespace Site

/-- The calls that a catchup makes, each with its peer. -/
def calls (t : Transport σ) (knobs : Knobs) (clock : Int64) (round : UInt64) (s : Site σ)
    : List (Card × Message) :=
  let logged : Site (σ × List (Card × Message)) := ⟨s.case, s.disk, (s.network, []), s.waited⟩
  (logged.catchup t.logged knobs clock round).2.2.network.2

/-- A catchup of which the calls are kept is that catchup. -/
theorem catchup_logged (t : Transport σ) (knobs : Knobs) (clock : Int64) (round : UInt64)
    (s : Site (σ × List (Card × Message)))
    : Prod.map id (Prod.map id (onto Prod.fst)) (s.catchup t.logged knobs clock round)
      = (s.onto Prod.fst).catchup t knobs clock round :=
  (catchup_onto t.shows_logged knobs clock round s).symm

/-- The peers with whom rounds begin among some calls, in their order. -/
def addressed (calls : List (Card × Message)) : List Card :=
  (calls.filter fun call => call.2.type == .sync).map Prod.fst

/-- The peers that a catchup contacts, in their order. -/
def contacted (t : Transport σ) (knobs : Knobs) (clock : Int64) (round : UInt64) (s : Site σ)
    : List Card :=
  addressed (s.calls t knobs clock round)

theorem addressed_append (calls more : List (Card × Message))
    : addressed (calls ++ more) = addressed calls ++ addressed more := by
  simp [addressed]

/-- The calls of one round: the first message, and at most others that are none. -/
structure RoundCalls (peer : Card) (calls : List (Card × Message)) : Prop where
  first : addressed calls = [peer]
  all : ∀ call ∈ calls, call.1 = peer

variable {t : Transport σ} {knobs : Knobs} {clock : Int64} {peer : Card}
  {s next : Site (σ × List (Card × Message))} {m : Message}

theorem RoundCalls.begin (type : m.type = .sync) : RoundCalls peer [(peer, m)] :=
  ⟨by simp [addressed, type], by simp⟩

theorem RoundCalls.more {calls : List (Card × Message)} (begun : RoundCalls peer calls)
    (type : m.type = .ack2)
    : RoundCalls peer (calls ++ [(peer, m)]) := by
  refine ⟨?_, ?_⟩
  · rw [addressed_append, begun.first]
    simp [addressed, type]
  · intro call member
    rcases List.mem_append.mp member with before | last
    · exact begun.all call before
    · rw [List.mem_singleton.mp last]

theorem log_call {answer : Except ClusterError (Option Message)}
    (called : s.call t.logged knobs peer m = (answer, next))
    : next.network.2 = s.network.2 ++ [(peer, m)] := by
  unfold call at called
  split at called <;>
    · next same =>
        cases called
        exact congrArg (fun result => result.2.2.2) same.symm

theorem log_handle {reply : Option Message} (handled : s.handle m = (reply, next))
    : next.network.2 = s.network.2 := by
  cases handled
  rfl

/-- The message behind a first reply is the third one of a round, if there is one to send. -/
theorem type_of_handle {reply : Message} {site after : Site σ} (type : m.type = .ack)
    (handled : site.handle m = (some reply, after)) (ok : reply.checkStatus = .ok ())
    : reply.type = .ack2 := by
  have answered : site.case.exchange m site.disk = (some reply, after.case, after.disk) := by
    simp only [handle, Prod.mk.injEq] at handled
    obtain ⟨came, rfl⟩ := handled
    exact Prod.ext came rfl
  have valid := Case.validate_of_exchange answered (checkStatus_eq_ok ok)
  rw [Case.exchange_of_merges valid (by rw [type]; rfl) (by rw [type]; rfl)] at answered
  simp only [Prod.mk.injEq, Option.some.injEq] at answered
  rw [← answered.1]
  rfl

/-- A round makes one or two calls, and both are to its peer. -/
theorem log_gossipWith (t : Transport σ) (knobs : Knobs) (peer : Card)
    (s : Site (σ × List (Card × Message)))
    : ∃ calls,
        RoundCalls peer calls
        ∧ (s.gossipWith t.logged knobs peer).2.network.2 = s.network.2 ++ calls := by
  have start : RoundCalls peer [(peer, s.case.message peer .sync)] := .begin rfl
  unfold gossipWith
  rcases called : s.call t.logged knobs peer (s.case.message peer .sync)
    with ⟨_ | _ | ack, asked⟩ <;> have first := log_call called
  · exact ⟨_, start, first⟩
  · exact ⟨_, start, first⟩
  · simp only
    split
    · exact ⟨_, start, first⟩
    · split
      · exact ⟨_, start, first⟩
      · next right =>
          rcases handled : asked.handle ack with ⟨_ | ack2, told⟩ <;>
            have second := (log_handle handled).trans first
          · exact ⟨_, start, second⟩
          · simp only
            split
            · exact ⟨_, start, second⟩
            · next ok =>
                have third : ack2.type = .ack2 := type_of_handle (not_not.mp right) handled ok
                have both := start.more third
                unfold finishRound
                rcases again : told.call t.logged knobs peer ack2 with ⟨_ | _ | ack3, ended⟩ <;>
                  have last : ended.network.2 = s.network.2 ++ _ :=
                    (log_call again).trans (by rw [second, List.append_assoc])
                · exact ⟨_, both, last⟩
                · exact ⟨_, both, last⟩
                · simp only
                  split
                  · exact ⟨_, both, last⟩
                  · exact ⟨_, both, last⟩

theorem log_contact (t : Transport σ) (knobs : Knobs) (clock : Int64) (report : CatchupReport)
    (peer : Card) (s : Site (σ × List (Card × Message)))
    : ∃ calls,
        RoundCalls peer calls
        ∧ (s.contact t.logged knobs clock report peer).2.network.2 = s.network.2 ++ calls := by
  obtain ⟨calls, round, log⟩ := log_gossipWith t knobs peer s
  refine ⟨calls, round, ?_⟩
  rw [← log]
  unfold contact
  rcases s.gossipWith t.logged knobs peer with ⟨e | _ | _, next⟩
  · simp only
    split
    · rcases down : next.markDown peer.identity clock with ⟨_ | _, last⟩ <;>
        exact congrArg (fun marked => marked.2.network.2) down.symm
    · rfl
  · rfl
  · rfl

/-- Rounds begin with one peer after another and call no one else, by induction on the peers. -/
theorem log_contactEach (t : Transport σ) (knobs : Knobs) (clock : Int64) (peers : List Card)
    (report : CatchupReport) (s : Site (σ × List (Card × Message)))
    : ∃ calls,
        addressed calls = peers
        ∧ (∀ call ∈ calls, call.1 ∈ peers)
        ∧ (s.contactEach t.logged knobs clock peers report).2.network.2
          = s.network.2 ++ calls := by
  induction peers generalizing report s with
  | nil => exact ⟨[], rfl, by simp, by simp [contactEach]⟩
  | cons peer rest ih =>
      obtain ⟨first, round, log⟩ := log_contact t knobs clock report peer s
      obtain ⟨others, begun, among, all⟩ :=
        ih (s.contact t.logged knobs clock report peer).1
          (s.contact t.logged knobs clock report peer).2
      refine ⟨first ++ others, ?_, ?_, ?_⟩
      · rw [addressed_append, round.first, begun]
        rfl
      · intro call member
        rcases List.mem_append.mp member with now | later
        · rw [round.all call now]
          exact List.mem_cons_self
        · exact List.mem_cons_of_mem peer (among call later)
      · rw [contactEach, all, log, List.append_assoc]

/-- A catchup begins a round with each of its contacts and calls no one else. -/
theorem contacted_spec (t : Transport σ) (knobs : Knobs) (clock : Int64) (round : UInt64)
    (s : Site σ)
    : s.contacted t knobs clock round = s.case.contacts knobs.fanout round
      ∧ ∀ call ∈ s.calls t knobs clock round, call.1 ∈ s.contacted t knobs clock round := by
  let logged : Site (σ × List (Card × Message)) := ⟨s.case, s.disk, (s.network, []), s.waited⟩
  obtain ⟨_, caught⟩ := catchup_eq t.logged knobs clock round logged
  obtain ⟨calls, begun, among, all⟩ :=
    log_contactEach t knobs clock (s.case.contacts knobs.fanout round) .empty logged
  have made : s.calls t knobs clock round = calls :=
    (congrArg (fun result => result.2.2.network.2) caught).trans (all.trans (List.nil_append _))
  rw [contacted, made]
  exact ⟨begun, fun call member => begun ▸ among call member⟩

end Site

-----------------------------------------------------------------------------------------
-- Contacts
-----------------------------------------------------------------------------------------

/-- Cards of which no two have one address have different identities. -/
theorem Card.nodup_identities {cards : List Card}
    (apart : cards.Pairwise fun a b => a.sameAddress b = false)
    : (cards.map identity).Nodup := by
  refine List.pairwise_map.mpr (apart.imp ?_)
  intro a b different same
  rw [sameAddress_of_identity_eq same] at different
  cases different

theorem rotateLeft_eq_rotate {α : Type} (l : List α) (n : Nat) : l.rotateLeft n = l.rotate n := by
  match l with
  | [] | [_] => simp [List.rotateLeft]
  | a :: b :: rest => simp [List.rotateLeft, List.rotate_eq_drop_append_take_mod]

namespace Case

/-- The contacts are the first ones of those that can be contacted, from some place on. -/
theorem contacts_eq (c : Case) (fanout round : UInt64)
    : c.contacts fanout round = (c.eligible.rotate round.toNat).take fanout.toNat := by
  rw [contacts, rotateLeft_eq_rotate, List.rotate_mod]

theorem length_contacts (c : Case) (fanout round : UInt64)
    : (c.contacts fanout round).length = min fanout.toNat c.eligible.length := by
  rw [contacts_eq, List.length_take, List.length_rotate]

/-- Only those are contacted that can be, and none more often than it is listed. -/
theorem contacts_subperm (c : Case) (fanout round : UInt64)
    : (c.contacts fanout round).Subperm c.eligible := by
  rw [contacts_eq]
  exact (List.take_sublist _ _).subperm.trans (List.rotate_perm _ _).subperm

/-- If no address is listed twice, none is contacted twice. -/
theorem contacts_apart {c : Case} (apart : c.eligible.Pairwise fun a b => a.sameAddress b = false)
    (fanout round : UInt64)
    : (c.contacts fanout round).Pairwise fun a b => a.sameAddress b = false := by
  have symmetric (a b : Card) : a.sameAddress b = b.sameAddress a := by
    simp only [Card.sameAddress, Bool.beq_comm]
  rw [contacts_eq]
  refine List.Pairwise.sublist (List.take_sublist _ _) ?_
  refine ((List.rotate_perm _ _).pairwise_iff ?_).mpr apart
  intro a b different
  rwa [symmetric]

theorem eligible_apart {c : Case} (keyed : c.digest.Keyed)
    : c.eligible.Pairwise fun a b => a.sameAddress b = false :=
  List.Pairwise.sublist List.filter_sublist keyed.peers_apart

end Case

end TaskFabric
