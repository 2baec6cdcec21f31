import TaskFabric.Proofs.Gossip.Contacts

/-! What a catchup does to a view if no reply brings a newer one. The rounds in which a peer cannot
be reached mark down whatever stands under the identity of the peer, and nothing else happens to the
view.
-/

namespace TaskFabric

-----------------------------------------------------------------------------------------
-- Marking down
-----------------------------------------------------------------------------------------

/-- The same card, no longer alive. -/
def Card.asDown (c : Card) : Card := { c with alive := false }

theorem Card.asDown_of_dead {c : Card} (dead : c.alive = false) : c.asDown = c := by
  rw [asDown, ← dead]

namespace Digest

/-- The view with the cards under some keys marked down, one after another. -/
def markAllDown (d : Digest) (keys : List String) (clock : Int64) : Digest :=
  keys.foldl (fun d key => d.setAlive key false clock) d

variable {key : String}

theorem changesAlive_eq (d : Digest) (key : String)
    : d.changesAlive key false = (d.cards.get? key).any Card.alive := by
  unfold changesAlive
  cases d.cards.get? key <;> simp

theorem setAlive_of_not_changes {d : Digest} (idle : d.changesAlive key false = false)
    (clock : Int64)
    : d.setAlive key false clock = d := by
  unfold setAlive changesAlive at *
  split <;> simp_all

theorem get?_setAlive (d : Digest) (key other : String) (clock : Int64)
    : (d.setAlive key false clock).cards.get? other
      = (d.cards.get? other).map fun card => if other = key then card.asDown else card := by
  cases changes : d.changesAlive key false with
  | true =>
      obtain ⟨card, found, _, down⟩ := setAlive_eq changes clock
      rw [down, touch, SortedMap.get?_insert]
      by_cases same : other = key
      · simp [same, found, Card.asDown]
      · simp [same]
  | false =>
      rw [setAlive_of_not_changes changes]
      rw [changesAlive_eq] at changes
      by_cases same : other = key
      · subst same
        cases found : d.cards.get? other with
        | none => rfl
        | some card =>
            have dead : card.alive = false := by simpa [found] using changes
            simp [Card.asDown_of_dead dead]
      · simp [same]

theorem timestamp_setAlive_eq (d : Digest) (key : String) (clock : Int64)
    : (d.setAlive key false clock).timestamp
      = if d.changesAlive key false then max (epochSecs clock) d.timestamp else d.timestamp := by
  split
  · next changes => exact timestamp_setAlive changes clock
  · next idle => rw [setAlive_of_not_changes (Bool.not_eq_true _ ▸ idle)]

/-- The cards under the keys are marked down and no others, by induction on the keys. -/
theorem cards_markAllDown (d : Digest) (keys : List String) (clock : Int64)
    : (d.markAllDown keys clock).cards
      = d.cards.map fun key card => if key ∈ keys then card.asDown else card := by
  refine SortedMap.ext_get? fun other => ?_
  rw [SortedMap.get?_map]
  induction keys generalizing d with
  | nil => simp [markAllDown]
  | cons key rest ih =>
      rw [markAllDown, List.foldl_cons, ← markAllDown, ih, get?_setAlive, Option.map_map]
      congr 1
      funext card
      by_cases first : other = key <;> by_cases later : other ∈ rest <;>
        simp [first, later, Card.asDown]

theorem max_max_self (a b : UInt64) : max a (max a b) = max a b := by
  simp only [UInt64.max_def]
  split <;> simp

/-- The second moves to the clock if there is anything to mark down, by induction on the keys. -/
theorem timestamp_markAllDown (d : Digest) (keys : List String) (clock : Int64)
    : (d.markAllDown keys clock).timestamp
      = if keys.any (d.changesAlive · false) then max (epochSecs clock) d.timestamp
        else d.timestamp := by
  induction keys generalizing d with
  | nil => rfl
  | cons key rest ih =>
      rw [markAllDown, List.foldl_cons, ← markAllDown, ih, timestamp_setAlive_eq, List.any_cons]
      cases first : d.changesAlive key false with
      | true => simp [max_max_self]
      | false => simp [setAlive_of_not_changes first]

/-- Cleaning keeps the cards that are alive and no others. -/
theorem cards_removeDead (d : Digest) (clock : Int64)
    : (d.removeDead clock).cards = d.cards.filter fun _ card => card.alive := by
  unfold removeDead
  split
  · next noOne =>
      refine SortedMap.ext (List.filter_eq_self.mpr ?_).symm
      intro entry member
      have listed : entry.2 ∈ d.cards.values := List.mem_map_of_mem member
      have nobody : d.dead = [] := List.isEmpty_iff.mp noOne
      simpa using List.filter_eq_nil_iff.mp nobody entry.2 listed
  · rfl

end Digest

-----------------------------------------------------------------------------------------
-- Peers that are not reached
-----------------------------------------------------------------------------------------

namespace Site

variable {σ : Type}

/-- A call to a peer reaches no one: it fails at the connection, or no answer comes in time. -/
def Missed (t : Transport σ) (peer : Card) (m : Message) (s : Site σ) : Prop :=
  match (t.exchange peer m s.disk s.network).1 with
  | .reply _ => False
  | .failure e => e.isConnection = true
  | .silence => True

/-- A round does not reach its peer, with its first message or with its third one. -/
inductive Unreached (t : Transport σ) (knobs : Knobs) (peer : Card) (s : Site σ) : Prop
  | first (missed : s.Missed t peer (s.case.message peer .sync))
    : Unreached t knobs peer s
  | second {ack ack2 told} (half : FirstHalf t knobs peer s ack ack2 told)
    (missed : told.Missed t peer ack2)
    : Unreached t knobs peer s

/-- Whether a round ends with a failure of the connection. -/
def misses (t : Transport σ) (knobs : Knobs) (peer : Card) (s : Site σ) : Bool :=
  match (s.gossipWith t knobs peer).1 with
  | .ok _ => false
  | .error e => e.isConnection

/-- Whether a round ends with another failure. -/
def fails (t : Transport σ) (knobs : Knobs) (peer : Card) (s : Site σ) : Bool :=
  match (s.gossipWith t knobs peer).1 with
  | .ok _ => false
  | .error e => !e.isConnection

/-- Whether a round comes to its end. -/
def completes (t : Transport σ) (knobs : Knobs) (peer : Card) (s : Site σ) : Bool :=
  (s.gossipWith t knobs peer).1 matches .ok _

variable {t : Transport σ} {knobs : Knobs} {clock : Int64} {peer : Card} {s next : Site σ}
  {m ack ack2 : Message} {told : Site σ}

theorem missed_iff {result : Except ClusterError (Option Message)}
    (called : s.call t knobs peer m = (result, next))
    : s.Missed t peer m ↔ ∃ e, result = .error e ∧ e.isConnection = true := by
  rcases answered : t.exchange peer m s.disk s.network with ⟨_ | _ | _, disk, network⟩
  all_goals
    simp only [call, answered, Prod.mk.injEq] at called
    obtain ⟨rfl, _⟩ := called
    simp [Missed, answered, ClusterError.isConnection]

theorem not_missed_of_reply {reply : Option Message}
    (called : s.call t knobs peer m = (.ok reply, next))
    : ¬s.Missed t peer m := by
  rw [missed_iff called]
  simp

/-- A refusal is no failure of the connection. -/
theorem isConnection_of_checkStatus {e : ClusterError} (checked : m.checkStatus = .error e)
    : e.isConnection = false := by
  unfold Message.checkStatus at checked
  split at checked <;> cases checked <;> rfl

/-- There is one first half of a round at most. -/
theorem FirstHalf.unique {other other2 : Message} {also : Site σ}
    (half : FirstHalf t knobs peer s ack ack2 told)
    (again : FirstHalf t knobs peer s other other2 also)
    : told = also ∧ ack2 = other2 := by
  cases half with
  | handled came _ _ answered _ =>
      cases again with
      | handled alsoCame _ _ alsoAnswered _ =>
          rw [came] at alsoCame
          simp only [Prod.mk.injEq, Except.ok.injEq, Option.some.injEq] at alsoCame
          obtain ⟨rfl, rfl⟩ := alsoCame
          rw [answered] at alsoAnswered
          simp only [Prod.mk.injEq, Option.some.injEq] at alsoAnswered
          exact ⟨alsoAnswered.2, alsoAnswered.1⟩

/-- Behind its first half a round is left with its second call. -/
theorem FirstHalf.misses_iff (half : FirstHalf t knobs peer s ack ack2 told)
    : s.misses t knobs peer = true ↔ told.Missed t peer ack2 := by
  unfold misses
  rw [half.gossipWith_eq, finishRound]
  rcases called : told.call t knobs peer ack2 with ⟨_ | _ | ack3, ended⟩
  · simp [missed_iff called]
  · simp [not_missed_of_reply called]
  · have reached := not_missed_of_reply called
    cases checked : ack3.checkStatus with
    | error e => simp [checked, isConnection_of_checkStatus checked, reached]
    | ok _ => simp [checked, reached]

theorem FirstHalf.not_missed (half : FirstHalf t knobs peer s ack ack2 told)
    : ¬s.Missed t peer (s.case.message peer .sync) := by
  cases half with
  | handled came _ _ _ _ => exact not_missed_of_reply came

/-- A round without a first half is left with its first call. -/
theorem misses_iff_of_no_half (never : ∀ ack ack2 told, ¬FirstHalf t knobs peer s ack ack2 told)
    : s.misses t knobs peer = true ↔ s.Missed t peer (s.case.message peer .sync) := by
  unfold misses gossipWith
  rcases called : s.call t knobs peer (s.case.message peer .sync) with ⟨_ | _ | ack, asked⟩
  · simp [missed_iff called]
  · simp [not_missed_of_reply called, ClusterError.isConnection]
  · have reached := not_missed_of_reply called
    cases ackOk : ack.checkStatus with
    | error e => simp [ackOk, isConnection_of_checkStatus ackOk, reached]
    | ok _ =>
        by_cases type : ack.type = .ack
        · rcases answered : asked.handle ack with ⟨_ | ack2, told⟩
          · simp [ackOk, type, answered, reached, ClusterError.isConnection]
          · cases ack2Ok : ack2.checkStatus with
            | error e =>
                simp [ackOk, type, answered, ack2Ok, isConnection_of_checkStatus ack2Ok, reached]
            | ok _ =>
                have half := FirstHalf.handled called ackOk type answered ack2Ok
                exact absurd half (never ack ack2 told)
        · simp [ackOk, type, reached, ClusterError.isConnection]

/-- A round ends with a failure of the connection exactly if it does not reach its peer. -/
theorem misses_iff : s.misses t knobs peer = true ↔ Unreached t knobs peer s := by
  -- The second call decides if there is one, and the first call else.
  by_cases reached : ∃ ack ack2 told, FirstHalf t knobs peer s ack ack2 told
  · obtain ⟨ack, ack2, told, half⟩ := reached
    rw [half.misses_iff]
    constructor
    · exact .second half
    · intro unreached
      cases unreached with
      | first missed => exact absurd missed half.not_missed
      | second again missed =>
          obtain ⟨rfl, rfl⟩ := half.unique again
          exact missed
  · have never : ∀ ack ack2 told, ¬FirstHalf t knobs peer s ack ack2 told :=
      fun ack ack2 told half => reached ⟨ack, ack2, told, half⟩
    rw [misses_iff_of_no_half never]
    constructor
    · exact .first
    · intro unreached
      cases unreached with
      | first missed => exact missed
      | second half _ => exact absurd half (never _ _ _)

end Site

-----------------------------------------------------------------------------------------
-- Operations that can be written
-----------------------------------------------------------------------------------------

namespace Case

variable {c : Case} {clock : Int64} {disk : Disk} {e : Edit} {key : String}

/-- The disk takes whatever an operation has to write. -/
def Writes (c : Case) (clock : Int64) (disk : Disk) (e : Edit) : Prop :=
  ∀ view, e.view? c.digest clock = some view → ((c.withDigest view).persist disk).1 = .ok ()

theorem Edit.answer_of_no_view {d : Digest} (idle : e.view? d clock = none)
    : e.answer d = e.nothing := by
  cases e with
  | insert card => rfl
  | merge other | markDown key | clean => simpa [view?, answer, nothing] using idle

/-- An operation that can be written answers what there was to do. -/
theorem Writes.edit (writes : c.Writes clock disk e)
    : (c.edit clock disk e).1 = .ok (e.answer c.digest) := by
  cases made : e.view? c.digest clock with
  | some view =>
      rw [edit_of_view made, writes view made]
      rfl
  | none => rw [edit_of_no_view made, Edit.answer_of_no_view made]

theorem Writes.markDown (writes : c.Writes clock disk (.markDown key))
    : (c.markDown key clock disk).1 = .ok (c.digest.changesAlive key false) := by
  have answered := writes.edit
  cases marked : (c.markDown key clock disk).1 with
  | error e => simp [Case.edit, marked, Except.map] at answered
  | ok did => simpa [Case.edit, marked, Except.map, Edit.answer] using answered

theorem Writes.clean (writes : c.Writes clock disk .clean)
    : (c.clean clock disk).1 = .ok c.digest.dead := by
  have answered := writes.edit
  cases cleaned : (c.clean clock disk).1 with
  | error e => simp [Case.edit, cleaned, Except.map] at answered
  | ok removed => simpa [Case.edit, cleaned, Except.map, Edit.answer] using answered

/-- Marking down changes nothing but the view, whether it can be written or not. -/
theorem case_markDown (c : Case) (key : String) (clock : Int64) (disk : Disk)
    : (c.markDown key clock disk).2.1 = c.withDigest (c.digest.setAlive key false clock) := by
  have edited : (c.markDown key clock disk).2.1 = _ := c.edit_case clock disk (.markDown key)
  rw [edited, Edit.view?]
  cases changes : c.digest.changesAlive key false with
  | true => rfl
  | false =>
      rw [Digest.setAlive_of_not_changes changes]
      rfl

/-- Cleaning changes nothing but the view, whether it can be written or not. -/
theorem case_clean (c : Case) (clock : Int64) (disk : Disk)
    : (c.clean clock disk).2.1 = c.withDigest (c.digest.removeDead clock) := by
  have edited : (c.clean clock disk).2.1 = _ := c.edit_case clock disk .clean
  rw [edited, Edit.view?, Digest.removeDead]
  split <;> rfl

/-- Nothing is written to a file that there is not. -/
theorem Writes.of_no_file (noFile : c.path = none) : c.Writes clock disk e := by
  intro view _
  simp [persist, withDigest, noFile]

/-- Nothing is written where there is nothing to do. -/
theorem Writes.of_idle (idle : e.view? c.digest clock = none) : c.Writes clock disk e := by
  intro view made
  rw [idle] at made
  cases made

end Case

-----------------------------------------------------------------------------------------
-- Rounds that take nothing over
-----------------------------------------------------------------------------------------

namespace Site

variable {σ : Type} {t : Transport σ} {knobs : Knobs} {clock : Int64} {peer : Card} {s : Site σ}

/-- Rounds that take no view over, each with its peer, and marks that can be written. -/
structure Undisturbed (t : Transport σ) (knobs : Knobs) (clock : Int64)
    (rounds : List (Card × Site σ))
    : Prop where
  untaken : ∀ entry ∈ rounds, ∀ d, ¬entry.2.Takes t knobs entry.1 d
  written
    : ∀ entry ∈ rounds,
        Unreached t knobs entry.1 entry.2
        → let after := (entry.2.gossipWith t knobs entry.1).2
          after.case.Writes clock after.disk (.markDown entry.1.identity)

/-- The peers of those of some rounds that do not reach them. -/
def missed (t : Transport σ) (knobs : Knobs) (rounds : List (Card × Site σ)) : List Card :=
  (rounds.filter fun entry => entry.2.misses t knobs entry.1).map Prod.fst

theorem length_missed (t : Transport σ) (knobs : Knobs) (rounds : List (Card × Site σ))
    : (missed t knobs rounds).length
      = rounds.countP fun entry => entry.2.misses t knobs entry.1 := by
  rw [missed, List.length_map, List.countP_eq_length_filter]

theorem case_of_untaken (untaken : ∀ d, ¬s.Takes t knobs peer d)
    : (s.gossipWith t knobs peer).2.case = s.case := by
  rcases case_gossipWith t knobs peer s with same | ⟨reply, came, newer, kept⟩
  · exact same
  · exact absurd (.taken came newer kept) (untaken reply.digest)

/-- A round that leaves the view as it was takes none over. -/
theorem untaken_of_same
    (same : (s.gossipWith t knobs peer).2.case.digest = s.case.digest)
    : ∀ d, ¬s.Takes t knobs peer d := by
  rintro _ ⟨_, newer, kept⟩
  rw [kept, Case.digest_withDigest] at same
  exact ne_of_timestamp_lt newer same

/-- Without a file there is nothing to write, so rounds are undisturbed if they leave the view. -/
theorem Undisturbed.of_no_file {rounds : List (Card × Site σ)}
    (quiet : ∀ entry ∈ rounds,
      let after := (entry.2.gossipWith t knobs entry.1).2
      after.case.digest = entry.2.case.digest ∧ after.case.path = none)
    : Undisturbed t knobs clock rounds where
  untaken entry member := untaken_of_same (quiet entry member).1
  written entry member _ := .of_no_file (quiet entry member).2

/-- A round that takes no view over does not say that it does. -/
theorem said_of_untaken (untaken : ∀ d, ¬s.Takes t knobs peer d)
    : (s.gossipWith t knobs peer).1 ≠ .ok true := by
  intro said
  have adopted := adopts_iff.mp (adopts_of_said said)
  exact adopted (congrArg Case.digest (case_of_untaken untaken))

/-- A round that takes no view over marks down what stands under the identity of a peer that it does
not reach, and does nothing else to the case.
-/
theorem case_contact_of_untaken (untaken : ∀ d, ¬s.Takes t knobs peer d) (clock : Int64)
    (report : CatchupReport)
    : (s.contact t knobs clock report peer).2.case
      = if s.misses t knobs peer then
          s.case.withDigest (s.case.digest.setAlive peer.identity false clock)
        else
          s.case := by
  have same := case_of_untaken untaken
  rcases gossiped : s.gossipWith t knobs peer with ⟨e | _ | _, next⟩ <;> rw [gossiped] at same
  · have marked : (next.markDown peer.identity clock).2.case
        = s.case.withDigest (s.case.digest.setAlive peer.identity false clock) :=
      same ▸ Case.case_markDown next.case peer.identity clock next.disk
    cases unreachable : e.isConnection with
    | true =>
        simp only [contact, misses, gossiped, unreachable, if_true]
        rcases down : next.markDown peer.identity clock with ⟨_ | _, last⟩ <;>
          (rw [down] at marked; exact marked)
    | false => simpa [contact, misses, gossiped, unreachable] using same
  · simpa [contact, misses, gossiped] using same
  · simpa [contact, misses, gossiped] using same

/-- Such a round is counted as what it is, if the mark can be written. -/
theorem report_contact_of_untaken (untaken : ∀ d, ¬s.Takes t knobs peer d)
    (written : Unreached t knobs peer s
      → let after := (s.gossipWith t knobs peer).2
        after.case.Writes clock after.disk (.markDown peer.identity))
    (report : CatchupReport)
    : (s.contact t knobs clock report peer).1
      = ⟨report.contacted + 1,
          report.merged,
          report.markedDown + (s.misses t knobs peer).toNat,
          report.failed + (s.fails t knobs peer).toNat⟩ := by
  have said := said_of_untaken untaken
  rw [← misses_iff] at written
  rcases gossiped : s.gossipWith t knobs peer with ⟨e | _ | _, next⟩
  · cases unreachable : e.isConnection with
    | true =>
        have missed : s.misses t knobs peer = true := by simp [misses, gossiped, unreachable]
        have marked : (next.markDown peer.identity clock).1 = .ok _ :=
          (gossiped ▸ written missed).markDown
        rcases down : next.markDown peer.identity clock with ⟨_ | _, last⟩
        · rw [down] at marked
          cases marked
        · simp [contact, misses, fails, gossiped, unreachable, down]
    | false => simp [contact, misses, fails, gossiped, unreachable]
  · simp [contact, misses, fails, gossiped]
  · exact absurd (congrArg Prod.fst gossiped) said

/-- Rounds that take no view over mark down the identities of the peers that they do not reach, and
do nothing else to the case, by induction on the peers.
-/
theorem case_contactEach_of_untaken {peers : List Card}
    (untaken : ∀ entry ∈ s.begun t knobs clock peers, ∀ d, ¬entry.2.Takes t knobs entry.1 d)
    (report : CatchupReport)
    : let keys := (missed t knobs (s.begun t knobs clock peers)).map Card.identity
      (s.contactEach t knobs clock peers report).2.case
      = s.case.withDigest (s.case.digest.markAllDown keys clock) := by
  induction peers generalizing s report with
  | nil => rfl
  | cons peer rest ih =>
      obtain ⟨first, others⟩ := List.forall_mem_cons.mp untaken
      have here := case_contact_of_untaken first clock .empty
      simp only [contactEach, (contact_spec t knobs clock report peer s).1, ih others, here]
      cases unreachable : s.misses t knobs peer with
      | true => simp [missed, begun, unreachable, Digest.markAllDown, Case.withDigest, Case.digest]
      | false => simp [missed, begun, unreachable]

/-- They are counted as what they are, by induction on the peers. -/
theorem report_contactEach_of_undisturbed {peers : List Card}
    (undisturbed : Undisturbed t knobs clock (s.begun t knobs clock peers))
    (report : CatchupReport)
    : let rounds := s.begun t knobs clock peers
      (s.contactEach t knobs clock peers report).1
      = ⟨report.contacted + peers.length,
          report.merged,
          report.markedDown + (missed t knobs rounds).length,
          report.failed + rounds.countP fun entry => entry.2.fails t knobs entry.1⟩ := by
  induction peers generalizing s report with
  | nil => rfl
  | cons peer rest ih =>
      obtain ⟨first, others⟩ := List.forall_mem_cons.mp undisturbed.untaken
      obtain ⟨mark, marks⟩ := List.forall_mem_cons.mp undisturbed.written
      have here := report_contact_of_untaken first mark report
      have later := ih ⟨others, marks⟩
      simp only [contactEach, (contact_spec t knobs clock report peer s).1, later, here]
      cases unreachable : s.misses t knobs peer <;> cases failed : s.fails t knobs peer <;>
        simp [missed, begun, unreachable, failed, Nat.add_assoc, Nat.add_comm 1]

theorem map_fst_begun (t : Transport σ) (knobs : Knobs) (clock : Int64) (peers : List Card)
    (s : Site σ)
    : (s.begun t knobs clock peers).map Prod.fst = peers := by
  induction peers generalizing s with
  | nil => rfl
  | cons peer rest ih => rw [begun, List.map_cons, ih]

/-- What a catchup does that takes no view over. -/
theorem catchup_of_undisturbed {round : UInt64}
    (undisturbed : Undisturbed t knobs clock
      (s.begun t knobs clock (s.contacted t knobs clock round)))
    : let contacted := s.contacted t knobs clock round
      let rounds := s.begun t knobs clock contacted
      (s.catchup t knobs clock round).1
        = ⟨contacted.length,
            0,
            (missed t knobs rounds).length,
            rounds.countP fun entry => entry.2.fails t knobs entry.1⟩
      ∧ (s.catchup t knobs clock round).2.2.case
        = s.case.withDigest
            (s.case.digest.markAllDown ((missed t knobs rounds).map Card.identity) clock) := by
  obtain ⟨next, caught⟩ := catchup_eq t knobs clock round s
  rw [← (contacted_spec t knobs clock round s).1] at caught
  simp only [caught, case_contactEach_of_untaken undisturbed.untaken,
    report_contactEach_of_undisturbed undisturbed, CatchupReport.empty, Nat.zero_add, and_self]

/-- A round misses its peer, fails otherwise, or comes to its end. -/
theorem length_rounds (t : Transport σ) (knobs : Knobs) (rounds : List (Card × Site σ))
    : rounds.length
      = (missed t knobs rounds).length
        + (rounds.countP fun entry => entry.2.fails t knobs entry.1)
        + rounds.countP fun entry => entry.2.completes t knobs entry.1 := by
  induction rounds with
  | nil => rfl
  | cons entry rest ih =>
      simp only [length_missed, List.length_cons, List.countP_cons] at ih ⊢
      unfold misses fails completes at *
      rcases (entry.2.gossipWith t knobs entry.1).1 with e | _
      · cases unreachable : e.isConnection <;> simp [unreachable] <;> omega
      · simp
        omega

/-- Where all are alive there is no one to remove. -/
theorem clean_of_nobody (nobody : s.case.digest.dead = []) (clock : Int64)
    : s.clean clock = (.ok [], s) := by
  simp [clean, Case.clean, nobody]

/-- The cleaning of a node that can write its case. -/
theorem clean_spec (writes : s.case.Writes clock s.disk .clean)
    : let cleaned := (s.clean clock).2
      (s.clean clock).1 = .ok (s.case.peers.filter fun card => !card.alive)
      ∧ cleaned.case = s.case.withDigest (s.case.digest.removeDead clock)
      ∧ ∀ again, cleaned.clean again = (.ok [], cleaned) := by
  have view := Case.case_clean s.case clock s.disk
  refine ⟨writes.clean, view, clean_of_nobody ?_⟩
  exact (congrArg (fun c => c.digest.dead) view).trans (Digest.dead_removeDead _ _)

end Site

end TaskFabric
