import TaskFabric.Catchup
import TaskFabric.Proofs.Gossip.PrefixMaxima
import TaskFabric.Proofs.Gossip.Traffic
import TaskFabric.Script

/-! What a catchup reports of the views that it adopts. A round can adopt a view with either of the
two replies that it gets, but it tells only of the first one, and only if it comes to its end.
-/

namespace TaskFabric

-----------------------------------------------------------------------------------------
-- Adoption
-----------------------------------------------------------------------------------------

namespace Case

/-- Whether a case takes the view of a message in the place of its own one. -/
def adopts (c : Case) (m : Message) : Bool :=
  (c.validate m matches .ok ()) && m.type.merges && m.digest.isNewerThan c.digest

theorem exists_reply_of_merges {type : MessageType} (merges : type.merges = true)
    : ∃ reply, type.reply? = some reply := by
  cases type with
  | sync => exact ⟨.ack, rfl⟩
  | ack => exact ⟨.ack2, rfl⟩
  | ack2 | ack3 | unknown _ _ => cases merges

/-- Handling a message changes a case only by adopting the view of the message. -/
theorem exchange_case (c : Case) (m : Message) (disk : Disk)
    : (c.exchange m disk).2.1 = if c.adopts m then c.withDigest m.digest else c := by
  cases checked : c.validate m with
  | error e => simp [exchange, adopts, checked]
  | ok _ =>
      cases merges : m.type.merges with
      | true =>
          obtain ⟨type, reply⟩ := exists_reply_of_merges merges
          rw [exchange_of_merges checked merges reply]
          simp only [adopts, checked, merges, Bool.true_and, Digest.merge]
          split <;> rfl
      | false =>
          have never : c.adopts m = false := by simp [adopts, merges]
          simp only [exchange, checked, merges, never]
          split
          · split <;> rfl
          · rfl

/-- A case that adopts a view goes on with the round. -/
theorem exchange_of_adopts {c : Case} {m : Message} (adopts : c.adopts m = true) (disk : Disk)
    : ∃ type, (c.exchange m disk).1 = some ((c.withDigest m.digest).message m.sender type) := by
  have spec := c.exchange_case m disk
  simp only [Case.adopts, Bool.and_eq_true] at adopts
  obtain ⟨⟨valid, merges⟩, newer⟩ := adopts
  obtain ⟨type, reply⟩ := exists_reply_of_merges merges
  cases checked : c.validate m with
  | error e => simp [checked] at valid
  | ok _ =>
      refine ⟨type, ?_⟩
      rw [exchange_of_merges checked merges reply, Digest.merge, if_pos newer]

theorem timestamp_lt_of_adopts {c : Case} {m : Message} (adopts : c.adopts m = true)
    : c.digest.timestamp < m.digest.timestamp := by
  simp only [Case.adopts, Bool.and_eq_true] at adopts
  exact of_decide_eq_true adopts.2

end Case

namespace Site

variable {σ : Type} {t : Transport σ} {knobs : Knobs} {peer : Card} {s : Site σ}

theorem case_of_call {m : Message} {answer : Except ClusterError (Option Message)} {next : Site σ}
    (called : s.call t knobs peer m = (answer, next))
    : next.case = s.case := by
  unfold call at called
  split at called <;> (cases called; rfl)

theorem case_handle (s : Site σ) (m : Message)
    : (s.handle m).2.case = if s.case.adopts m then s.case.withDigest m.digest else s.case :=
  s.case.exchange_case m s.disk

/-- A node that gives no reply that the round could go on with has adopted nothing. -/
theorem case_of_handle {m : Message} {reply : Option Message} {next : Site σ}
    (handled : s.handle m = (reply, next))
    (ends : ∀ answer, reply = some answer → answer.checkStatus ≠ .ok ())
    : next.case = s.case := by
  have spec := s.case_handle m
  rw [handled] at spec
  split at spec
  · next adopts =>
      obtain ⟨type, answered⟩ := Case.exchange_of_adopts adopts s.disk
      have same : reply = some ((s.case.withDigest m.digest).message m.sender type) :=
        (congrArg Prod.fst handled).symm.trans answered
      exact absurd rfl (ends _ same)
  · exact spec

-----------------------------------------------------------------------------------------
-- Courses of a round
-----------------------------------------------------------------------------------------

/-- The first reply of a round has been handled, and a message is due in return. -/
inductive FirstHalf (t : Transport σ) (knobs : Knobs) (peer : Card) (s : Site σ)
    : Message → Message → Site σ → Prop
  | handled {ack ack2 asked told}
    (came : s.call t knobs peer (s.case.message peer .sync) = (.ok (some ack), asked))
    (ackOk : ack.checkStatus = .ok ()) (type : ack.type = .ack)
    (answered : asked.handle ack = (some ack2, told)) (ack2Ok : ack2.checkStatus = .ok ())
    : FirstHalf t knobs peer s ack ack2 told

/-- What comes of a round. It ends early and leaves the case as it was, or its first reply is
handled and something comes of the second call.
-/
inductive Course (t : Transport σ) (knobs : Knobs) (peer : Card) (s : Site σ)
    : Except ClusterError Bool × Site σ → Prop
  | ended {e next} (same : next.case = s.case) : Course t knobs peer s (.error e, next)
  | cut {ack ack2 told e next} (half : FirstHalf t knobs peer s ack ack2 told)
    (broken : told.call t knobs peer ack2 = (.error e, next))
    : Course t knobs peer s (.error e, next)
  | refused {ack ack2 told ack3 e next} (half : FirstHalf t knobs peer s ack ack2 told)
    (came : told.call t knobs peer ack2 = (.ok (some ack3), next))
    (refusal : ack3.checkStatus = .error e)
    : Course t knobs peer s (.error e, next)
  | silent {ack ack2 told next} (half : FirstHalf t knobs peer s ack ack2 told)
    (came : told.call t knobs peer ack2 = (.ok none, next))
    : Course t knobs peer s (.ok (told.case.digest.timestamp != s.case.digest.timestamp), next)
  | closed {ack ack2 told ack3 next} (half : FirstHalf t knobs peer s ack ack2 told)
    (came : told.call t knobs peer ack2 = (.ok (some ack3), next))
    (ack3Ok : ack3.checkStatus = .ok ())
    : Course t knobs peer s
        (.ok (told.case.digest.timestamp != s.case.digest.timestamp), (next.handle ack3).2)

theorem checkStatus_eq_ok {m : Message} {e : Unit} (checked : m.checkStatus = .ok e)
    : m.status.code = .ok := by
  unfold Message.checkStatus at checked
  cases code : m.status.code <;> simp [code] at checked ⊢

/-- With the first reply the node takes in the newer one of the two views. -/
theorem FirstHalf.case_eq {ack ack2 : Message} {told : Site σ}
    (half : FirstHalf t knobs peer s ack ack2 told)
    : told.case = s.case.withDigest (s.case.digest.merge ack.digest) := by
  cases half with
  | handled came ackOk type answered ack2Ok =>
      rename_i asked
      have same := case_of_call came
      have handled : asked.case.exchange ack asked.disk = (some ack2, told.case, told.disk) := by
        simp only [handle, Prod.mk.injEq] at answered
        obtain ⟨reply, rfl⟩ := answered
        exact Prod.ext reply rfl
      rw [← same]
      exact Case.eq_of_exchange handled (checkStatus_eq_ok ack2Ok) (by rw [type]; rfl)

theorem course_gossipWith (t : Transport σ) (knobs : Knobs) (peer : Card) (s : Site σ)
    : Course t knobs peer s (s.gossipWith t knobs peer) := by
  unfold gossipWith
  rcases came : s.call t knobs peer (s.case.message peer .sync) with ⟨_ | _ | ack, asked⟩
  · exact .ended (case_of_call came)
  · exact .ended (case_of_call came)
  · have same := case_of_call came
    cases ackOk : ack.checkStatus with
    | error e => simpa only [ackOk] using .ended same
    | ok _ =>
        by_cases type : ack.type = .ack
        · rcases answered : asked.handle ack with ⟨_ | ack2, told⟩
          · have kept : told.case = s.case := same ▸ case_of_handle answered (by simp)
            simpa only [ackOk, type, ne_eq, not_true_eq_false, if_false, answered] using .ended kept
          · cases ack2Ok : ack2.checkStatus with
            | error e =>
                have kept : told.case = s.case := by
                  refine same ▸ case_of_handle answered ?_
                  intro reply equal
                  rw [← Option.some.inj equal, ack2Ok]
                  simp
                simpa only [ackOk, type, ne_eq, not_true_eq_false, if_false, answered, ack2Ok]
                  using .ended kept
            | ok _ =>
                have half : FirstHalf t knobs peer s ack ack2 told :=
                  .handled came ackOk type answered ack2Ok
                simp only [ackOk, type, ne_eq, not_true_eq_false, if_false, answered, ack2Ok,
                  finishRound]
                rcases again : told.call t knobs peer ack2 with ⟨_ | _ | ack3, next⟩
                · exact .cut half again
                · exact .silent half again
                · cases ack3Ok : ack3.checkStatus with
                  | error e => simpa only [ack3Ok] using .refused half again ack3Ok
                  | ok _ => simpa only [ack3Ok] using .closed half again ack3Ok
        · simpa only [ackOk, ne_eq, type, not_false_eq_true, if_true] using .ended same

-----------------------------------------------------------------------------------------
-- What a round adopts and what it tells
-----------------------------------------------------------------------------------------

/-- A reply came back for one of the two messages that a round sends. -/
inductive Replied (t : Transport σ) (knobs : Knobs) (peer : Card) (s : Site σ) : Message → Prop
  | first {ack asked}
    (came : s.call t knobs peer (s.case.message peer .sync) = (.ok (some ack), asked))
    : Replied t knobs peer s ack
  | last {ack ack2 told ack3 next} (half : FirstHalf t knobs peer s ack ack2 told)
    (came : told.call t knobs peer ack2 = (.ok (some ack3), next))
    : Replied t knobs peer s ack3

/-- A round adopts a view and does not say so. The second call fails behind the adoption, or its
reply refuses the round, or the view comes only with that last reply.
-/
inductive Unreported (t : Transport σ) (knobs : Knobs) (peer : Card) (s : Site σ) : Prop
  | cut {ack ack2 told e next} (half : FirstHalf t knobs peer s ack ack2 told)
    (newer : s.case.digest.timestamp < ack.digest.timestamp)
    (broken : told.call t knobs peer ack2 = (.error e, next))
    : Unreported t knobs peer s
  | refused {ack ack2 told ack3 e next} (half : FirstHalf t knobs peer s ack ack2 told)
    (newer : s.case.digest.timestamp < ack.digest.timestamp)
    (came : told.call t knobs peer ack2 = (.ok (some ack3), next))
    (refusal : ack3.checkStatus = .error e)
    : Unreported t knobs peer s
  | late {ack ack2 told ack3 next} (half : FirstHalf t knobs peer s ack ack2 told)
    (known : ack.digest.timestamp ≤ s.case.digest.timestamp)
    (came : told.call t knobs peer ack2 = (.ok (some ack3), next))
    (ack3Ok : ack3.checkStatus = .ok ()) (adopts : next.case.adopts ack3 = true)
    : Unreported t knobs peer s

variable {ack ack2 : Message} {told : Site σ}

theorem FirstHalf.replied (half : FirstHalf t knobs peer s ack ack2 told)
    : Replied t knobs peer s ack := by
  cases half with
  | handled came _ _ _ _ => exact .first came

theorem FirstHalf.cases (half : FirstHalf t knobs peer s ack ack2 told)
    : s.case.digest.timestamp < ack.digest.timestamp ∧ told.case = s.case.withDigest ack.digest
      ∨ ack.digest.timestamp ≤ s.case.digest.timestamp ∧ told.case = s.case := by
  have taken := half.case_eq
  rcases s.case.digest.merge_cases ack.digest with ⟨newer, same⟩ | ⟨known, same⟩
  · exact .inl ⟨newer, same ▸ taken⟩
  · refine .inr ⟨known, ?_⟩
    rw [taken, same]
    rfl

/-- The flag of a round tells whether the first reply was newer. -/
theorem FirstHalf.flag_eq (half : FirstHalf t knobs peer s ack ack2 told)
    : (told.case.digest.timestamp != s.case.digest.timestamp)
      = decide (s.case.digest.timestamp < ack.digest.timestamp) := by
  rw [half.case_eq]
  exact timestamp_merge_bne _ _

theorem FirstHalf.gossipWith_eq (half : FirstHalf t knobs peer s ack ack2 told)
    : s.gossipWith t knobs peer
      = told.finishRound t knobs peer ack2
          (decide (s.case.digest.timestamp < ack.digest.timestamp)) := by
  have flag := half.flag_eq
  cases half with
  | handled came ackOk type answered ack2Ok =>
      simp only [gossipWith, came, ackOk, type, ne_eq, not_true_eq_false, if_false, answered,
        ack2Ok, flag]

/-- A round leaves the case alone or gives it the view of a reply that is newer. -/
theorem case_gossipWith (t : Transport σ) (knobs : Knobs) (peer : Card) (s : Site σ)
    : (s.gossipWith t knobs peer).2.case = s.case
      ∨ ∃ reply,
          Replied t knobs peer s reply
          ∧ s.case.digest.timestamp < reply.digest.timestamp
          ∧ (s.gossipWith t knobs peer).2.case = s.case.withDigest reply.digest := by
  have course := course_gossipWith t knobs peer s
  -- The first reply is adopted if it is newer.
  have first {ack ack2 : Message} {told next : Site σ}
      (half : FirstHalf t knobs peer s ack ack2 told) (same : next.case = told.case)
      : next.case = s.case
        ∨ ∃ reply,
            Replied t knobs peer s reply
            ∧ s.case.digest.timestamp < reply.digest.timestamp
            ∧ next.case = s.case.withDigest reply.digest := by
    rcases half.cases with ⟨newer, taken⟩ | ⟨_, kept⟩
    · exact .inr ⟨ack, half.replied, newer, same.trans taken⟩
    · exact .inl (same.trans kept)
  generalize s.gossipWith t knobs peer = result at course
  cases course with
  | ended same => exact .inl same
  | cut half broken => exact first half (case_of_call broken)
  | refused half came _ => exact first half (case_of_call came)
  | silent half came => exact first half (case_of_call came)
  | @closed ack ack2 told ack3 next half came ack3Ok =>
      have same := case_of_call came
      simp only [case_handle]
      split
      · next adopts =>
          have later := Case.timestamp_lt_of_adopts adopts
          rw [same] at later ⊢
          refine .inr ⟨ack3, .last half came, ?_, ?_⟩
          · rcases half.cases with ⟨newer, taken⟩ | ⟨_, kept⟩
            · rw [taken] at later
              exact UInt64.lt_trans newer later
            · rwa [kept] at later
          · rcases half.cases with ⟨_, taken⟩ | ⟨_, kept⟩
            · rw [taken]
              rfl
            · rw [kept]
      · exact first half same

/-- Whether a round leaves another view than it found. -/
def adopts (t : Transport σ) (knobs : Knobs) (peer : Card) (s : Site σ) : Bool :=
  (s.gossipWith t knobs peer).2.case.digest != s.case.digest

theorem ne_of_timestamp_lt {d other : Digest} (newer : d.timestamp < other.timestamp)
    : other ≠ d := by
  rintro rfl
  exact UInt64.lt_irrefl _ newer

/-- What a round of each kind says and whether it adopts a view, for those that do not say so. -/
theorem Unreported.spec (silence : Unreported t knobs peer s)
    : (s.gossipWith t knobs peer).1 ≠ .ok true ∧ s.adopts t knobs peer = true := by
  cases silence with
  | cut half newer broken =>
      have told := half.cases.resolve_right fun known => UInt64.not_lt.mpr known.1 newer
      have same := case_of_call broken
      simp only [adopts, half.gossipWith_eq, finishRound, broken, same, told.2,
        Case.digest_withDigest, bne_iff_ne, ne_eq]
      exact ⟨by simp, ne_of_timestamp_lt newer⟩
  | refused half newer came refusal =>
      have told := half.cases.resolve_right fun known => UInt64.not_lt.mpr known.1 newer
      have same := case_of_call came
      simp only [adopts, half.gossipWith_eq, finishRound, came, refusal, same, told.2,
        Case.digest_withDigest, bne_iff_ne, ne_eq]
      exact ⟨by simp, ne_of_timestamp_lt newer⟩
  | late half known came ack3Ok adopts =>
      have told := half.cases.resolve_left fun newer => UInt64.not_lt.mpr known newer.1
      have same := (case_of_call came).trans told.2
      have later := Case.timestamp_lt_of_adopts adopts
      rw [same] at later
      simp only [Site.adopts, half.gossipWith_eq, finishRound, came, ack3Ok, case_handle, adopts,
        if_true, Case.digest_withDigest, bne_iff_ne, ne_eq]
      exact ⟨by simpa using known, ne_of_timestamp_lt later⟩

/-- Handling a message never makes a view older. -/
theorem timestamp_le_handle (s : Site σ) (m : Message)
    : s.case.digest.timestamp ≤ (s.handle m).2.case.digest.timestamp := by
  rw [case_handle]
  split
  · next adopts => exact UInt64.le_of_lt (Case.timestamp_lt_of_adopts adopts)
  · exact UInt64.le_refl _

/-- A round that says that it adopts a view does so, by cases on its course. -/
theorem adopts_of_said (said : (s.gossipWith t knobs peer).1 = .ok true)
    : s.adopts t knobs peer = true := by
  have course := course_gossipWith t knobs peer s
  -- The flag is set only if the first reply was newer, and the view gets no older behind it.
  have newer {ack ack2 : Message} {told next : Site σ}
      (half : FirstHalf t knobs peer s ack ack2 told)
      (flag : (told.case.digest.timestamp != s.case.digest.timestamp) = true)
      (later : told.case.digest.timestamp ≤ next.case.digest.timestamp)
      : next.case.digest ≠ s.case.digest := by
    rw [half.flag_eq] at flag
    have first := of_decide_eq_true flag
    have taken := half.cases.resolve_right fun known => UInt64.not_lt.mpr known.1 first
    rw [taken.2] at later
    exact ne_of_timestamp_lt (UInt64.lt_of_lt_of_le first later)
  unfold adopts
  generalize s.gossipWith t knobs peer = result at course said
  cases course with
  | ended _ | cut _ _ | refused _ _ _ => cases said
  | silent half came =>
      have same := case_of_call came
      simpa using newer half (Except.ok.inj said) (same ▸ UInt64.le_refl _)
  | @closed ack ack2 told ack3 next half came _ =>
      have same := case_of_call came
      simpa using newer half (Except.ok.inj said) (same ▸ timestamp_le_handle next ack3)

/-- A round that adopts a view says so or is one of those that do not, by cases on its course. -/
theorem said_or_unreported (adopted : s.adopts t knobs peer = true)
    : (s.gossipWith t knobs peer).1 = .ok true ∨ Unreported t knobs peer s := by
  have course := course_gossipWith t knobs peer s
  unfold adopts at adopted
  generalize s.gossipWith t knobs peer = result at course adopted
  have changed : result.2.case ≠ s.case := fun same => by simp [same] at adopted
  cases course with
  | ended same => exact absurd same changed
  | cut half broken =>
      rcases half.cases with ⟨newer, _⟩ | ⟨_, kept⟩
      · exact .inr (.cut half newer broken)
      · exact absurd ((case_of_call broken).trans kept) changed
  | refused half came refusal =>
      rcases half.cases with ⟨newer, _⟩ | ⟨_, kept⟩
      · exact .inr (.refused half newer came refusal)
      · exact absurd ((case_of_call came).trans kept) changed
  | silent half came =>
      rcases half.cases with ⟨newer, _⟩ | ⟨_, kept⟩
      · exact .inl (by simp [half.flag_eq, newer])
      · exact absurd ((case_of_call came).trans kept) changed
  | @closed ack ack2 told ack3 next half came ack3Ok =>
      rcases half.cases with ⟨newer, _⟩ | ⟨known, kept⟩
      · exact .inl (by simp [half.flag_eq, newer])
      · cases adopts : next.case.adopts ack3 with
        | true => exact .inr (.late half known came ack3Ok adopts)
        | false =>
            have still : (next.handle ack3).2.case = next.case := by simp [case_handle, adopts]
            exact absurd (still.trans ((case_of_call came).trans kept)) changed

-----------------------------------------------------------------------------------------
-- Reports of catchups
-----------------------------------------------------------------------------------------

/-- The rounds with some peers, one after another: each peer with the node as its round finds it. -/
def begun (t : Transport σ) (knobs : Knobs) (clock : Int64)
    : List Card → Site σ → List (Card × Site σ)
  | [], _ => []
  | peer :: rest, s =>
      (peer, s) :: begun t knobs clock rest (s.contact t knobs clock .empty peer).2

/-- Whether a round says that it adopts a view. -/
def reports (t : Transport σ) (knobs : Knobs) (peer : Card) (s : Site σ) : Bool :=
  (s.gossipWith t knobs peer).1 matches .ok true

theorem reports_iff : s.reports t knobs peer = true ↔ (s.gossipWith t knobs peer).1 = .ok true := by
  unfold reports
  split <;> simp_all

/-- A round goes as it goes whatever was reported before, and adds at most one to what is. -/
theorem contact_spec (t : Transport σ) (knobs : Knobs) (clock : Int64) (report : CatchupReport)
    (peer : Card) (s : Site σ)
    : (s.contact t knobs clock report peer).2 = (s.contact t knobs clock .empty peer).2
      ∧ (s.contact t knobs clock report peer).1.merged
        = report.merged + (s.reports t knobs peer).toNat := by
  unfold contact reports
  rcases s.gossipWith t knobs peer with ⟨e | _ | _, next⟩
  · by_cases unreachable : e.isConnection
    · rcases down : next.markDown peer.identity clock with ⟨_ | _, _⟩ <;>
        simp [unreachable, down]
    · simp [unreachable]
  · simp
  · simp

/-- The report counts the rounds that say that they adopt a view, by induction on the peers. -/
theorem merged_contactEach (t : Transport σ) (knobs : Knobs) (clock : Int64) (peers : List Card)
    (report : CatchupReport) (s : Site σ)
    : (s.contactEach t knobs clock peers report).1.merged
      = report.merged
        + (s.begun t knobs clock peers).countP fun entry => entry.2.reports t knobs entry.1 := by
  induction peers generalizing report s with
  | nil => rfl
  | cons peer rest ih =>
      obtain ⟨next, merged⟩ := contact_spec t knobs clock report peer s
      simp only [contactEach, begun, List.countP_cons]
      rw [ih, next, merged]
      cases s.reports t knobs peer <;> simp; omega

theorem adopts_iff : s.adopts t knobs peer = true
    ↔ (s.gossipWith t knobs peer).2.case.digest ≠ s.case.digest := by
  simp [adopts]

theorem unreported_iff
    : Unreported t knobs peer s
      ↔ s.adopts t knobs peer = true ∧ (s.gossipWith t knobs peer).1 ≠ .ok true := by
  constructor
  · exact fun silence => silence.spec.symm
  · rintro ⟨adopted, silent⟩
    exact (said_or_unreported adopted).resolve_left silent

/-- How many of some rounds adopt a view. -/
def adoptions (t : Transport σ) (knobs : Knobs) (rounds : List (Card × Site σ)) : Nat :=
  rounds.countP fun entry => entry.2.adopts t knobs entry.1

/-- The rounds that say that they adopt are no more than those that do, and as many only if none
keeps it back, by induction on the rounds.
-/
theorem countP_reports_spec (rounds : List (Card × Site σ))
    : (rounds.countP fun entry => entry.2.reports t knobs entry.1) ≤ adoptions t knobs rounds
      ∧ ((rounds.countP fun entry => entry.2.reports t knobs entry.1) = adoptions t knobs rounds
          ↔ ∀ entry ∈ rounds, ¬Unreported t knobs entry.1 entry.2) := by
  induction rounds with
  | nil => simp [adoptions]
  | cons entry rest ih =>
      have honest (said : entry.2.reports t knobs entry.1 = true)
          : entry.2.adopts t knobs entry.1 = true :=
        adopts_of_said (reports_iff.mp said)
      simp only [adoptions, List.countP_cons, List.forall_mem_cons] at ih ⊢
      obtain ⟨bound, equal⟩ := ih
      rw [← equal, unreported_iff, ne_eq, ← reports_iff]
      cases said : entry.2.reports t knobs entry.1 with
      | true => simp [honest said, bound]
      | false => cases entry.2.adopts t knobs entry.1 <;> simp <;> omega

/-- A round adopts no view but that of a newer reply, and it says so unless it is cut short or
refused behind the adoption, or adopts the view only with its last reply. So the report of a
catchup counts the rounds that adopt a view exactly if there is no such round among them, and never
counts more, whatever the peers and the network do.
-/
theorem adoption_reported_iff (t : Transport σ) (knobs : Knobs) (clock : Int64) (round : UInt64)
    (s : Site σ)
    : let rounds := s.begun t knobs clock (s.case.contacts knobs.fanout round)
      let report := (s.catchup t knobs clock round).1
      (∀ (peer : Card) (site : Site σ),
        ((site.gossipWith t knobs peer).2.case = site.case
          ∨ ∃ reply,
              Replied t knobs peer site reply
              ∧ site.case.digest.timestamp < reply.digest.timestamp
              ∧ (site.gossipWith t knobs peer).2.case = site.case.withDigest reply.digest)
        ∧ ((site.gossipWith t knobs peer).1 = .ok true
            → (site.gossipWith t knobs peer).2.case.digest ≠ site.case.digest)
        ∧ (((site.gossipWith t knobs peer).1 = .ok true
              ↔ (site.gossipWith t knobs peer).2.case.digest ≠ site.case.digest)
            ↔ ¬Unreported t knobs peer site))
      ∧ report.merged ≤ adoptions t knobs rounds
      ∧ (report.merged = adoptions t knobs rounds
          ↔ ∀ entry ∈ rounds, ¬Unreported t knobs entry.1 entry.2) := by
  intro rounds report
  refine ⟨?_, ?_⟩
  · intro peer site
    have honest (said : (site.gossipWith t knobs peer).1 = .ok true)
        : site.adopts t knobs peer = true :=
      adopts_of_said said
    rw [unreported_iff, ← adopts_iff]
    refine ⟨case_gossipWith t knobs peer site, honest, ?_⟩
    constructor
    · rintro same ⟨adopted, silent⟩
      exact silent (same.mpr adopted)
    · intro reported
      refine ⟨honest, fun adopted => ?_⟩
      by_contra silent
      exact reported ⟨adopted, silent⟩
  · obtain ⟨next, caught⟩ := catchup_eq t knobs clock round s
    have counted := merged_contactEach t knobs clock (s.case.contacts knobs.fanout round) .empty s
    have merged : report.merged = rounds.countP fun entry => entry.2.reports t knobs entry.1 :=
      (congrArg (fun result => result.1.merged) caught).trans (counted.trans (Nat.zero_add _))
    rw [merged]
    exact countP_reports_spec rounds

/-- A node with one peer, whose answers are laid down. -/
def answeredBy (answers : List (Answer (Option Message))) : Site Script where
  case :=
    Case.start "office" (Card.ofAddress "127.0.0.1" 1) [Card.ofAddress "127.0.0.1" 2] 1700000000
  disk := .empty
  network := ⟨answers, ∅, []⟩
  waited := 0

/-- A message of that peer, of the type of a first reply, with a view of some second. -/
def reply (clock : Int64) : Message where
  cluster := "office"
  sender := Card.ofAddress "127.0.0.1" 2
  addressee := Card.ofAddress "127.0.0.1" 1
  digest := Digest.ofCards [Card.ofAddress "127.0.0.1" 2] clock
  status := .ok
  type := .ack

/-- A view that comes with the last reply is adopted and not counted, and neither is one that comes
with the first reply if the second call fails.
-/
theorem late_and_cut_adoptions_are_unreported
    : let knobs : Knobs := ⟨1, .ofMillis 1000, .ofMillis 1000, .ofMillis 1000⟩
      let late := answeredBy [.reply (some (reply 5)), .reply (some (reply 1800000000))]
      let cut := answeredBy
        [.reply (some (reply 1800000000)), .failure (.connection "gone")]
      (late.catchup Script.transport knobs 1700000000 0).1 = ⟨1, 0, 0, 0⟩
      ∧ (late.catchup Script.transport knobs 1700000000 0).2.2.case.digest
        = (reply 1800000000).digest
      ∧ late.case.digest ≠ (reply 1800000000).digest
      ∧ (cut.catchup Script.transport knobs 1700000000 0).1 = ⟨1, 0, 1, 0⟩
      ∧ (cut.gossipWith Script.transport knobs (Card.ofAddress "127.0.0.1" 2)).2.case.digest
        = (reply 1800000000).digest := by
  decide

end Site

end TaskFabric
