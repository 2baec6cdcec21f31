import TaskFabric.Case

/-! Rounds of gossip between two cases. Whatever the round finds, each side ends it with the newer
of the two views, and with its own if both are equally old.
-/

namespace TaskFabric

-----------------------------------------------------------------------------------------
-- The newer of two views
-----------------------------------------------------------------------------------------

namespace Digest

theorem merge_eq_of_lt {d other : Digest} (newer : d.timestamp < other.timestamp)
    : d.merge other = other := by
  simp [merge, isNewerThan, newer]

theorem merge_eq_of_le {d other : Digest} (known : other.timestamp ≤ d.timestamp)
    : d.merge other = d := by
  have notNewer : ¬d.timestamp < other.timestamp := UInt64.not_lt.mpr known
  simp [merge, isNewerThan, notNewer]

@[simp]
theorem merge_self (d : Digest) : d.merge d = d := merge_eq_of_le (UInt64.le_refl _)

theorem merge_cases (d other : Digest)
    : d.timestamp < other.timestamp ∧ d.merge other = other
      ∨ other.timestamp ≤ d.timestamp ∧ d.merge other = d := by
  by_cases newer : d.timestamp < other.timestamp
  · exact .inl ⟨newer, merge_eq_of_lt newer⟩
  · have known := UInt64.not_lt.mp newer
    exact .inr ⟨known, merge_eq_of_le known⟩

/-- What a view has been merged into brings nothing new. -/
theorem merge_merge (d other : Digest) : d.merge (other.merge d) = d.merge other := by
  rcases other.merge_cases d with ⟨newer, same⟩ | ⟨_, same⟩
  · rw [same, merge_self, merge_eq_of_le (UInt64.le_of_lt newer)]
  · rw [same]

end Digest

namespace Case

-----------------------------------------------------------------------------------------
-- Messages
-----------------------------------------------------------------------------------------

@[simp]
theorem digest_withDigest (c : Case) (d : Digest) : (c.withDigest d).digest = d := rfl

/-- A case adopts the newer of two views, whether or not it can be written. -/
theorem merge_eq (c : Case) (other : Digest) (disk : Disk)
    : (c.merge other disk).2.1 = c.withDigest (c.digest.merge other) := by
  unfold merge Digest.merge
  split
  · next newer =>
      simp only
      split <;> rfl
  · rfl

variable {c : Case} {m : Message}

theorem validate_eq_ok_iff
    : c.validate m = .ok () ↔ m.cluster = c.state.id ∧ c.isLocal m.addressee = true := by
  unfold validate
  split
  · next foreign => simp [foreign]
  · next member =>
      have same : m.cluster = c.state.id := by simpa using member
      split
      · next own => simp [same, own]
      · next other => simp [same, other]

theorem isLocal_own (c : Case) : c.isLocal c.state.own = true := by
  simp [isLocal, Card.sameAs, Card.sameAddress]

/-- A message of the first half of a round is answered with the newer view. -/
theorem exchange_of_merges (valid : c.validate m = .ok ()) (merges : m.type.merges = true)
    {type : MessageType} (reply : m.type.reply? = some type) (disk : Disk)
    : c.exchange m disk
      = (some ((c.withDigest (c.digest.merge m.digest)).message m.sender type),
        c.withDigest (c.digest.merge m.digest), (c.merge m.digest disk).2.2) := by
  simp only [exchange, valid, reply, merges, if_true, merge_eq]

theorem exchange_ack2 (valid : c.validate m = .ok ()) (third : m.type = .ack2) (disk : Disk)
    : c.exchange m disk = (some (c.message m.sender .ack3), c, disk) := by
  simp [exchange, valid, third, MessageType.reply?, MessageType.merges]

theorem exchange_ack3 (valid : c.validate m = .ok ()) (last : m.type = .ack3) (disk : Disk)
    : c.exchange m disk = (none, c, disk) := by
  simp [exchange, valid, last, MessageType.reply?]

theorem code_ofError_ne_ok (e : ClusterError) : (Status.ofError e).code ≠ .ok := by
  cases e <;> simp [Status.ofError]

/-- A reply that refuses nothing shows that the message was meant for the node. -/
theorem validate_of_exchange {reply : Message} {after : Case} {disk later : Disk}
    (answered : c.exchange m disk = (some reply, after, later)) (accepted : reply.status.code = .ok)
    : c.validate m = .ok () := by
  cases checked : c.validate m with
  | ok _ => rfl
  | error e =>
      simp only [exchange, checked, Prod.mk.injEq, Option.some.injEq] at answered
      obtain ⟨rfl, _, _⟩ := answered
      exact absurd accepted (code_ofError_ne_ok e)

-----------------------------------------------------------------------------------------
-- Rounds
-----------------------------------------------------------------------------------------

/-- A completed round between two cases. The first one addresses the second by a card; each message
is answered by the next one, none is refused, and the fourth ends the round.
-/
inductive Round (peer : Card) (a b : Case) : Case → Case → Prop
  | completed {ack ack2 ack3 : Message} {answered told asked ended : Case}
    {d₁ d₂ d₃ d₄ e₁ e₂ e₃ e₄ : Disk}
    (first : b.exchange (a.message peer .sync) d₁ = (some ack, answered, e₁))
    (ackOk : ack.status.code = .ok ∧ ack.type = .ack)
    (second : a.exchange ack d₂ = (some ack2, told, e₂))
    (ack2Ok : ack2.status.code = .ok ∧ ack2.type = .ack2)
    (third : answered.exchange ack2 d₃ = (some ack3, ended, e₃))
    (ack3Ok : ack3.status.code = .ok ∧ ack3.type = .ack3)
    (last : told.exchange ack3 d₄ = (none, asked, e₄))
    : Round peer a b asked ended

/-- Both sides of a round end with the newer view, by going through its messages. -/
theorem Round.spec {peer : Card} {a b asked ended : Case} (round : Round peer a b asked ended)
    : asked = a.withDigest (a.digest.merge b.digest)
      ∧ ended = b.withDigest (b.digest.merge a.digest) := by
  cases round with
  | @completed ack ack2 ack3 answered told asked ended d₁ d₂ d₃ d₄ e₁ e₂ e₃ e₄
      first ackOk second ack2Ok third ack3Ok last =>
      have meant := validate_of_exchange first ackOk.1
      rw [exchange_of_merges meant rfl rfl] at first
      simp only [Prod.mk.injEq, Option.some.injEq] at first
      obtain ⟨rfl, rfl, _⟩ := first
      have answers := validate_of_exchange second ack2Ok.1
      rw [exchange_of_merges answers rfl rfl] at second
      simp only [Prod.mk.injEq, Option.some.injEq] at second
      obtain ⟨rfl, rfl, _⟩ := second
      have told := validate_of_exchange third ack3Ok.1
      rw [exchange_ack2 told rfl] at third
      simp only [Prod.mk.injEq, Option.some.injEq] at third
      obtain ⟨rfl, rfl, _⟩ := third
      -- The last message goes to the card that the first one came from.
      have own : Case.validate (a.withDigest (a.digest.merge (b.digest.merge a.digest)))
          ((b.withDigest (b.digest.merge a.digest)).message a.state.own .ack3) = .ok () := by
        rw [validate_eq_ok_iff] at answers ⊢
        exact ⟨answers.1, a.isLocal_own⟩
      have finished := (exchange_ack3 own rfl d₄).symm.trans last
      simp only [Prod.mk.injEq] at finished
      obtain ⟨_, rfl, _⟩ := finished
      rw [Digest.merge_merge]
      exact ⟨rfl, rfl⟩

/-- The four messages of a round between cases of one cluster, if the second one recognises the card
by which it is addressed.
-/
theorem exchanges {peer : Card} {a b : Case} (cluster : b.state.id = a.state.id)
    (recognised : b.isLocal peer = true)
    : let asked := a.withDigest (a.digest.merge b.digest)
      let ended := b.withDigest (b.digest.merge a.digest)
      (∀ disk,
          b.exchange (a.message peer .sync) disk
          = (some (ended.message a.state.own .ack), ended, (b.merge a.digest disk).2.2))
        ∧ (∀ disk,
          a.exchange (ended.message a.state.own .ack) disk
          = (some (asked.message b.state.own .ack2), asked, (a.merge ended.digest disk).2.2))
        ∧ (∀ disk,
          ended.exchange (asked.message b.state.own .ack2) disk
          = (some (ended.message a.state.own .ack3), ended, disk))
        ∧ ∀ disk,
          asked.exchange (ended.message a.state.own .ack3) disk = (none, asked, disk) := by
  intro asked ended
  have meant : b.validate (a.message peer .sync) = .ok () :=
    validate_eq_ok_iff.mpr ⟨cluster.symm, recognised⟩
  have answers : a.validate (ended.message a.state.own .ack) = .ok () :=
    validate_eq_ok_iff.mpr ⟨cluster, a.isLocal_own⟩
  have told : ended.validate (asked.message b.state.own .ack2) = .ok () :=
    validate_eq_ok_iff.mpr ⟨cluster.symm, b.isLocal_own⟩
  have own : asked.validate (ended.message a.state.own .ack3) = .ok () :=
    validate_eq_ok_iff.mpr ⟨cluster, a.isLocal_own⟩
  refine ⟨fun disk => exchange_of_merges meant rfl rfl disk, ?_,
    fun disk => exchange_ack2 told rfl disk, fun disk => exchange_ack3 own rfl disk⟩
  intro disk
  have second := exchange_of_merges answers rfl rfl disk
  have same : a.digest.merge ended.digest = a.digest.merge b.digest :=
    a.digest.merge_merge b.digest
  simp only [message, same] at second ⊢
  exact second

/-- A round completes if both are of one cluster and the second case recognises the card. -/
theorem exists_round {peer : Card} {a b : Case} (cluster : b.state.id = a.state.id)
    (recognised : b.isLocal peer = true)
    : Round peer a b (a.withDigest (a.digest.merge b.digest))
        (b.withDigest (b.digest.merge a.digest)) := by
  obtain ⟨first, second, third, last⟩ := exchanges cluster recognised
  exact .completed (first default) ⟨rfl, rfl⟩ (second default) ⟨rfl, rfl⟩ (third default)
    ⟨rfl, rfl⟩ (last default)

end Case

end TaskFabric
