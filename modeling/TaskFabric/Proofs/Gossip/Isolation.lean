import TaskFabric.Proofs.Gossip.Rounds

/-! What messages can do to a node that are none of its business, or are no step at which a view is
taken over. They are answered, if at all, and leave nothing behind.
-/

namespace TaskFabric

-----------------------------------------------------------------------------------------
-- Messages that are meant for a node
-----------------------------------------------------------------------------------------

namespace MessageType

/-- The steps of a round, each with the one behind it. -/
inductive Next : MessageType → MessageType → Prop
  | ack : Next .sync .ack
  | ack2 : Next .ack .ack2
  | ack3 : Next .ack2 .ack3

theorem reply?_eq_some_iff {type next : MessageType}
    : type.reply? = some next ↔ type.Next next := by
  constructor
  · intro reply
    cases type <;> cases reply <;> constructor
  · rintro ⟨⟩ <;> rfl

end MessageType

namespace Case

/-- Whether a card has the port of a node and either its host or the one under which the node is
reached from outside.
-/
def Names (c : Case) (card : Card) : Prop :=
  card.port = c.state.own.port ∧ (card.ip = c.state.own.ip ∨ c.externalIp = some card.ip)

/-- Whether a message names the cluster of a node and is addressed to the node. -/
def Meant (c : Case) (m : Message) : Prop := m.cluster = c.state.id ∧ c.Names m.addressee

/-- A message that is not meant for a node, is no step of a round, or is a step of its second half.
-/
inductive Inert (c : Case) (m : Message) : Prop
  | foreign (cluster : m.cluster ≠ c.state.id) : Inert c m
  | misaddressed (addressee : ¬c.Names m.addressee) : Inert c m
  | noStep {code unknown} (type : m.type = .unknown code unknown) : Inert c m
  | secondHalf (type : m.type = .ack2 ∨ m.type = .ack3) : Inert c m

variable {c after : Case} {m : Message} {disk later : Disk}

theorem isLocal_iff {card : Card} : c.isLocal card = true ↔ c.Names card := by
  unfold isLocal Card.sameAs Card.sameAddress Names
  cases c.externalIp <;> simp only [Bool.or_eq_true, Bool.and_eq_true, beq_iff_eq] <;> grind

theorem validate_eq_ok_iff_meant : c.validate m = .ok () ↔ c.Meant m := by
  rw [validate_eq_ok_iff, isLocal_iff, Meant]

/-- A node that has taken over a view is the same node. -/
theorem Inert.withDigest (inert : c.Inert m) (d : Digest) : (c.withDigest d).Inert m := by
  cases inert with
  | foreign cluster => exact .foreign cluster
  | misaddressed addressee => exact .misaddressed addressee
  | noStep type => exact .noStep type
  | secondHalf type => exact .secondHalf type

-----------------------------------------------------------------------------------------
-- Handling one message
-----------------------------------------------------------------------------------------

/-- What comes of a message. It is refused; or it is answered with the next step, in the first half
of a round with the newer view; or the round is over.
-/
inductive Outcome (c : Case) (m : Message) (disk : Disk) : Option Message × Case × Disk → Prop
  | refused {status} (never : ¬(c.Meant m ∧ (m.type = .ack3 ∨ ∃ next, m.type.Next next)))
    (refusal : status.code ≠ .ok)
    : Outcome c m disk (some (c.reject m status), c, disk)
  | adopted {next} (meant : c.Meant m) (step : m.type.Next next) (merges : m.type.merges = true)
    : Outcome c m disk
        (some ((c.withDigest (c.digest.merge m.digest)).message m.sender next),
          c.withDigest (c.digest.merge m.digest), (c.merge m.digest disk).2.2)
  | acknowledged {next} (meant : c.Meant m) (step : m.type.Next next)
    : Outcome c m disk (some (c.message m.sender next), c, disk)
  | ended (meant : c.Meant m) (last : m.type = .ack3) : Outcome c m disk (none, c, disk)

theorem exchange_outcome (c : Case) (m : Message) (disk : Disk)
    : Outcome c m disk (c.exchange m disk) := by
  cases checked : c.validate m with
  | error e =>
      have notMeant : ¬c.Meant m := by
        rw [← validate_eq_ok_iff_meant, checked]
        simp
      simp only [exchange, checked]
      exact .refused (fun both => notMeant both.1) (code_ofError_ne_ok e)
  | ok _ =>
      have meant := validate_eq_ok_iff_meant.mp checked
      cases type : m.type with
      | sync =>
          rw [exchange_of_merges checked (by rw [type]; rfl) (by rw [type]; rfl)]
          exact .adopted meant (type ▸ .ack) (by rw [type]; rfl)
      | ack =>
          rw [exchange_of_merges checked (by rw [type]; rfl) (by rw [type]; rfl)]
          exact .adopted meant (type ▸ .ack2) (by rw [type]; rfl)
      | ack2 =>
          rw [exchange_ack2 checked type]
          exact .acknowledged meant (type ▸ .ack3)
      | ack3 =>
          rw [exchange_ack3 checked type]
          exact .ended meant type
      | unknown code noStep =>
          simp only [exchange, checked, type, MessageType.reply?]
          refine .refused ?_ (code_ofError_ne_ok _)
          rintro ⟨_, last | ⟨next, step⟩⟩
          · rw [type] at last
            cases last
          · rw [type] at step
            cases step

/-- A message that can do nothing changes neither the node nor the disk. -/
theorem exchange_of_inert (inert : c.Inert m) (disk : Disk)
    : (c.exchange m disk).2 = (c, disk) := by
  have outcome := c.exchange_outcome m disk
  generalize c.exchange m disk = result at outcome
  cases outcome with
  | refused _ _ | acknowledged _ _ | ended _ _ => rfl
  | adopted meant step merges =>
      exfalso
      cases inert with
      | foreign cluster => exact cluster meant.1
      | misaddressed addressee => exact addressee meant.2
      | noStep type =>
          rw [type] at step
          cases step
      | secondHalf type =>
          rcases type with type | type <;> simp [type, MessageType.merges] at merges

/-- What a reply says. It goes back to the sender with the view that the node then has, as the next
step of the round or as a refusal.
-/
structure Answers (c after : Case) (m answer : Message) : Prop where
  addressee : answer.addressee = m.sender
  sender : answer.sender = c.state.own
  cluster : answer.cluster = c.state.id
  view : answer.digest = after.digest
  accepted (step : c.Meant m ∧ ∃ next, m.type.Next next)
    : answer.status = .ok ∧ m.type.Next answer.type
  refused (noStep : ¬(c.Meant m ∧ ∃ next, m.type.Next next))
    : answer.status.code ≠ .ok ∧ answer.type = m.type

theorem exchange_eq_none_iff : (c.exchange m disk).1 = none ↔ c.Meant m ∧ m.type = .ack3 := by
  have outcome := c.exchange_outcome m disk
  generalize c.exchange m disk = result at outcome
  cases outcome with
  | refused never _ => exact ⟨nofun, fun both => absurd ⟨both.1, .inl both.2⟩ never⟩
  | adopted _ step _ | acknowledged _ step =>
      refine ⟨nofun, ?_⟩
      rintro ⟨_, last⟩
      rw [last] at step
      cases step
  | ended meant last => exact ⟨fun _ => ⟨meant, last⟩, fun _ => rfl⟩

theorem answers_of_exchange {answer : Message} (replied : (c.exchange m disk).1 = some answer)
    : Answers c (c.exchange m disk).2.1 m answer := by
  have outcome := c.exchange_outcome m disk
  generalize c.exchange m disk = result at outcome replied ⊢
  cases outcome with
  | refused never refusal =>
      cases replied
      exact ⟨rfl, rfl, rfl, rfl, fun step => absurd ⟨step.1, .inr step.2⟩ never,
        fun _ => ⟨refusal, rfl⟩⟩
  | adopted meant step _ | acknowledged meant step =>
      cases replied
      exact ⟨rfl, rfl, rfl, rfl, fun _ => ⟨rfl, step⟩,
        fun noStep => absurd ⟨meant, _, step⟩ noStep⟩
  | ended _ _ => cases replied

-----------------------------------------------------------------------------------------
-- Handling many messages
-----------------------------------------------------------------------------------------

/-- Handles messages one after another; answers the replies in their order. -/
def exchangeEach : List Message → Case → Disk → List (Option Message) × Case × Disk
  | [], c, disk => ([], c, disk)
  | m :: rest, c, disk =>
      let (reply, c, disk) := c.exchange m disk
      let (replies, c, disk) := exchangeEach rest c disk
      (reply :: replies, c, disk)

/-- The messages of those that arrive that are kept. -/
def keptMessages (arrivals : List (Message × Bool)) : List Message :=
  (arrivals.filter (·.2)).map (·.1)

/-- The replies to the messages that are kept. -/
def keptReplies (replies : List (Option Message)) (arrivals : List (Message × Bool))
    : List (Option Message) :=
  ((replies.zip arrivals).filter (·.2.2)).map (·.1)

/-- Without some messages that can do nothing, all others are answered as before and leave what they
left before, by induction on the messages: handling one of them does not make another one inert.
-/
theorem exchangeEach_kept (arrivals : List (Message × Bool)) (c : Case) (disk : Disk)
    (inert : ∀ arrival ∈ arrivals, arrival.2 = false → c.Inert arrival.1)
    : exchangeEach (keptMessages arrivals) c disk
      = (keptReplies (exchangeEach (arrivals.map (·.1)) c disk).1 arrivals,
          (exchangeEach (arrivals.map (·.1)) c disk).2) := by
  induction arrivals generalizing c disk with
  | nil => rfl
  | cons arrival rest ih =>
      obtain ⟨m, kept⟩ := arrival
      obtain ⟨first, others⟩ := List.forall_mem_cons.mp inert
      cases kept with
      | false =>
          have nothing := exchange_of_inert (first rfl) disk
          have skipped := ih c disk others
          simp only [keptMessages, keptReplies, List.map_cons, exchangeEach, nothing,
            List.filter_cons, List.zip_cons_cons, Bool.false_eq_true, if_false] at skipped ⊢
          exact skipped
      | true =>
          have still : ∀ arrival ∈ rest, arrival.2 = false
              → (c.exchange m disk).2.1.Inert arrival.1 := by
            intro arrival member dropped
            have before := others arrival member dropped
            have outcome := c.exchange_outcome m disk
            generalize c.exchange m disk = result at outcome
            cases outcome with
            | refused _ _ | acknowledged _ _ | ended _ _ => exact before
            | adopted _ _ _ => exact before.withDigest _
          have handled := ih (c.exchange m disk).2.1 (c.exchange m disk).2.2 still
          simp only [keptMessages, keptReplies, List.map_cons, exchangeEach, List.filter_cons,
            List.zip_cons_cons, if_true] at handled ⊢
          rw [handled]

/-- A node is isolated from messages of other clusters, to other nodes, and of no step at which
views are taken over: without any of them, the others get the same replies, and the node and the
disk end up the same. A message gets no reply exactly if it is meant for the node and ends a round;
any other one is answered to its sender, in the name of the node and with the view that it then
has, by the next step if it is meant for the node and has one, and by a refusal of its own type
otherwise.
-/
theorem inert_messages_leave_no_trace (c : Case) (disk : Disk) (arrivals : List (Message × Bool))
    (inert : ∀ arrival ∈ arrivals, arrival.2 = false → c.Inert arrival.1)
    : let all := exchangeEach (arrivals.map (·.1)) c disk
      let few := exchangeEach (keptMessages arrivals) c disk
      few.2.1 = all.2.1
      ∧ few.2.2 = all.2.2
      ∧ few.1 = keptReplies all.1 arrivals
      ∧ ∀ (node : Case) (m : Message) (before : Disk),
          ((node.exchange m before).1 = none ↔ node.Meant m ∧ m.type = .ack3)
          ∧ ∀ answer, (node.exchange m before).1 = some answer
              → Answers node (node.exchange m before).2.1 m answer := by
  intro all few
  have same : few = (keptReplies all.1 arrivals, all.2) := exchangeEach_kept arrivals c disk inert
  refine ⟨?_, ?_, ?_, ?_⟩
  · rw [same]
  · rw [same]
  · rw [same]
  · intro node m before
    exact ⟨exchange_eq_none_iff, fun answer replied => answers_of_exchange replied⟩

/-- A node on a port of this host, in a cluster, that has listed some ports at some second. -/
def desk (cluster : String) (port : UInt16) (ports : List UInt16) (clock : Int64) : Case :=
  start cluster (Card.ofAddress "127.0.0.1" port)
    (ports.map fun port => Card.ofAddress "127.0.0.1" port) clock

/-- A call from another cluster and the third step of a round, both with a newer view than any other
one, do not come between two calls that bring views.
-/
theorem newest_views_leave_no_trace
    : let node := desk "office" 1 [2] 1700000000
      let addressee := Card.ofAddress "127.0.0.1" 1
      let first := (desk "office" 2 [1, 3] 1700000005).message addressee .sync
      let second := (desk "office" 3 [1] 1700000009).message addressee .sync
      let foreign := (desk "home" 4 [] 1800000000).message addressee .sync
      let late := (desk "office" 2 [] 1800000000).message addressee .ack2
      let arrivals := [(foreign, false), (first, true), (late, false), (second, true)]
      (∀ arrival ∈ arrivals, arrival.2 = false → node.Inert arrival.1)
      ∧ (exchangeEach [foreign, first, late, second] node .empty).2
        = (exchangeEach [first, second] node .empty).2
      ∧ (exchangeEach [first, second] node .empty).2.1.digest = second.digest := by
  intro node addressee first second foreign late arrivals
  have inert : ∀ arrival ∈ arrivals, arrival.2 = false → node.Inert arrival.1 := by
    intro arrival member dropped
    rcases List.mem_cons.mp member with rfl | member
    · exact .foreign (by decide)
    · rcases List.mem_cons.mp member with rfl | member
      · cases dropped
      · rcases List.mem_cons.mp member with rfl | member
        · exact .secondHalf (.inl rfl)
        · rw [List.mem_singleton.mp member] at dropped
          cases dropped
  obtain ⟨sameCase, sameDisk, _⟩ := inert_messages_leave_no_trace node .empty arrivals inert
  exact ⟨inert, (Prod.ext sameCase sameDisk).symm, by decide⟩

end Case

end TaskFabric
