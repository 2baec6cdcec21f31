import Mathlib.Logic.Function.Basic
import Mathlib.Logic.Relation
import TaskFabric.Proofs.Gossip.Isolation

/-! Messages under way among cases. Whatever was sent stays in the air: it may be handled at any
time later, again, out of order, or never, and rounds may overlap.
-/

namespace TaskFabric

namespace Case

variable {c after : Case} {m : Message} {disk later : Disk}

/-- A case ends with its own view or the newer one, and a reply carries what it ends with. -/
theorem exchange_spec {reply : Option Message} (handled : c.exchange m disk = (reply, after, later))
    : (after = c ∨ after = c.withDigest (c.digest.merge m.digest))
      ∧ ∀ answer, reply = some answer → answer.digest = after.digest := by
  have outcome := c.exchange_outcome m disk
  rw [handled] at outcome
  cases outcome with
  | refused _ _ | acknowledged _ _ =>
      exact ⟨.inl rfl, fun answer same => Option.some.inj same ▸ rfl⟩
  | adopted _ _ _ => exact ⟨.inr rfl, fun answer same => Option.some.inj same ▸ rfl⟩
  | ended _ _ => exact ⟨.inl rfl, nofun⟩

/-- A case that refuses nothing adopts the view of a message of the first half of a round. -/
theorem eq_of_exchange {reply : Message} (handled : c.exchange m disk = (some reply, after, later))
    (accepted : reply.status.code = .ok) (merges : m.type.merges = true)
    : after = c.withDigest (c.digest.merge m.digest) := by
  have valid := validate_of_exchange handled accepted
  obtain ⟨type, next⟩ : ∃ type, m.type.reply? = some type := by
    cases type : m.type <;> simp_all [MessageType.merges, MessageType.reply?]
  rw [exchange_of_merges valid merges next] at handled
  simp only [Prod.mk.injEq] at handled
  exact handled.2.1.symm

end Case

-----------------------------------------------------------------------------------------
-- Traffic
-----------------------------------------------------------------------------------------

/-- The cases of some nodes, and all messages that they have sent. -/
structure Traffic (ν : Type) where
  case : ν → Case
  sent : List Message

namespace Traffic

variable {ν : Type}

/-- A node sends a message of any type to any card. -/
def tell (t : Traffic ν) (x : ν) (addressee : Card) (type : MessageType) : Traffic ν :=
  { t with sent := (t.case x).message addressee type :: t.sent }

/-- All views around, those of the nodes and those of the messages, have a property. -/
structure Everywhere (p : Digest → Prop) (t : Traffic ν) : Prop where
  held : ∀ x, p (t.case x).digest
  carried : ∀ m ∈ t.sent, p m.digest

theorem Everywhere.imp {t : Traffic ν} {p q : Digest → Prop} (all : Everywhere p t)
    (weaker : ∀ d, p d → q d)
    : Everywhere q t :=
  ⟨fun x => weaker _ (all.held x), fun m member => weaker _ (all.carried m member)⟩

variable [DecidableEq ν]

/-- A node has handled a message, and its reply, if there is one, has been sent. -/
def answer (t : Traffic ν) (x : ν) (after : Case) (reply : Option Message) : Traffic ν :=
  ⟨Function.update t.case x after, reply.toList ++ t.sent⟩

@[simp]
theorem case_answer_self (t : Traffic ν) (x : ν) (after : Case) (reply : Option Message)
    : (t.answer x after reply).case x = after := by
  simp [answer]

theorem case_answer_of_ne (t : Traffic ν) {x other : ν} (different : other ≠ x) (after : Case)
    (reply : Option Message)
    : (t.answer x after reply).case other = t.case other := by
  simp [answer, different]

theorem mem_sent_answer {t : Traffic ν} {x : ν} {after : Case} {reply : Option Message}
    {m : Message}
    : m ∈ (t.answer x after reply).sent ↔ reply = some m ∨ m ∈ t.sent := by
  simp [answer]

/-- A node handles a message that was sent. -/
inductive Handles (x : ν) (m : Message) (reply : Option Message) (t : Traffic ν)
    : Traffic ν → Prop
  | answered {after disk later} (arrived : m ∈ t.sent)
    (handled : (t.case x).exchange m disk = (reply, after, later))
    : Handles x m reply t (t.answer x after reply)

theorem handles_of_case_eq {t : Traffic ν} {x : ν} {c after : Case} {m : Message}
    {reply : Option Message} {disk later : Disk} (now : t.case x = c) (arrived : m ∈ t.sent)
    (handled : c.exchange m disk = (reply, after, later))
    : Handles x m reply t (t.answer x after reply) :=
  .answered arrived (now ▸ handled)

/-- What may happen next: a node addresses a message to a card, or one that was sent arrives. -/
inductive Step (t : Traffic ν) : Traffic ν → Prop
  | tell (x : ν) (addressee : Card) (type : MessageType) : Step t (t.tell x addressee type)
  | handle {x m reply next} (handles : Handles x m reply t next) : Step t next

/-- Any number of steps. -/
abbrev Run : Traffic ν → Traffic ν → Prop := Relation.ReflTransGen Step

/-- A completed round between two nodes, the first of which starts it. None of its messages is
refused; between them, anything may happen.
-/
inductive CompletedRound (x y : ν) (t : Traffic ν) : Traffic ν → Prop
  | completed {peer ack ack2 ack3 t₁ t₂ t₃ t₄ t₅ t₆ t₇ t₈}
    (called : Run (t.tell x peer .sync) t₁)
    (first : Handles y ((t.case x).message peer .sync) (some ack) t₁ t₂)
    (ackOk : ack.status.code = .ok ∧ ack.type = .ack)
    (acked : Run t₂ t₃)
    (second : Handles x ack (some ack2) t₃ t₄)
    (ack2Ok : ack2.status.code = .ok ∧ ack2.type = .ack2)
    (told : Run t₄ t₅)
    (third : Handles y ack2 (some ack3) t₅ t₆)
    (ack3Ok : ack3.status.code = .ok ∧ ack3.type = .ack3)
    (closing : Run t₆ t₇)
    (last : Handles x ack3 none t₇ t₈)
    : CompletedRound x y t t₈

/-- A round completes if both nodes are of one cluster, the second one recognises the card, and
nothing comes between. It leaves the newer view with both.
-/
theorem exists_completedRound {t : Traffic ν} {x y : ν} (different : y ≠ x) (peer : Card)
    (cluster : (t.case y).state.id = (t.case x).state.id)
    (recognised : (t.case y).isLocal peer = true)
    : ∃ ended,
        CompletedRound x y t ended
        ∧ (ended.case x).digest = (t.case x).digest.merge (t.case y).digest
        ∧ (ended.case y).digest = (t.case y).digest.merge (t.case x).digest := by
  obtain ⟨first, second, third, last⟩ := Case.exchanges cluster recognised
  let asked := (t.case x).withDigest ((t.case x).digest.merge (t.case y).digest)
  let ended := (t.case y).withDigest ((t.case y).digest.merge (t.case x).digest)
  let ack := ended.message (t.case x).state.own .ack
  let ack2 := asked.message (t.case y).state.own .ack2
  let ack3 := ended.message (t.case x).state.own .ack3
  let t₂ := (t.tell x peer .sync).answer y ended (some ack)
  let t₄ := t₂.answer x asked (some ack2)
  let t₆ := t₄.answer y ended (some ack3)
  have synced : Handles y ((t.case x).message peer .sync) (some ack) (t.tell x peer .sync) t₂ :=
    .answered List.mem_cons_self (first default)
  have waiting : t₂.case x = t.case x := case_answer_of_ne _ different.symm _ _
  have acked : Handles x ack (some ack2) t₂ t₄ :=
    handles_of_case_eq waiting (mem_sent_answer.mpr (.inl rfl)) (second default)
  have merged : t₄.case y = ended :=
    (case_answer_of_ne _ different _ _).trans (case_answer_self _ _ _ _)
  have told : Handles y ack2 (some ack3) t₄ t₆ :=
    handles_of_case_eq merged (mem_sent_answer.mpr (.inl rfl)) (third default)
  have still : t₆.case x = asked :=
    (case_answer_of_ne _ different.symm _ _).trans (case_answer_self _ _ _ _)
  have finished : Handles x ack3 none t₆ (t₆.answer x asked none) :=
    handles_of_case_eq still (mem_sent_answer.mpr (.inl rfl)) (last default)
  refine ⟨_, .completed .refl synced ⟨rfl, rfl⟩ .refl acked ⟨rfl, rfl⟩ .refl told ⟨rfl, rfl⟩ .refl
    finished, ?_, ?_⟩
  · rw [case_answer_self]
    rfl
  · rw [case_answer_of_ne _ different, case_answer_self]
    rfl

-----------------------------------------------------------------------------------------
-- Views
-----------------------------------------------------------------------------------------

variable {t next ended : Traffic ν} {x y : ν} {d : Digest}

/-- No step makes up a view: each node ends with its own one or that of a message. -/
theorem Step.everywhere {p : Digest → Prop} (step : Step t next) (all : Everywhere p t)
    : Everywhere p next := by
  cases step with
  | tell x addressee type =>
      refine ⟨all.held, ?_⟩
      intro m member
      rcases List.mem_cons.mp member with rfl | before
      · exact all.held x
      · exact all.carried m before
  | @handle x m reply _ handles =>
      obtain ⟨arrived, handled⟩ := handles
      rename_i after _ _
      obtain ⟨adopted, answered⟩ := Case.exchange_spec handled
      have own : p after.digest := by
        rcases adopted with rfl | rfl
        · exact all.held x
        · rcases (t.case x).digest.merge_cases m.digest with ⟨_, same⟩ | ⟨_, same⟩
          · rw [Case.digest_withDigest, same]
            exact all.carried m arrived
          · rw [Case.digest_withDigest, same]
            exact all.held x
      refine ⟨?_, ?_⟩
      · intro z
        by_cases same : z = x
        · rw [same, case_answer_self]
          exact own
        · rw [case_answer_of_ne t same]
          exact all.held z
      · intro other member
        rcases mem_sent_answer.mp member with sent | before
        · rw [answered other sent]
          exact own
        · exact all.carried other before

/-- A view that no other one around exceeds stays with the node that has it. -/
theorem Step.digest_eq (step : Step t next) (own : (t.case x).digest = d)
    (newest : Everywhere (fun other => other.timestamp ≤ d.timestamp) t)
    : (next.case x).digest = d := by
  cases step with
  | tell _ _ _ => exact own
  | @handle z m reply _ handles =>
      obtain ⟨arrived, handled⟩ := handles
      by_cases same : x = z
      · subst same
        rw [case_answer_self]
        rcases (Case.exchange_spec handled).1 with rfl | rfl
        · exact own
        · rw [Case.digest_withDigest, own]
          exact Digest.merge_eq_of_le (newest.carried m arrived)
      · rw [case_answer_of_ne t same]
        exact own

theorem Run.everywhere {p : Digest → Prop} (run : Run t next) (all : Everywhere p t)
    : Everywhere p next := by
  induction run with
  | refl => exact all
  | tail _ step ih => exact step.everywhere ih

theorem Run.digest_eq (run : Run t next) (own : (t.case x).digest = d)
    (newest : Everywhere (fun other => other.timestamp ≤ d.timestamp) t)
    : (next.case x).digest = d := by
  induction run with
  | refl => exact own
  | tail before step ih => exact step.digest_eq ih (Run.everywhere before newest)

/-- In a run, a node handles a message with some view and may adopt it. -/
inductive Hears (x : ν) (d : Digest) (t ended : Traffic ν) : Prop
  | heard {m reply t₁ t₂} (before : Run t t₁) (handles : Handles x m (some reply) t₁ t₂)
    (accepted : reply.status.code = .ok) (merges : m.type.merges = true) (carries : m.digest = d)
    (later : Run t₂ ended)
    : Hears x d t ended

/-- A node that hears a view that all others around are older than has it from then on. -/
theorem Hears.digest_eq (hears : Hears x d t ended)
    (newest : Everywhere (fun other => other = d ∨ other.timestamp < d.timestamp) t)
    : (ended.case x).digest = d := by
  obtain ⟨before, handles, accepted, merges, rfl, later⟩ := hears
  rename_i m reply t₁ t₂
  have now := Run.everywhere before newest
  have bounded : Everywhere (fun other => other.timestamp ≤ m.digest.timestamp) t₂ := by
    refine (Step.everywhere (.handle handles) now).imp ?_
    rintro other (rfl | older)
    · exact UInt64.le_refl _
    · exact UInt64.le_of_lt older
  refine Run.digest_eq later ?_ bounded
  obtain ⟨arrived, handled⟩ := handles
  rw [case_answer_self, Case.eq_of_exchange handled accepted merges, Case.digest_withDigest]
  rcases now.held x with same | older
  · rw [same, Digest.merge_self]
  · exact Digest.merge_eq_of_lt older

theorem CompletedRound.run (round : CompletedRound x y t ended) : Run t ended := by
  cases round with
  | completed called first _ acked second _ told third _ closing last =>
      have half := ((called.head (.tell x _ .sync)).tail (.handle first)).trans acked
      have most := ((half.tail (.handle second)).trans told).tail (.handle third)
      exact (most.trans closing).tail (.handle last)

/-- In a completed round, each side hears the other one. -/
theorem CompletedRound.hears (round : CompletedRound x y t ended)
    : Hears y (t.case x).digest t ended
      ∧ ∃ between, Run t between ∧ Hears x (between.case y).digest between ended := by
  cases round with
  | @completed peer ack ack2 ack3 t₁ t₂ t₃ t₄ t₅ t₆ t₇ _
      called first ackOk acked second ack2Ok told third ack3Ok closing last =>
      have before : Run t t₁ := called.head (.tell x peer .sync)
      have later : Run t₄ ended :=
        (told.tail (.handle third)).trans (closing.tail (.handle last))
      refine ⟨.heard before first ackOk.1 rfl rfl ((acked.tail (.handle second)).trans later), ?_⟩
      have carries : ack.digest = (t₂.case y).digest := by
        obtain ⟨_, handled⟩ := first
        rw [case_answer_self]
        exact (Case.exchange_spec handled).2 ack rfl
      have merges : ack.type.merges = true := by rw [ackOk.2]; rfl
      exact ⟨t₂, before.tail (.handle first),
        .heard acked second ack2Ok.1 merges carries later⟩

end Traffic

end TaskFabric
