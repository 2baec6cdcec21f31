import TaskFabric.Proofs.Gossip.Isolation
import TaskFabric.Proofs.Json.WireDocuments

/-! What the sender of a message hears of a refusal. The status of a refusal carries the wording of
the failure, and the sender takes the wording for the cluster or the addressee that was refused. So
the kind of the failure arrives, and a code that stands for no step arrives as it was, but no other
cluster or addressee does.
-/

namespace TaskFabric

-----------------------------------------------------------------------------------------
-- Failures and what is heard of them
-----------------------------------------------------------------------------------------

namespace ClusterError

/-- What is heard of a failure through the status of a message: its wording stands where the refused
cluster or addressee would.
-/
def heard : ClusterError → ClusterError
  | .clusterMismatch expected got =>
      .clusterMismatch expected (clusterMismatch expected got).message
  | .collaboratorMismatch addressee =>
      .collaboratorMismatch (collaboratorMismatch addressee).message
  | e => e

theorem append_ne_self {before text : String} (some : before ≠ "") : before ++ text ≠ text := by
  intro same
  have chars := congrArg String.toList same
  rw [String.toList_append, List.append_left_eq_self, String.toList_eq_nil_iff] at chars
  exact some chars

/-- The wording of a mismatch is never what it is about, since it says more. -/
theorem message_clusterMismatch_ne (expected got : String)
    : (clusterMismatch expected got).message ≠ got := by
  have worded : (clusterMismatch expected got).message
      = "cluster mismatch: expected " ++ expected ++ ", got " ++ got :=
    rfl
  rw [worded]
  exact append_ne_self (by simp)

theorem message_collaboratorMismatch_ne (addressee : String)
    : (collaboratorMismatch addressee).message ≠ addressee := by
  have worded : (collaboratorMismatch addressee).message
      = "message addressed to another collaborator: " ++ addressee :=
    rfl
  rw [worded]
  exact append_ne_self (by simp)

end ClusterError

/-- A message is read from its text as it was written. -/
theorem Message.readText?_compact (m : Message)
    : Json.readText? Message.ofJson? m.toJson.compact = some m :=
  Lossless.readText? Message.ofJson?_toJson m.plain_toJson

namespace Case

variable {c : Case} {m : Message} {e : ClusterError}

/-- Why a node refuses a message: it names another cluster; or it names that of the node, and not
the node; or it is meant for the node and has a type that is no step.
-/
inductive Refuses (c : Case) (m : Message) : ClusterError → Prop
  | foreign (cluster : m.cluster ≠ c.state.id)
    : Refuses c m (.clusterMismatch c.state.id m.cluster)
  | misaddressed (cluster : m.cluster = c.state.id) (addressee : ¬c.Names m.addressee)
    : Refuses c m (.collaboratorMismatch m.addressee.identity)
  | noStep {code unknown} (meant : c.Meant m) (type : m.type = .unknown code unknown)
    : Refuses c m (.unknownMessageType code)

/-- What the sender of a message makes of the reply, read from its text, if there is one. -/
def verdict? (c : Case) (m : Message) (disk : Disk) : Option (Except ClusterError Unit) := do
  let reply ← (c.exchange m disk).1
  let read ← Json.readText? Message.ofJson? reply.toJson.compact
  return read.checkStatus

theorem verdict?_of_reply {reply : Message} {disk : Disk}
    (replied : (c.exchange m disk).1 = some reply)
    : c.verdict? m disk = some reply.checkStatus := by
  simp only [verdict?, replied, Option.bind_eq_bind, Option.bind_some, reply.readText?_compact,
    Option.pure_def]

/-- A node refuses a message with the failure that its check raises, or else for the type. -/
theorem refuses_iff
    : c.Refuses m e
      ↔ c.validate m = .error e
        ∨ c.validate m = .ok ()
          ∧ ∃ code unknown, m.type = .unknown code unknown ∧ e = .unknownMessageType code := by
  constructor
  · intro refuses
    cases refuses with
    | foreign cluster => exact .inl (if_pos cluster)
    | misaddressed cluster addressee =>
        rw [← isLocal_iff] at addressee
        simp [validate, cluster, addressee]
    | noStep meant type => exact .inr ⟨validate_eq_ok_iff_meant.mpr meant, _, _, type, rfl⟩
  · rintro (raised | ⟨valid, code, unknown, type, rfl⟩)
    · unfold validate at raised
      split at raised
      · next cluster =>
          cases raised
          exact .foreign cluster
      · next cluster =>
          split at raised
          · cases raised
          · next addressee =>
              cases raised
              exact .misaddressed (not_ne_iff.mp cluster) (mt isLocal_iff.mpr addressee)
    · exact .noStep (validate_eq_ok_iff_meant.mp valid) type

theorem Refuses.exchange_eq (refuses : c.Refuses m e) (disk : Disk)
    : c.exchange m disk = (some (c.reject m (.ofError e)), c, disk) := by
  rcases refuses_iff.mp refuses with raised | ⟨valid, code, unknown, type, rfl⟩
  · simp only [exchange, raised]
  · simp only [exchange, valid, type, MessageType.reply?]

theorem Refuses.checkStatus_reject (refuses : c.Refuses m e)
    : (c.reject m (.ofError e)).checkStatus = .error e.heard := by
  cases refuses with
  | foreign _ | misaddressed _ _ => rfl
  | noStep _ type =>
      simp only [Message.checkStatus, Status.ofError, reject, message, type]
      rfl

theorem Refuses.verdict?_eq (refuses : c.Refuses m e) (disk : Disk)
    : c.verdict? m disk = some (.error e.heard) := by
  have replied : (c.exchange m disk).1 = some (c.reject m (.ofError e)) := by
    rw [refuses.exchange_eq]
  rw [verdict?_of_reply replied, refuses.checkStatus_reject]

/-- A failure is heard as it was exactly if the message was meant for the node. -/
theorem Refuses.heard_eq_iff (refuses : c.Refuses m e) : e.heard = e ↔ c.Meant m := by
  cases refuses with
  | foreign cluster =>
      refine iff_of_false ?_ fun meant => cluster meant.1
      intro same
      injection same with _ got
      exact ClusterError.message_clusterMismatch_ne _ _ got
  | misaddressed _ addressee =>
      refine iff_of_false ?_ fun meant => addressee meant.2
      intro same
      injection same with other
      exact ClusterError.message_collaboratorMismatch_ne _ other
  | noStep meant _ => exact iff_of_true rfl meant

theorem verdict?_of_step {next : MessageType} (meant : c.Meant m) (step : m.type.Next next)
    (disk : Disk)
    : c.verdict? m disk = some (.ok ()) := by
  cases replied : (c.exchange m disk).1 with
  | none =>
      rw [(exchange_eq_none_iff.mp replied).2] at step
      cases step
  | some reply =>
      have accepted := ((answers_of_exchange replied).accepted ⟨meant, next, step⟩).1
      rw [verdict?_of_reply replied, Message.checkStatus, accepted]
      rfl

theorem verdict?_of_last (meant : c.Meant m) (last : m.type = .ack3) (disk : Disk)
    : c.verdict? m disk = none := by
  rw [verdict?, exchange_eq_none_iff.mpr ⟨meant, last⟩]
  rfl

/-- What the sender of a message hears: that it was refused, that it was answered with the next
step, or nothing, where the round is over.
-/
inductive Heard (c : Case) (m : Message) : Option (Except ClusterError Unit) → Prop
  | refused {e : ClusterError} (refuses : c.Refuses m e) : Heard c m (some (.error e.heard))
  | answered {next : MessageType} (meant : c.Meant m) (step : m.type.Next next)
    : Heard c m (some (.ok ()))
  | over (meant : c.Meant m) (last : m.type = .ack3) : Heard c m none

theorem heard_verdict? (c : Case) (m : Message) (disk : Disk) : Heard c m (c.verdict? m disk) := by
  have answered {next : MessageType} (meant : c.Meant m) (step : m.type.Next next)
      : Heard c m (c.verdict? m disk) := by
    rw [verdict?_of_step meant step]
    exact .answered meant step
  have refused {e : ClusterError} (refuses : c.Refuses m e) : Heard c m (c.verdict? m disk) := by
    rw [refuses.verdict?_eq]
    exact .refused refuses
  by_cases cluster : m.cluster = c.state.id
  · by_cases addressee : c.Names m.addressee
    · have meant : c.Meant m := ⟨cluster, addressee⟩
      cases type : m.type with
      | sync => exact answered meant (type ▸ MessageType.Next.ack)
      | ack => exact answered meant (type ▸ MessageType.Next.ack2)
      | ack2 => exact answered meant (type ▸ MessageType.Next.ack3)
      | ack3 =>
          rw [verdict?_of_last meant type]
          exact .over meant type
      | unknown code unknown => exact refused (.noStep meant type)
    · exact refused (.misaddressed cluster addressee)
  · exact refused (.foreign cluster)

/-- A refusal arrives as a failure of its kind, but worded. The sender of a message takes the reply
for a failure exactly if the node refuses the message, and then hears of the same kind of failure,
from the same cluster, with the wording in the place of the cluster or the addressee that was
refused. That is the failure itself exactly if the message was meant for the node, and refused for a
type that is no step, whose code is kept. The sender takes the reply for a success exactly if the
message was meant for the node and is answered with the next step.
-/
theorem refusals_arrive_worded (c : Case) (m : Message) (disk : Disk)
    : (∀ failure,
        c.verdict? m disk = some (.error failure) ↔ ∃ e, c.Refuses m e ∧ failure = e.heard)
      ∧ (∀ e, c.Refuses m e
          → ((c.exchange m disk).1 = some (c.reject m (.ofError e)) ∧ (e.heard = e ↔ c.Meant m)))
      ∧ (c.verdict? m disk = some (.ok ()) ↔ c.Meant m ∧ ∃ next, m.type.Next next) := by
  have spec := c.heard_verdict? m disk
  refine ⟨?failures, ?refusals, ?successes⟩
  case failures =>
    intro failure
    constructor
    · intro heard
      rw [heard] at spec
      cases spec with
      | refused refuses => exact ⟨_, refuses, rfl⟩
    · rintro ⟨e, refuses, rfl⟩
      exact refuses.verdict?_eq disk
  case refusals =>
    intro e refuses
    rw [refuses.exchange_eq]
    exact ⟨rfl, refuses.heard_eq_iff⟩
  case successes =>
    constructor
    · intro heard
      rw [heard] at spec
      cases spec with
      | answered meant step => exact ⟨meant, _, step⟩
    · rintro ⟨meant, next, step⟩
      exact verdict?_of_step meant step disk

/-- A call from another cluster is refused with the names of both, and one for another node with the
address of that node; their senders hear whole sentences in the places of these names.
-/
theorem refused_names_do_not_arrive
    : let node := desk "office" 1 [] 1700000000
      let card := Card.ofAddress "127.0.0.1"
      let foreign := (desk "home" 2 [] 1700000000).message (card 1) .sync
      let misaddressed := (desk "office" 2 [] 1700000000).message (card 3) .sync
      (node.Refuses foreign (.clusterMismatch "office" "home")
          ∧ node.verdict? foreign .empty
            = some (.error (.clusterMismatch "office"
              "cluster mismatch: expected office, got home"))
          ∧ node.verdict? foreign .empty ≠ some (.error (.clusterMismatch "office" "home")))
        ∧ node.Refuses misaddressed (.collaboratorMismatch "127.0.0.1:3")
        ∧ node.verdict? misaddressed .empty
          = some (.error (.collaboratorMismatch
            "message addressed to another collaborator: 127.0.0.1:3"))
        ∧ node.verdict? misaddressed .empty
          ≠ some (.error (.collaboratorMismatch "127.0.0.1:3")) := by
  intro node card foreign misaddressed
  have first : node.Refuses foreign (.clusterMismatch "office" "home") := .foreign (by decide)
  have other : ¬node.Names misaddressed.addressee := by
    rw [← isLocal_iff]
    decide
  have address : misaddressed.addressee.identity = "127.0.0.1:3" := by decide
  have second : node.Refuses misaddressed (.collaboratorMismatch "127.0.0.1:3") :=
    address ▸ .misaddressed rfl other
  rw [first.verdict?_eq, second.verdict?_eq]
  exact ⟨⟨first, rfl, by decide⟩, second, rfl, by decide⟩

end Case

end TaskFabric
