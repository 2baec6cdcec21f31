import Mathlib.Data.List.Induction
import TaskFabric.Proofs.Scheduler.Whereabouts

/-! What a submitter and a ticket can do to a future, in any order: the one waits and closes, the
other one delivers or is abandoned. What a wait answers, and what the future says of itself, follow
from what has happened before.
-/

namespace TaskFabric

namespace Future

-----------------------------------------------------------------------------------------
-- Histories
-----------------------------------------------------------------------------------------

/-- What happens to a future. A wait stands where it ends, with whatever is there by then or because
its time is up.
-/
inductive Event where
  | wait
  | close
  | fulfil (completion : Completion)
  | abandon

/-- Whether an event ends the ticket. -/
def Event.endsTicket : Event → Bool
  | .wait | .close => false
  | .fulfil _ | .abandon => true

/-- What a wait is answered. -/
abbrev Reply := Except SchedulerError Completion

/-- The future behind an event. -/
def meet (f : Future) : Event → Future
  | .wait => f.wait.2
  | .close => f.close
  | .fulfil completion => f.fulfil completion
  | .abandon => f.abandon

/-- The future behind some events, one after another. -/
def meetAll (f : Future) (events : List Event) : Future := events.foldl meet f

/-- What a future answers to an event, if that is a wait. -/
def reply? (f : Future) : Event → Option Reply
  | .wait => some f.wait.1
  | .close | .fulfil _ | .abandon => none

/-- What the waits among some events are answered, in their order. -/
def replies (f : Future) : List Event → List Reply
  | [] => []
  | event :: rest => (f.reply? event).toList ++ (f.meet event).replies rest

/-- The events before the first close. -/
def beforeClose (events : List Event) : List Event :=
  events.takeWhile fun event => !(event matches .close)

variable {f : Future} {events : List Event} {event : Event} {answered : List Reply}

theorem meetAll_append (f : Future) (events more : List Event)
    : f.meetAll (events ++ more) = (f.meetAll events).meetAll more :=
  List.foldl_append

theorem replies_append (f : Future) (events more : List Event)
    : f.replies (events ++ more) = f.replies events ++ (f.meetAll events).replies more := by
  induction events generalizing f with
  | nil => rfl
  | cons event rest ih =>
      rw [List.cons_append, replies, replies, ih, List.append_assoc]
      rfl

/-- Nothing comes before the first close any more once there was one. -/
theorem beforeClose_append (closed : .close ∈ events) (more : List Event)
    : beforeClose (events ++ more) = beforeClose events := by
  induction events with
  | nil => cases closed
  | cons first rest ih =>
      unfold beforeClose at ih ⊢
      cases first with
      | close => rfl
      | wait | fulfil _ | abandon =>
          have later : .close ∈ rest := by simpa using closed
          simpa using ih later

theorem beforeClose_append_close (unclosed : .close ∉ events)
    : beforeClose (events ++ [.close]) = events := by
  induction events with
  | nil => rfl
  | cons first rest ih =>
      unfold beforeClose at ih ⊢
      cases first with
      | close => simp at unclosed
      | wait | fulfil _ | abandon =>
          have later : .close ∉ rest := by simpa using unclosed
          simpa using ih later

-----------------------------------------------------------------------------------------
-- Stages
-----------------------------------------------------------------------------------------

/-- What some events say of the ticket. -/
def Tells (events : List Event) : Delivery → Prop
  | .pending => ∀ event ∈ events, event.endsTicket = false
  | .delivered completion => .fulfil completion ∈ events
  | .abandoned => .abandon ∈ events

/-- What a close leaves as error. -/
def leftOver : Delivery → Option SchedulerError
  | .delivered _ => some .channelDirty
  | .pending | .abandoned => none

/-- How far a future has come. It is usable, and all its waits have timed out. Or a wait has read
the completion, or has found the ticket abandoned, or the future was closed over what was there; and
all later waits find it closed.
-/
inductive Stage (events : List Event) : List Reply → Future → Prop
  | usable {delivery : Delivery} (waits : Nat) (unclosed : .close ∉ events)
    (told : Tells events delivery)
    : Stage events (.replicate waits (.error .timeout)) ⟨delivery, false, none, 0 < waits⟩
  | read {completion : Completion} {delivery : Delivery} (waits late : Nat)
    (sent : .fulfil completion ∈ events)
    : Stage events
        (.replicate waits (.error .timeout) ++ .ok completion :: .replicate late (.error .closed))
        ⟨delivery, true, none, 0 < waits⟩
  | noticed {delivery : Delivery} (waits late : Nat) (dropped : .abandon ∈ events)
    : Stage events (.replicate waits (.error .timeout) ++ .replicate late (.error .closed))
        ⟨delivery, true, none, 0 < waits⟩
  | closed {found delivery : Delivery} (waits late : Nat) (shut : .close ∈ events)
    (told : Tells (beforeClose events) found)
    : Stage events (.replicate waits (.error .timeout) ++ .replicate late (.error .closed))
        ⟨delivery, true, leftOver found, 0 < waits⟩

/-- A closed future stays as it is, whatever becomes of the ticket. -/
theorem meet_of_closed (delivery : Delivery) (error : Option SchedulerError) (timedOut : Bool)
    (event : Event)
    : ∃ now,
        (Future.mk delivery true error timedOut).meet event = ⟨now, true, error, timedOut⟩ := by
  cases event with
  | wait | close | fulfil _ => exact ⟨delivery, by cases delivery <;> rfl⟩
  | abandon => cases delivery <;> exact ⟨_, rfl⟩

theorem reply?_of_closed (delivery : Delivery) (error : Option SchedulerError) (timedOut : Bool)
    (event : Event)
    : ∃ count,
        ((Future.mk delivery true error timedOut).reply? event).toList
        = .replicate count (.error .closed) := by
  cases event with
  | wait => exact ⟨1, rfl⟩
  | close | fulfil _ | abandon => exact ⟨0, rfl⟩

theorem Tells.append {delivery : Delivery} (told : Tells events delivery)
    (goesOn : event.endsTicket = false ∨ delivery ≠ .pending)
    : Tells (events ++ [event]) delivery := by
  cases delivery with
  | pending =>
      have quiet : event.endsTicket = false := goesOn.resolve_right (by simp)
      intro other member
      rcases List.mem_append.mp member with before | last
      · exact told other before
      · exact List.mem_singleton.mp last ▸ quiet
  | delivered _ | abandoned => exact List.mem_append_left _ told

/-- A usable future after one more event. -/
theorem Stage.of_usable {delivery : Delivery} (waits : Nat) (unclosed : .close ∉ events)
    (told : Tells events delivery) (event : Event)
    : let f : Future := ⟨delivery, false, none, 0 < waits⟩
      Stage (events ++ [event])
        (.replicate waits (.error .timeout) ++ (f.reply? event).toList) (f.meet event) := by
  intro f
  have last : event ∈ events ++ [event] := List.mem_append_right _ List.mem_cons_self
  have still (other : event ≠ .close) : .close ∉ events ++ [event] := by
    simpa [unclosed] using other.symm
  have usable (other : event ≠ .close) (now : Delivery) (told : Tells (events ++ [event]) now)
      : Stage (events ++ [event]) (.replicate waits (.error .timeout) ++ [])
          ⟨now, false, none, 0 < waits⟩ := by
    rw [List.append_nil]
    exact .usable waits (still other) told
  cases event with
  | wait =>
      cases delivery with
      | pending =>
          have timedOut := Stage.usable (waits + 1) (still (by simp)) (told.append (.inl rfl))
          rw [List.replicate_succ'] at timedOut
          simpa [f, reply?, meet, Future.wait, expire] using timedOut
      | delivered completion => exact .read waits 0 (List.mem_append_left _ told)
      | abandoned => exact .noticed waits 1 (List.mem_append_left _ told)
  | close =>
      have found : Tells (beforeClose (events ++ [.close])) delivery := by
        rwa [beforeClose_append_close unclosed]
      cases delivery <;> exact .closed waits 0 last found
  | fulfil completion =>
      cases delivery with
      | pending => exact usable (by simp) (.delivered completion) last
      | delivered _ | abandoned => exact usable (by simp) _ (told.append (.inr (by simp)))
  | abandon =>
      cases delivery with
      | delivered _ => exact usable (by simp) _ (told.append (.inr (by simp)))
      | pending | abandoned => exact usable (by simp) .abandoned last

/-- One more event brings a future from its stage to a stage. -/
theorem Stage.step (stage : Stage events answered f) (event : Event)
    : Stage (events ++ [event]) (answered ++ (f.reply? event).toList) (f.meet event) := by
  cases stage with
  | usable waits unclosed told => exact .of_usable waits unclosed told event
  | @read completion delivery waits late sent =>
      obtain ⟨now, met⟩ := meet_of_closed delivery none (0 < waits) event
      obtain ⟨count, replied⟩ := reply?_of_closed delivery none (0 < waits) event
      rw [met, replied, List.append_assoc, List.cons_append, List.replicate_append_replicate]
      exact .read waits (late + count) (List.mem_append_left _ sent)
  | @noticed delivery waits late dropped =>
      obtain ⟨now, met⟩ := meet_of_closed delivery none (0 < waits) event
      obtain ⟨count, replied⟩ := reply?_of_closed delivery none (0 < waits) event
      rw [met, replied, List.append_assoc, List.replicate_append_replicate]
      exact .noticed waits (late + count) (List.mem_append_left _ dropped)
  | @closed found delivery waits late shut told =>
      obtain ⟨now, met⟩ := meet_of_closed delivery (leftOver found) (0 < waits) event
      obtain ⟨count, replied⟩ := reply?_of_closed delivery (leftOver found) (0 < waits) event
      rw [met, replied, List.append_assoc, List.replicate_append_replicate]
      exact .closed waits (late + count) (List.mem_append_left _ shut)
        (beforeClose_append shut [event] ▸ told)

/-- Whatever happens to a new future, it comes to a stage, by induction on what happens. -/
theorem stage_of_events (events : List Event)
    : Stage events (start.replies events) (start.meetAll events) := by
  induction events using List.reverseRecOn with
  | nil => exact .usable 0 List.not_mem_nil (List.forall_mem_nil _)
  | append_singleton events event ih =>
      rw [replies_append, meetAll_append]
      simpa [replies, meetAll] using ih.step event

-----------------------------------------------------------------------------------------
-- Tickets that end once
-----------------------------------------------------------------------------------------

/-- The ticket ends in one way at most. -/
def EndsOnce (events : List Event) : Prop := events.countP Event.endsTicket ≤ 1

theorem EndsOnce.of_append {more : List Event} (once : EndsOnce (events ++ more))
    : EndsOnce events :=
  Nat.le_trans (List.sublist_append_left events more).countP_le once

theorem EndsOnce.eq {other : Event} (once : EndsOnce events) (first : event ∈ events)
    (second : other ∈ events) (ends : event.endsTicket = true) (also : other.endsTicket = true)
    : event = other := by
  rw [EndsOnce, List.countP_eq_length_filter] at once
  have here : event ∈ events.filter Event.endsTicket := List.mem_filter.mpr ⟨first, ends⟩
  have there : other ∈ events.filter Event.endsTicket := List.mem_filter.mpr ⟨second, also⟩
  obtain ⟨only, same⟩ := List.length_eq_one_iff.mp
    (Nat.le_antisymm once (List.length_pos_of_mem here))
  rw [same, List.mem_singleton] at here there
  rw [here, there]

theorem EndsOnce.not_abandoned {completion : Completion} (once : EndsOnce events)
    (sent : .fulfil completion ∈ events)
    : .abandon ∉ events := by
  intro dropped
  cases once.eq sent dropped rfl rfl

theorem EndsOnce.sent_iff {completion other : Completion} (once : EndsOnce events)
    (sent : .fulfil completion ∈ events)
    : .fulfil other ∈ events ↔ completion = other := by
  constructor
  · intro also
    exact Event.fulfil.inj (once.eq sent also rfl rfl)
  · rintro rfl
    exact sent

/-- A wait brings the completion if it was sent, the future is not closed, and no other wait has
brought it.
-/
theorem Stage.wait_eq_ok_iff (stage : Stage events answered f) (once : EndsOnce events)
    {completion : Completion}
    : f.wait.1 = .ok completion
      ↔ .fulfil completion ∈ events ∧ .close ∉ events ∧ ∀ other, .ok other ∉ answered := by
  cases stage with
  | @usable delivery waits unclosed told =>
      cases delivery with
      | pending =>
          have unsent : .fulfil completion ∉ events := fun sent => by cases told _ sent
          simp [Future.wait, unsent]
      | delivered sent => simp [Future.wait, once.sent_iff told, unclosed]
      | abandoned =>
          have unsent : .fulfil completion ∉ events := fun sent => once.not_abandoned sent told
          simp [Future.wait, unsent]
  | read waits late sent => simp [Future.wait]
  | noticed waits late dropped =>
      have unsent : .fulfil completion ∉ events := fun sent => once.not_abandoned sent dropped
      simp [Future.wait, unsent]
  | closed waits late shut told => simp [Future.wait, shut]

/-- A wait finds the future closed if it was closed, the ticket was abandoned, or the completion has
been read.
-/
theorem Stage.wait_eq_closed_iff (stage : Stage events answered f) (once : EndsOnce events)
    : f.wait.1 = .error .closed
      ↔ .close ∈ events ∨ .abandon ∈ events ∨ ∃ completion, .ok completion ∈ answered := by
  cases stage with
  | @usable delivery waits unclosed told =>
      cases delivery with
      | pending =>
          have kept : .abandon ∉ events := fun dropped => by cases told _ dropped
          simp [Future.wait, unclosed, kept]
      | delivered sent => simp [Future.wait, unclosed, once.not_abandoned told]
      | abandoned => simpa [Future.wait] using .inr told
  | read waits late sent => simp [Future.wait]
  | noticed waits late dropped => simp [Future.wait, dropped]
  | closed waits late shut told => simp [Future.wait, shut]

/-- A wait times out if the future is not closed and the ticket has not ended. -/
theorem Stage.wait_eq_timeout_iff (stage : Stage events answered f)
    : f.wait.1 = .error .timeout
      ↔ .close ∉ events ∧ ∀ event ∈ events, event.endsTicket = false := by
  have ended {event : Event} (member : event ∈ events) (ends : event.endsTicket = true)
      : ¬∀ event ∈ events, event.endsTicket = false := by
    intro quiet
    rw [quiet event member] at ends
    cases ends
  cases stage with
  | @usable delivery waits unclosed told =>
      cases delivery with
      | pending =>
          have quiet : ∀ event ∈ events, event.endsTicket = false := told
          simpa [Future.wait, unclosed] using quiet
      | delivered sent => simpa [Future.wait, unclosed] using ended told rfl
      | abandoned => simpa [Future.wait, unclosed] using ended told rfl
  | read waits late sent => simpa [Future.wait] using fun _ => ended sent rfl
  | noticed waits late dropped => simpa [Future.wait] using fun _ => ended dropped rfl
  | closed waits late shut told => simp [Future.wait, shut]

/-- A wait that times out leaves a future that a completion can still reach. -/
theorem usable_of_timeout (timedOut : f.wait.1 = .error .timeout)
    : f.wait.2 = f.expire ∧ ∀ completion, (f.wait.2.fulfil completion).wait.1 = .ok completion := by
  cases closed : f.isClosed with
  | true => simp [Future.wait, closed] at timedOut
  | false =>
      cases delivery : f.delivery with
      | pending => simp [Future.wait, closed, delivery, expire, fulfil]
      | delivered before => simp [Future.wait, closed, delivery] at timedOut
      | abandoned => simp [Future.wait, closed, delivery] at timedOut

/-- The answers of the waits are time-outs at first, then at most one completion, which was sent,
and from then on that the future is closed.
-/
theorem Stage.answered_eq (stage : Stage events answered f)
    : ∃ (waits late : Nat) (result : Option Completion),
        answered
          = .replicate waits (.error .timeout) ++ (result.map .ok).toList
            ++ .replicate late (.error .closed)
        ∧ ∀ completion ∈ result, .fulfil completion ∈ events := by
  cases stage with
  | usable waits unclosed told => exact ⟨waits, 0, none, by simp, nofun⟩
  | @read completion delivery waits late sent =>
      refine ⟨waits, late, some completion, by simp, ?_⟩
      intro other same
      exact Option.mem_some_iff.mp same ▸ sent
  | noticed waits late dropped => exact ⟨waits, late, none, by simp, nofun⟩
  | closed waits late shut told => exact ⟨waits, late, none, by simp, nofun⟩

/-- A close leaves an error if the completion came before and was not read. -/
theorem Stage.error_eq_iff (stage : Stage events answered f) (once : EndsOnce events)
    : f.error = some .channelDirty
      ↔ .close ∈ events
        ∧ (∃ completion, .fulfil completion ∈ beforeClose events)
        ∧ ∀ completion, .ok completion ∉ answered := by
  have early {event : Event} (member : event ∈ beforeClose events) : event ∈ events :=
    (List.takeWhile_sublist _).subset member
  cases stage with
  | usable waits unclosed told => simp [unclosed]
  | read waits late sent => simp
  | noticed waits late dropped =>
      have unsent (completion : Completion) : .fulfil completion ∉ beforeClose events :=
        fun sent => once.not_abandoned (early sent) dropped
      simp [unsent]
  | @closed found delivery waits late shut told =>
      cases found with
      | pending =>
          have unsent (completion : Completion) : .fulfil completion ∉ beforeClose events :=
            fun sent => by cases told _ sent
          simp [leftOver, unsent]
      | delivered completion =>
          have sent : ∃ completion, .fulfil completion ∈ beforeClose events := ⟨completion, told⟩
          simpa [leftOver, shut] using sent
      | abandoned =>
          have unsent (completion : Completion) : .fulfil completion ∉ beforeClose events :=
            fun sent => once.not_abandoned (early sent) (early told)
          simp [leftOver, unsent]

theorem Stage.error_cases (stage : Stage events answered f)
    : f.error = none ∨ f.error = some .channelDirty := by
  cases stage with
  | usable | read | noticed => exact .inl rfl
  | @closed found _ _ _ _ _ => cases found <;> simp [leftOver]

theorem Stage.timedOut_iff (stage : Stage events answered f)
    : f.timedOut = true ↔ .error .timeout ∈ answered := by
  cases stage <;> simp [Nat.pos_iff_ne_zero]

theorem Stage.isClosed_of_close (stage : Stage events answered f) (shut : .close ∈ events)
    : f.isClosed = true := by
  cases stage with
  | usable _ unclosed _ => exact absurd shut unclosed
  | read | noticed | closed => rfl

/-- The protocol of a future whose ticket ends in one way at most, whatever else happens to it and
in whatever order. Its waits time out at first; at most one of them brings a completion, the one
that was sent; and behind that, behind a wait that finds the future closed, and behind a close, all
of them find it closed. A wait that times out changes nothing but the flag that says so, and a
completion that comes later is still to be had. The future is left with an error exactly if the
completion was sent before the first close and no wait has brought it, and its flag is set exactly
if a wait has timed out. A completion that is sent behind a close has no effect, and to close again
has none.
-/
theorem waits_and_closes_follow_the_ticket (once : EndsOnce events)
    : let f := start.meetAll events
      let answered := start.replies events
      (∃ (waits late : Nat) (result : Option Completion),
        answered
          = .replicate waits (.error .timeout) ++ (result.map .ok).toList
            ++ .replicate late (.error .closed)
        ∧ ∀ completion ∈ result, .fulfil completion ∈ events)
      ∧ (∀ before rest, events = before ++ .wait :: rest →
          let here := start.meetAll before
          let earlier := start.replies before
          answered = earlier ++ here.wait.1 :: here.wait.2.replies rest
          ∧ (∀ completion,
              here.wait.1 = .ok completion
              ↔ .fulfil completion ∈ before ∧ .close ∉ before ∧ ∀ other, .ok other ∉ earlier)
          ∧ (here.wait.1 = .error .closed
              ↔ .close ∈ before ∨ .abandon ∈ before ∨ ∃ completion, .ok completion ∈ earlier)
          ∧ (here.wait.1 = .error .timeout
              ↔ .close ∉ before ∧ ∀ event ∈ before, event.endsTicket = false)
          ∧ (here.wait.1 = .error .timeout
              → here.wait.2 = here.expire
                ∧ ∀ completion, (here.wait.2.fulfil completion).wait.1 = .ok completion))
      ∧ (f.error = some .channelDirty
          ↔ .close ∈ events
            ∧ (∃ completion, .fulfil completion ∈ beforeClose events)
            ∧ ∀ completion, .ok completion ∉ answered)
      ∧ (f.error = none ∨ f.error = some .channelDirty)
      ∧ (f.timedOut = true ↔ .error .timeout ∈ answered)
      ∧ (.close ∈ events → f.close = f ∧ ∀ completion, f.fulfil completion = f) := by
  intro f answered
  have stage : Stage events answered f := stage_of_events events
  refine ⟨stage.answered_eq, ?_, stage.error_eq_iff once, stage.error_cases, stage.timedOut_iff,
    ?_⟩
  · rintro before rest rfl here earlier
    have stood : Stage before earlier here := stage_of_events before
    have so := once.of_append
    refine ⟨?_, fun _ => stood.wait_eq_ok_iff so, stood.wait_eq_closed_iff so,
      stood.wait_eq_timeout_iff, usable_of_timeout⟩
    exact replies_append start before (.wait :: rest)
  · intro shut
    have closed := stage.isClosed_of_close shut
    exact ⟨by simp [close, closed], fun completion => f.fulfil_of_settled completion (.inl closed)⟩

/-- A completion that comes after a time-out and is not read leaves an error behind, and the flag
that tells it from one that came in time.
-/
theorem late_completion_is_left_over
    : let events := [.wait, .fulfil ⟨.empty, true⟩, .close, .wait]
      EndsOnce events
      ∧ start.replies events = [.error .timeout, .error .closed]
      ∧ (start.meetAll events).error = some .channelDirty
      ∧ (start.meetAll events).timedOut = true := by
  intro events
  have once : EndsOnce events := Nat.le_refl 1
  have answered : start.replies events = [.error .timeout, .error .closed] := rfl
  obtain ⟨_, _, error, _, late, _⟩ := waits_and_closes_follow_the_ticket once
  rw [answered] at error late
  have inTime : .fulfil ⟨.empty, true⟩ ∈ beforeClose events :=
    List.mem_cons_of_mem _ List.mem_cons_self
  have shut : .close ∈ events := by simp [events]
  exact ⟨once, answered, error.mpr ⟨shut, ⟨_, inTime⟩, by simp⟩, late.mpr List.mem_cons_self⟩

end Future

end TaskFabric
