import CardVault.Proofs.FrameLayout
import CardVault.Transfer.Steps
import Mathlib.Data.List.Forall2

/-!
Plans of frames. A plan is sent frame by frame until one is not answered with success, and `Walk`
says how far that went. What is wrong with the last answer, and the part of the plan that it came to,
decide the failure that is reported.
-/

namespace CardVault

structure Planned where
  purpose : Purpose
  command : Command
  -- The kind of the failure when the card refuses this command.
  refusal : ErrorKind

/-- The kind and the status of the failure that an unsuccessful reply leads to. -/
def blame (refusal : ErrorKind) (reply : Reply) : ErrorKind × Option StatusWord :=
  match Dialogue.received reply with
  | .ok response => (refusal, some response.status)
  | .error fault => (fault.failure.kind, fault.failure.status)

theorem blame_response {refusal : ErrorKind} {reply : Reply} {response : Response}
    (answer : reply.response? = some response) :
    blame refusal reply = (refusal, some response.status) := by
  simp [blame, (Reply.received_eq_ok_iff _ _).mpr answer]

theorem blame_short {refusal : ErrorKind} {answer : Answer} (short : answer.raw.length < 2) :
    blame refusal (.ok answer) = (.malformedResponse, none) := by
  have undecoded : Response.decode answer.raw = .error .responseTooShort :=
    (Response.decode_eq_error_iff _ _).mpr ⟨short, rfl⟩
  rw [blame, Dialogue.received_undecoded undecoded]
  rfl

/-- An ordinary reply is an answer or the loss of the link. -/
def Reply.Ordinary (reply : Reply) : Prop :=
  ∀ fault, reply = .error fault → ∃ wording, fault = .link wording

/-- The card has taken a frame: its answer ends in the two bytes of success. -/
def Reply.Taken (reply : Reply) : Prop :=
  ∃ answer data, reply = .ok answer ∧ answer.raw = data ++ [0x90, 0x00]

theorem Reply.taken_iff (reply : Reply) : reply.Taken ↔ reply.status? = some 0x9000 := by
  have success : Word.bytes 0x9000 = [0x90, 0x00] := by decide
  constructor
  · rintro ⟨answer, data, rfl, raw⟩
    have given : Reply.response? (.ok answer) = some ⟨data, 0x9000⟩ := by
      refine (response?_eq_some_iff _ _).mpr ⟨answer, rfl, ?_⟩
      rw [raw, Response.encode, success]
    rw [status?, given, Option.map_some]
  · intro status
    obtain ⟨response, given, word⟩ := Option.map_eq_some_iff.mp status
    obtain ⟨answer, rfl, raw⟩ := (response?_eq_some_iff _ _).mp given
    refine ⟨answer, response.data, rfl, ?_⟩
    rw [raw, Response.encode, word, success]

theorem blame_link (refusal : ErrorKind) (wording : Text) :
    blame refusal (.error (.link wording)) = (.connectionUnavailable, none) :=
  rfl

theorem blame_inTurn {refusal : ErrorKind} {reply : Reply} (ordinary : reply.Ordinary)
    (inTurn : refusal.isOutOfTurn = false) : (blame refusal reply).1.isOutOfTurn = false := by
  cases reply with
  | error fault =>
      obtain ⟨wording, rfl⟩ := ordinary fault rfl
      rfl
  | ok answer =>
      cases decoded : Response.decode answer.raw with
      | ok response =>
          rw [blame, Dialogue.received_decoded decoded]
          exact inTurn
      | error error =>
          rw [blame_short ((Response.decode_eq_error_iff _ _).mp decoded).1]
          rfl

/-- The frames of a plan, each spelled out as the layout of its command demands. -/
def LaidOut (plan : List Planned) (frames : List Bytes) : Prop :=
  List.Forall₂ (fun planned frame => planned.command.Laid frame) plan frames

theorem laidOut_frames {plan : List Planned}
    (fit : ∀ planned ∈ plan, planned.command.data.length ≤ 255) :
    LaidOut plan (plan.map (·.command.frame)) := by
  induction plan with
  | nil => exact .nil
  | cons planned plan ih =>
      obtain ⟨fits, others⟩ := List.forall_mem_cons.mp fit
      exact .cons (Command.frame_laid fits) (ih others)

inductive Walk : List Planned → List Event → Option Failure → Prop where
  | finished : Walk [] [] none
  | taken {planned : Planned} {reply : Reply} {plan : List Planned} {events : List Event}
      {verdict : Option Failure} (success : reply.status? = some 0x9000)
      (onward : Walk plan events verdict) :
      Walk (planned :: plan)
        (.sent planned.purpose planned.command.frame reply :: events) verdict
  | stopped {planned : Planned} {reply : Reply} {plan : List Planned} {failure : Failure}
      (unsuccessful : reply.status? ≠ some 0x9000)
      (blamed : (failure.kind, failure.status) = blame planned.refusal reply) :
      Walk (planned :: plan) [.sent planned.purpose planned.command.frame reply] (some failure)

namespace Walk

open Dialogue

variable {plan more : List Planned} {events others : List Event} {verdict : Option Failure}
  {failure : Failure}

theorem append (first : Walk plan events none) (second : Walk more others verdict) :
    Walk (plan ++ more) (events ++ others) verdict := by
  generalize passed : (none : Option Failure) = outcome at first
  induction first with
  | finished => exact second
  | taken success _ ih => exact taken success (ih passed)
  | stopped _ _ => cases passed

theorem accepted {planned : Planned} {reply : Reply} {response : Response}
    (given : received reply = .ok response) (success : response.status.isSuccess = true)
    (onward : Walk plan events verdict) :
    Walk (planned :: plan)
      (.sent planned.purpose planned.command.frame reply :: events) verdict := by
  have answer := (Reply.received_eq_ok_iff _ _).mp given
  have word := (StatusWord.isSuccess_iff_eq _).mp success
  exact taken (by simp [Reply.status?, answer, word]) onward

theorem refused {planned : Planned} {reply : Reply} {response : Response}
    (given : received reply = .ok response) (unsuccessful : ¬ response.status.isSuccess = true)
    (kind : failure.kind = planned.refusal) (status : failure.status = some response.status) :
    Walk (planned :: plan) [.sent planned.purpose planned.command.frame reply] (some failure) := by
  have answer := (Reply.received_eq_ok_iff _ _).mp given
  refine stopped ?_ (by simp [blame, given, kind, status])
  simpa [Reply.status?, answer, StatusWord.isSuccess_iff_eq] using unsuccessful

theorem lost {planned : Planned} {reply : Reply} {fault : Fault}
    (given : received reply = .error fault) :
    Walk (planned :: plan) [.sent planned.purpose planned.command.frame reply]
      (some fault.failure) := by
  refine stopped ?_ (by simp [blame, given])
  simp [Reply.status?, Reply.response?, given, Except.toOption]

theorem extend (first : Walk plan events (some failure)) (more : List Planned) :
    Walk (plan ++ more) events (some failure) := by
  generalize failed : some failure = outcome at first
  induction first with
  | finished => cases failed
  | taken success _ ih => exact taken success (ih failed)
  | stopped unsuccessful blamed => exact stopped unsuccessful blamed

theorem through (walk : Walk plan events none) :
    events.filterMap Event.frame? = plan.map (·.command.frame) ∧
      ∀ reply ∈ events.filterMap Event.reply?, reply.status? = some 0x9000 := by
  generalize passed : (none : Option Failure) = outcome at walk
  induction walk with
  | finished => simp
  | taken success _ ih =>
      obtain ⟨frames, replies⟩ := ih passed
      constructor
      · simp [Event.frame?, frames]
      · simpa [Event.reply?, success] using replies
  | stopped _ _ => cases passed

theorem complete (walk : Walk plan events verdict)
    (taken : ∀ reply ∈ events.filterMap Event.reply?, reply.status? = some 0x9000) :
    verdict = none := by
  induction walk with
  | finished => rfl
  | taken success _ ih =>
      apply ih
      intro reply member
      exact taken reply (List.mem_cons_of_mem _ member)
  | stopped unsuccessful _ => exact absurd (taken _ List.mem_cons_self) unsuccessful

theorem halted (walk : Walk plan events (some failure)) :
    ∃ done planned undone earlier last,
      plan = done ++ planned :: undone ∧
        events.filterMap Event.frame? = (done ++ [planned]).map (·.command.frame) ∧
        events.filterMap Event.reply? = earlier ++ [last] ∧
        (∀ reply ∈ earlier, reply.status? = some 0x9000) ∧
        last.status? ≠ some 0x9000 ∧
        (failure.kind, failure.status) = blame planned.refusal last := by
  generalize failed : some failure = outcome at walk
  induction walk with
  | finished => cases failed
  | @taken planned reply plan events verdict success _ ih =>
      obtain ⟨done, stopper, undone, earlier, last, split, frames, replies, fine, bad, blamed⟩ :=
        ih failed
      refine ⟨planned :: done, stopper, undone, reply :: earlier, last, ?_, ?_, ?_, ?_, bad,
        blamed⟩
      · simp [split]
      · simp [Event.frame?, frames]
      · simp [Event.reply?, replies]
      · simpa [success] using fine
  | @stopped planned reply plan blamedFailure unsuccessful blamed =>
      cases failed
      exact ⟨[], planned, plan, [], reply, rfl, rfl, rfl, by simp, unsuccessful, blamed⟩

end Walk

/-- Each event sends one part of a plan. -/
def Pursues (plan : List Planned) (events : List Event) : Prop :=
  List.Forall₂ (fun planned event => ∃ reply,
    event = .sent planned.purpose planned.command.frame reply) plan events

theorem Walk.pursues {plan : List Planned} {events : List Event} {verdict : Option Failure}
    (walk : Walk plan events verdict) :
    ∃ done undone, plan = done ++ undone ∧ Pursues done events ∧ (verdict = none → undone = []) := by
  induction walk with
  | finished => exact ⟨[], [], rfl, .nil, fun _ => rfl⟩
  | @taken planned reply plan events verdict _ _ ih =>
      obtain ⟨done, undone, split, pursues, whole⟩ := ih
      exact ⟨planned :: done, undone, congrArg (planned :: ·) split, .cons ⟨reply, rfl⟩ pursues,
        whole⟩
  | @stopped planned reply plan _ _ _ =>
      exact ⟨[planned], plan, rfl, .cons ⟨reply, rfl⟩ .nil, fun passed => by cases passed⟩

theorem Pursues.purposes {plan : List Planned} {events : List Event}
    (pursues : Pursues plan events) :
    events.filterMap Event.purpose? = plan.map (·.purpose) := by
  induction pursues with
  | nil => rfl
  | cons sent _ ih =>
      obtain ⟨reply, rfl⟩ := sent
      simp [Event.purpose?, ih]

end CardVault
