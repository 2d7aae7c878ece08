import CardVault.Proofs.Raised
import CardVault.Proofs.Refusal

/-!
Every call for which a session is ready is candid. What it leaves behind follows from how it ends: a
success leaves what the call is for, and a failure leaves no transfer, unless a peer has complained
about the order of calls, in which case the transfer stays behind aborted. The session is unusable
afterwards exactly if the link is reported lost.
-/

namespace CardVault.Session

open Dialogue

variable {α β γ : Type} {session after : Session} {kind : ErrorKind} {good : α → Session → Prop}
  {better : β → Session → Prop}

structure Alike (session after : Session) : Prop where
  settings : after.settings = session.settings
  signer : after.hasSigner = session.hasSigner
  usable : after.usable = session.usable

/-- What a failure of some kind leaves of a session. -/
structure Failed (session : Session) (kind : ErrorKind) (after : Session) : Prop where
  settings : after.settings = session.settings
  signer : after.hasSigner = session.hasSigner
  usable : after.usable = true ↔ kind ≠ .connectionUnavailable
  spent : ∀ transfer, after.active = some transfer →
    kind.isOutOfTurn = true ∧ transfer.phase = .aborted

theorem Failed.of_alike {left : Session} (failed : after.Failed kind left)
    (alike : session.Alike after) : session.Failed kind left :=
  ⟨failed.settings.trans alike.settings, failed.signer.trans alike.signer, failed.usable,
    failed.spent⟩

theorem after_failed {left : Session} (usable : session.usable = true) (alike : session.Alike left)
    (spent : kind.isOutOfTurn = true →
      ∀ transfer, left.active = some transfer → transfer.phase = .aborted) :
    session.Failed kind (left.after kind) := by
  have leftUsable : left.usable = true := alike.usable.trans usable
  unfold after
  by_cases lost : kind = .connectionUnavailable
  · simp only [lost, ↓reduceIte]
    exact ⟨alike.settings, alike.signer, by simp, fun _ open_ => by cases open_⟩
  · simp only [lost, ↓reduceIte]
    split
    · rename_i outOfTurn
      exact ⟨alike.settings, alike.signer, by simp [leftUsable, lost], fun transfer open_ =>
        ⟨outOfTurn, spent outOfTurn transfer open_⟩⟩
    · exact ⟨alike.settings, alike.signer, by simp [abort, leftUsable, lost],
        fun _ open_ => by cases open_⟩

def Reports (session : Session) (fault : Fault) (result : Outcome α × Session) : Prop :=
  result.1 = .error fault.failure ∧ session.Failed fault.failure.kind result.2

def Sound (session : Session) (good : α → Session → Prop) : Outcome α × Session → Prop
  | (.ok value, after) => session.Alike after ∧ good value after
  | (.error failure, after) =>
      failure.kind.isOutOfTurn = false ∧ session.Failed failure.kind after

def BodyReports (session : Session) (fault : Fault) (result : Except Fault α × Session) : Prop :=
  fault.ReportedIn result.1 ∧ session.Alike result.2 ∧
    (fault.failure.kind.isOutOfTurn = true →
      ∀ transfer, result.2.active = some transfer → transfer.phase = .aborted)

def BodySound (session : Session) (good : α → Session → Prop) (result : Except Fault α × Session) :
    Prop :=
  Owned (fun value => good value result.2) result.1 ∧ session.Alike result.2

theorem settle_candid {body : Dialogue (Except Fault α × Session)} (usable : session.usable = true)
    (first : Candid session.BodyReports (session.BodySound good) body) :
    Candid session.Reports (session.Sound good) (body.map settle) := by
  apply candid_map first
  · rintro ⟨outcome, after⟩ ⟨owned, alike⟩
    cases outcome with
    | ok value => exact ⟨alike, owned⟩
    | error fault =>
        refine ⟨owned, after_failed usable alike fun outOfTurn => ?_⟩
        rw [owned] at outOfTurn
        cases outOfTurn
  · rintro fault ⟨_, after⟩ ⟨⟨other, rfl, same⟩, alike, spent⟩
    refine ⟨congrArg Except.error same, ?_⟩
    have failed := after_failed usable alike spent
    rw [← same] at failed ⊢
    exact failed

theorem asked_candid {dialogue : Dialogue (Except Fault γ)} {fine : γ → Prop}
    {change : Except Fault γ → Except Fault α × Session} (free : session.Free)
    (first : Candid Fault.ReportedIn (Owned fine) dialogue)
    (relays : ∀ fault, change (.error fault) = (.error fault, session))
    (onward : ∀ value, fine value → session.BodySound good (change (.ok value))) :
    Candid session.BodyReports (session.BodySound good) (dialogue.map change) := by
  apply candid_map first
  · intro outcome owned
    cases outcome with
    | ok value => exact onward value owned
    | error fault =>
        rw [relays]
        exact ⟨owned, rfl, rfl, rfl⟩
  · rintro fault _ ⟨other, rfl, same⟩
    rw [relays]
    refine ⟨⟨other, rfl, same⟩, ⟨rfl, rfl, rfl⟩, fun _ transfer open_ => ?_⟩
    rw [free.2] at open_
    cases open_

theorem stepped_candid {step : Dialogue (Except Fault γ × Transfer)}
    {fine : γ → Transfer → Prop} {change : Except Fault γ × Transfer → Except Fault α × Session}
    (first : Candid Transfer.Reports (Transfer.Sound fine) step)
    (relays : ∀ fault after,
      change (.error fault, after) = (.error fault, { session with active := some after }))
    (onward : ∀ value after, fine value after →
      session.BodySound good (change (.ok value, after))) :
    Candid session.BodyReports (session.BodySound good) (step.map change) := by
  apply candid_map first
  · rintro ⟨outcome, after⟩ sound
    cases outcome with
    | ok value => exact onward value after sound
    | error fault =>
        rw [relays]
        exact ⟨sound, rfl, rfl, rfl⟩
  · rintro fault ⟨_, after⟩ ⟨⟨other, rfl, same⟩, aborted⟩
    rw [relays]
    refine ⟨⟨other, rfl, same⟩, ⟨rfl, rfl, rfl⟩, fun outOfTurn transfer open_ => ?_⟩
    cases open_
    exact aborted outOfTurn

theorem andThen_candid {first : Dialogue (Outcome α × Session)}
    {next : α → Session → Dialogue (Outcome β × Session)}
    (begun : Candid session.Reports (session.Sound good) first)
    (onward : ∀ value after, good value after →
      Candid after.Reports (after.Sound better) (next value after)) :
    Candid session.Reports (session.Sound better) (andThen first next) := by
  apply candid_bind begun
  · rintro ⟨outcome, after⟩ sound
    cases outcome with
    | ok value =>
        obtain ⟨alike, holds⟩ := sound
        apply candid_weaken (onward value after holds)
        · rintro fault ⟨outcome, left⟩ ⟨reported, failed⟩
          exact ⟨reported, failed.of_alike alike⟩
        · rintro ⟨outcome, left⟩ later
          cases outcome with
          | ok value =>
              exact ⟨⟨later.1.settings.trans alike.settings, later.1.signer.trans alike.signer,
                later.1.usable.trans alike.usable⟩, later.2⟩
          | error failure => exact ⟨later.1, later.2.of_alike alike⟩
    | error failure => exact sound
  · rintro fault ⟨_, after⟩ ⟨rfl, failed⟩
    exact ⟨_, rfl, rfl, failed⟩

theorem candid_ok {σ : Type} {dialogue : Dialogue (Outcome α × Session)}
    (candid : Candid session.Reports (session.Sound good) dialogue) (peer : Peer σ) (state : σ)
    {value : α} (given : (dialogue.run peer state).value = (.ok value, after)) :
    session.Alike after ∧ good value after := by
  rcases candid_run candid peer state with ⟨sound, _⟩ | ⟨_, _, fault, _, _, _, failed, _⟩
  · rw [given] at sound
    exact sound
  · rw [given] at failed
    cases failed

section Phased

theorem beginStore_candid (free : session.Free) (key : RecordKey) :
    Candid session.Reports (session.Sound fun _ after => after.Carries .store)
      (session.beginStore key) := by
  rw [beginStore, whenFree_eq free.1 free.2]
  apply settle_candid free.1
  apply asked_candid free (Transfer.beginStore_candid session.settings key)
  · exact fun _ => rfl
  · intro transfer open_
    exact ⟨⟨free.1, transfer, rfl, open_⟩, rfl, rfl, rfl⟩

theorem beginRead_candid (free : session.Free) (key : RecordKey) :
    Candid session.Reports
      (session.Sound fun _ after => after.Carries .read ∧ after.collected = [])
      (session.beginRead key) := by
  rw [beginRead, whenFree_eq free.1 free.2]
  apply settle_candid free.1
  apply candid_bind (session.authorizer.authorize_candid key)
  · intro authorized owned
    cases authorized with
    | error fault => exact ⟨owned, rfl, rfl, rfl⟩
    | ok envelope =>
        apply asked_candid free (Transfer.beginRead_candid session.settings envelope)
        · exact fun _ => rfl
        · intro transfer open_
          exact ⟨⟨⟨free.1, transfer, rfl, open_⟩, rfl⟩, rfl, rfl, rfl⟩
  · rintro fault _ ⟨other, rfl, same⟩
    refine ⟨_, rfl, ⟨other, rfl, same⟩, ⟨rfl, rfl, rfl⟩, fun _ transfer open_ => ?_⟩
    rw [free.2] at open_
    cases open_

theorem continueStore_candid (carries : session.Carries .store) (payload : Bytes) :
    Candid session.Reports (session.Sound fun _ after => after.Carries .store)
      (session.continueStore payload) := by
  obtain ⟨usable, transfer, active, open_⟩ := carries
  rw [continueStore, whenActive_eq usable active]
  apply settle_candid usable
  apply stepped_candid (Transfer.continueStore_candid session.settings payload open_)
  · exact fun _ _ => rfl
  · intro _ grown still
    exact ⟨⟨usable, grown, rfl, still⟩, rfl, rfl, rfl⟩

theorem finalizeStore_candid (carries : session.Carries .store) :
    Candid session.Reports (session.Sound fun _ after => after.active = none)
      session.finalizeStore := by
  obtain ⟨usable, transfer, active, open_⟩ := carries
  rw [finalizeStore, whenActive_eq usable active]
  apply settle_candid usable
  apply stepped_candid (Transfer.finalizeStore_candid session.settings open_)
  · exact fun _ _ => rfl
  · intro _ _ _
    exact ⟨rfl, rfl, rfl, rfl⟩

theorem continueRead_candid (carries : session.Carries .read) :
    Candid session.Reports
      (session.Sound fun chunk after =>
        after.Carries .read ∧ after.collected = session.collected ++ chunk)
      session.continueRead := by
  obtain ⟨usable, transfer, active, open_⟩ := carries
  rw [continueRead, whenActive_eq usable active]
  apply settle_candid usable
  apply stepped_candid (Transfer.continueRead_candid session.settings open_)
  · exact fun _ _ => rfl
  · intro chunk grown still
    exact ⟨⟨⟨usable, grown, rfl, still⟩, rfl⟩, rfl, rfl, rfl⟩

theorem finalizeRead_candid (carries : session.Carries .read) :
    Candid session.Reports
      (session.Sound fun payload after => payload = session.collected ∧ after.active = none)
      session.finalizeRead := by
  obtain ⟨usable, transfer, active, open_⟩ := carries
  rw [finalizeRead, whenActive_eq usable active]
  apply settle_candid usable
  apply stepped_candid (Transfer.finalizeRead_candid session.settings open_)
  · exact fun _ _ => rfl
  · intro _ _ _
    exact ⟨⟨rfl, rfl⟩, rfl, rfl, rfl⟩

end Phased

theorem store_candid (free : session.Free) (key : RecordKey) (payload : Bytes) :
    Candid session.Reports (session.Sound fun _ after => after.active = none)
      (session.store key payload) :=
  andThen_candid (beginStore_candid free key) fun _ _ begun =>
    andThen_candid (continueStore_candid begun payload) fun _ _ moved => finalizeStore_candid moved

theorem read_candid (free : session.Free) (key : RecordKey) :
    Candid session.Reports (session.Sound fun _ after => after.active = none)
      (session.read key) :=
  andThen_candid (beginRead_candid free key) fun _ _ begun =>
    andThen_candid (continueRead_candid begun.1) fun _ _ moved =>
      candid_weaken (finalizeRead_candid moved.1) (fun _ _ reported => reported) (by
        rintro ⟨outcome, after⟩ sound
        cases outcome with
        | ok value => exact ⟨sound.1, sound.2.2⟩
        | error failure => exact sound)

theorem fixed_candid {operation : Dialogue (Except Fault α)} (free : session.Free)
    (first : Candid Fault.ReportedIn (Owned fun _ => True) operation) :
    Candid session.Reports (session.Sound fun _ after => after.active = none)
      (session.whenFree (operation.map (·, session))) := by
  rw [whenFree_eq free.1 free.2]
  apply settle_candid free.1
  apply asked_candid free first
  · exact fun _ => rfl
  · intro value _
    exact ⟨free.2, rfl, rfl, rfl⟩

/-- What a call that succeeds has to show, and what it leaves behind. -/
def Achieves (session : Session) : Call → Option Bytes → Session → Prop
  | .beginStore _, payload, after => payload = none ∧ after.Carries .store
  | .continueStore _, payload, after => payload = none ∧ after.Carries .store
  | .finalizeStore, payload, after => payload = none ∧ after.active = none
  | .beginRead _, payload, after => payload = none ∧ after.Carries .read ∧ after.collected = []
  | .continueRead, payload, after => ∃ chunk, payload = some chunk ∧
      after.Carries .read ∧ after.collected = session.collected ++ chunk
  | .finalizeRead, payload, after => payload = some session.collected ∧ after.active = none
  | _, _, after => after.active = none

def Answers (wanted : Outcome (Option Bytes) × Session → Prop) (value : Option Result × Session) :
    Prop :=
  ∃ outcome, value.1 = some outcome ∧ wanted (outcome, value.2)

theorem shown_candid {payload : α → Option Bytes} {dialogue : Dialogue (Outcome α × Session)}
    {shows : Option Bytes → Session → Prop}
    (first : Candid session.Reports (session.Sound good) dialogue)
    (onward : ∀ value after, good value after → shows (payload value) after) :
    Candid (fun fault => Answers (session.Reports fault)) (Answers (session.Sound shows))
      (shown payload dialogue) := by
  apply candid_map first
  · rintro ⟨outcome, after⟩ sound
    refine ⟨_, rfl, ?_⟩
    cases outcome with
    | ok value => exact ⟨sound.1, onward value after sound.2⟩
    | error failure => exact sound
  · rintro fault ⟨_, after⟩ ⟨rfl, failed⟩
    exact ⟨_, rfl, rfl, failed⟩

theorem perform_candid {call : Call} (answers : call.isControl = false) (ready : session.Ready call) :
    Candid (fun fault => Answers (session.Reports fault))
      (Answers (session.Sound (session.Achieves call))) (session.perform call) := by
  cases call with
  | beginStore key =>
      exact shown_candid (beginStore_candid ready key) fun _ _ begun => ⟨rfl, begun⟩
  | continueStore payload =>
      exact shown_candid (continueStore_candid ready payload) fun _ _ moved => ⟨rfl, moved⟩
  | finalizeStore =>
      exact shown_candid (finalizeStore_candid ready) fun _ _ closed => ⟨rfl, closed⟩
  | beginRead key =>
      exact shown_candid (beginRead_candid ready key) fun _ _ begun => ⟨rfl, begun⟩
  | continueRead =>
      exact shown_candid (continueRead_candid ready) fun chunk _ moved => ⟨chunk, rfl, moved⟩
  | finalizeRead =>
      exact shown_candid (finalizeRead_candid ready) fun _ _ closed =>
        ⟨congrArg some closed.1, closed.2⟩
  | store key payload => exact shown_candid (store_candid ready key payload) fun _ _ closed => closed
  | read key => exact shown_candid (read_candid ready key) fun _ _ closed => closed
  | storeFixed username address message =>
      exact shown_candid (fixed_candid ready (FixedRecord.store_candid _ _ _ _)) fun _ _ free => free
  | readFixed username address =>
      exact shown_candid (fixed_candid ready (FixedRecord.read_candid _ _ _ _)) fun _ _ free => free
  | deleteFixed username address =>
      exact shown_candid (fixed_candid ready (FixedRecord.delete_candid _ _ _ _)) fun _ _ free => free
  | abort => cases answers
  | reset => cases answers

section Runs

variable {σ : Type} {call : Call} (peer : Peer σ) (state : σ)

theorem perform_ends (answers : call.isControl = false) (ready : session.Ready call) :
    let transcript := (session.perform call).run peer state
    (∃ payload, transcript.value.1 = some (.ok payload) ∧ session.Alike transcript.value.2 ∧
      session.Achieves call payload transcript.value.2) ∨
    ∃ failure, transcript.value.1 = some (.error failure) ∧
      session.Failed failure.kind transcript.value.2 ∧
      (failure.kind.isOutOfTurn = true → ∃ event ∈ transcript.events, ∃ error,
        event.fault? = some (.protocol error) ∧ error.kind = failure.kind) := by
  intro transcript
  rcases candid_run (perform_candid answers ready) peer state with
    ⟨⟨outcome, shows, sound⟩, _⟩ | ⟨earlier, last, fault, split, _, raised, outcome, shows, reports⟩
  · cases outcome with
    | ok payload => exact Or.inl ⟨payload, shows, sound⟩
    | error failure =>
        obtain ⟨inTurn, failed⟩ := sound
        refine Or.inr ⟨failure, shows, failed, fun outOfTurn => ?_⟩
        rw [inTurn] at outOfTurn
        cases outOfTurn
  · obtain ⟨rfl, failed⟩ := reports
    refine Or.inr ⟨fault.failure, shows, failed, fun outOfTurn => ?_⟩
    obtain ⟨error, rfl, same⟩ := Fault.outOfTurn_protocol outOfTurn
    have member : last ∈ transcript.events := by
      simp only [transcript, split, List.mem_append, List.mem_singleton, or_true]
    exact ⟨last, member, error, raised, same⟩

theorem perform_raised {event : Event} {fault : Fault}
    (member : event ∈ ((session.perform call).run peer state).events)
    (raised : event.fault? = some fault) :
    let transcript := (session.perform call).run peer state
    (∃ earlier, transcript.events = earlier ++ [event] ∧
      ∀ before ∈ earlier, before.fault? = none) ∧
      transcript.value.1 = some (.error fault.failure) ∧
      session.Failed fault.failure.kind transcript.value.2 := by
  intro transcript
  cases control : call.isControl with
  | true =>
      cases call with
      | abort => simp [perform, run] at member
      | reset => simp [perform, run] at member
      | _ => cases control
  | false =>
      by_cases ready : session.Ready call
      · have told := candid_run (perform_candid control ready) peer state
        obtain ⟨last, outcome, shows, reported, failed⟩ := told.of_raised member raised
        exact ⟨last, shows.trans (congrArg some reported), failed⟩
      · obtain ⟨message, refused⟩ := perform_refused control ready
        rw [refused] at member
        cases member

/-- What a call does to the rest of a session: nothing at all, but that the loss of the link makes it
unusable until it is reset. -/
theorem perform_latches (session : Session) (call : Call) :
    let transcript := (session.perform call).run peer state
    let after := transcript.value.2
    after.settings = session.settings ∧ after.hasSigner = session.hasSigner ∧
      (session.usable = true → (after.usable = false ↔ ∃ failure,
        transcript.value.1 = some (.error failure) ∧ failure.kind = .connectionUnavailable)) ∧
      (session.usable = false → (after.usable = true ↔ call = .reset)) := by
  intro transcript after
  cases control : call.isControl with
  | true =>
      cases call with
      | abort =>
          refine ⟨rfl, rfl, fun usable => ?_, fun unusable => ?_⟩
          · simp [after, transcript, perform, run, abort, usable]
          · simp [after, transcript, perform, run, abort, unusable]
      | reset => exact ⟨rfl, rfl, fun _ => by simp [after, transcript, perform, run, reset],
          fun _ => by simp [after, transcript, perform, run, reset]⟩
      | _ => cases control
  | false =>
      have notReset : call ≠ .reset := by
        rintro rfl
        cases control
      by_cases ready : session.Ready call
      · have usable : session.usable = true := by
          unfold Ready at ready
          split at ready <;> exact ready.1
        have latch : session.usable = false → (after.usable = true ↔ call = .reset) :=
          fun unusable => by cases usable.symm.trans unusable
        rcases perform_ends peer state control ready with
          ⟨payload, shows, alike, _⟩ | ⟨failure, shows, failed, _⟩
        · refine ⟨alike.settings, alike.signer, fun _ => ?_, latch⟩
          rw [shows, alike.usable, usable]
          simp
        · refine ⟨failed.settings, failed.signer, fun _ => ?_, latch⟩
          rw [shows, Bool.eq_false_iff, ne_eq, failed.usable]
          simp
      · obtain ⟨message, refused⟩ := perform_refused control ready
        have same : after = session := by
          simp only [after, transcript, refused, run]
        have shows : transcript.value.1 =
            some (.error ⟨session.refusalKind call, none, message⟩) := by
          simp only [transcript, refused, run]
        refine ⟨by rw [same], by rw [same], fun _ => ?_, fun unusable => ?_⟩
        · rw [shows, same, ← session.refusalKind_lost call]
          simp
        · simp [same, unusable, notReset]

end Runs

end CardVault.Session
