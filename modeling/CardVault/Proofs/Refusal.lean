import CardVault.Session.Call

/-!
Refusals. A call that goes on with a transfer needs one that is open in its direction; any other call
needs the session to be free of transfers. A call for which the session is not ready is over before
anything is sent or signed, and leaves the session as it was.
-/

namespace CardVault

open Dialogue

def Call.direction? : Call → Option Direction
  | .continueStore _ | .finalizeStore => some .store
  | .continueRead | .finalizeRead => some .read
  | _ => none

def Call.isControl : Call → Bool
  | .abort | .reset => true
  | _ => false

namespace Transfer

variable {transfer : Transfer} (settings : Settings)

theorem continueStore_refuses (closed : transfer.accepts .store = false) (payload : Bytes) :
    continueStore settings transfer payload = .done (transfer.refuse .advance) := by
  simp [continueStore, closed]

theorem finalizeStore_refuses (closed : transfer.accepts .store = false) :
    finalizeStore settings transfer = .done (transfer.refuse .finalize) := by
  simp [finalizeStore, closed]

theorem continueRead_refuses (closed : transfer.accepts .read = false) :
    continueRead settings transfer = .done (transfer.refuse .advance) := by
  simp [continueRead, closed]

theorem finalizeRead_refuses (closed : transfer.accepts .read = false) :
    finalizeRead settings transfer = .done (transfer.refuse .finalize) := by
  simp [finalizeRead, closed]

end Transfer

namespace Session

variable {α β : Type} {session : Session} {kind : ErrorKind}

def Free (session : Session) : Prop :=
  session.usable = true ∧ session.active = none

def Carries (session : Session) (direction : Direction) : Prop :=
  session.usable = true ∧
    ∃ transfer, session.active = some transfer ∧ transfer.accepts direction = true

/-- What a call finds is what it needs. -/
def Ready (session : Session) (call : Call) : Prop :=
  match call.direction? with
  | some direction => session.Carries direction
  | none => session.Free

def refusalKind (session : Session) (call : Call) : ErrorKind :=
  if session.usable then
    match call.direction? with
    | some _ => .noActiveOperation
    | none => .operationInProgress
  else .connectionUnavailable

theorem refusalKind_lost (session : Session) (call : Call) :
    session.refusalKind call = .connectionUnavailable ↔ session.usable = false := by
  unfold refusalKind
  cases session.usable with
  | false => simp
  | true =>
      simp only [↓reduceIte]
      split <;> simp

/-- A dialogue that is over at once, with a failure of some kind and without a status, and that
leaves the session as it was. -/
def RefusedAs (session : Session) (kind : ErrorKind) (dialogue : Dialogue (Outcome α × Session)) :
    Prop :=
  ∃ message, dialogue = .done (.error ⟨kind, none, message⟩, session)

theorem andThen_refused {first : Dialogue (Outcome α × Session)}
    {next : α → Session → Dialogue (Outcome β × Session)}
    (refused : session.RefusedAs kind first) : session.RefusedAs kind (andThen first next) := by
  obtain ⟨message, rfl⟩ := refused
  exact ⟨message, rfl⟩

theorem whenFree_refused (body : Dialogue (Except Fault α × Session)) (engaged : ¬ session.Free) :
    session.RefusedAs (if session.usable then .operationInProgress else .connectionUnavailable)
      (session.whenFree body) := by
  cases usable : session.usable with
  | false => exact ⟨Failure.unusable.message, by simp [whenFree, usable, Failure.unusable]⟩
  | true =>
      have busy : session.active.isSome = true := by
        cases active : session.active with
        | none => exact absurd ⟨usable, active⟩ engaged
        | some transfer => rfl
      exact ⟨Failure.busy.message, by simp [whenFree, usable, busy, Failure.busy]⟩

theorem whenActive_refused {body : Transfer → Dialogue (Except Fault α × Session)}
    {direction : Direction} (step : LaterStep)
    (refuses : ∀ transfer, transfer.accepts direction = false →
      body transfer =
        .done (.error (.protocol (.outOfSequence step)), { session with active := some transfer }))
    (closed : ¬ session.Carries direction) :
    session.RefusedAs (if session.usable then .noActiveOperation else .connectionUnavailable)
      (session.whenActive body) := by
  cases usable : session.usable with
  | false => exact ⟨Failure.unusable.message, by simp [whenActive, usable, Failure.unusable]⟩
  | true =>
      cases active : session.active with
      | none => exact ⟨Failure.idle.message, by simp [whenActive, usable, active, Failure.idle]⟩
      | some transfer =>
          have deaf : transfer.accepts direction = false := by
            cases accepts : transfer.accepts direction with
            | false => rfl
            | true => exact absurd ⟨usable, transfer, active, accepts⟩ closed
          have same : { session with active := some transfer } = session := by rw [← active]
          refine ⟨(ProtocolError.outOfSequence step).message, ?_⟩
          rw [whenActive_eq usable active, refuses transfer deaf, same]
          rfl

theorem shown_refused {payload : α → Option Bytes} {dialogue : Dialogue (Outcome α × Session)}
    (refused : session.RefusedAs kind dialogue) :
    ∃ message, shown payload dialogue = .done (some (.error ⟨kind, none, message⟩), session) := by
  obtain ⟨message, rfl⟩ := refused
  exact ⟨message, rfl⟩

theorem perform_refused {call : Call} (answers : call.isControl = false)
    (unready : ¬ session.Ready call) : ∃ message, session.perform call =
      .done (some (.error ⟨session.refusalKind call, none, message⟩), session) := by
  cases call with
  | beginStore key => exact shown_refused (whenFree_refused _ unready)
  | continueStore payload =>
      apply shown_refused (whenActive_refused .advance _ unready)
      intro transfer closed
      rw [Transfer.continueStore_refuses _ closed]
      rfl
  | finalizeStore =>
      apply shown_refused (whenActive_refused .finalize _ unready)
      intro transfer closed
      rw [Transfer.finalizeStore_refuses _ closed]
      rfl
  | beginRead key => exact shown_refused (whenFree_refused _ unready)
  | continueRead =>
      apply shown_refused (whenActive_refused .advance _ unready)
      intro transfer closed
      rw [Transfer.continueRead_refuses _ closed]
      rfl
  | finalizeRead =>
      apply shown_refused (whenActive_refused .finalize _ unready)
      intro transfer closed
      rw [Transfer.finalizeRead_refuses _ closed]
      rfl
  | store key payload => exact shown_refused (andThen_refused (whenFree_refused _ unready))
  | read key => exact shown_refused (andThen_refused (whenFree_refused _ unready))
  | storeFixed username address message => exact shown_refused (whenFree_refused _ unready)
  | readFixed username address => exact shown_refused (whenFree_refused _ unready)
  | deleteFixed username address => exact shown_refused (whenFree_refused _ unready)
  | abort => cases answers
  | reset => cases answers

theorem ready_of_success {σ : Type} {call : Call} {peer : Peer σ} {state : σ}
    {payload : Option Bytes} (answers : call.isControl = false)
    (succeeded : ((session.perform call).run peer state).value.1 = some (.ok payload)) :
    session.Ready call := by
  by_cases ready : session.Ready call
  · exact ready
  · obtain ⟨message, refused⟩ := perform_refused answers ready
    rw [refused] at succeeded
    cases succeeded

end Session

end CardVault
