import CardVault.FixedRecord
import CardVault.Transfer.Steps

/-!
A session with a card. At most one chunked transfer is open at a time; calls out of turn are refused
and change nothing. A call that fails closes the open transfer and drops what was collected; a call
that loses the link also makes the session unusable until it is reset. No fault leaves a call: each
becomes a `Failure`.
-/

namespace CardVault

structure Session where
  settings : Settings
  accepted : settings.check = .ok ()
  hasSigner : Bool
  active : Option Transfer
  collected : Bytes
  usable : Bool
deriving DecidableEq

abbrev Outcome (α : Type) := Except Failure α

namespace Failure

def unusable : Failure :=
  ⟨.connectionUnavailable, none, text "Session is unusable until reset"⟩

def busy : Failure :=
  ⟨.operationInProgress, none, text "Another operation is in progress"⟩

def idle : Failure :=
  ⟨.noActiveOperation, none, text "No active operation"⟩

end Failure

namespace Session

variable {α β : Type}

def create (settings : Settings) (hasSigner : Bool) : Except SettingsError Session :=
  match accepted : settings.check with
  | .ok () => .ok ⟨settings, accepted, hasSigner, none, [], true⟩
  | .error error => .error error

theorem create_of_check {settings : Settings} (accepted : settings.check = .ok ())
    (hasSigner : Bool) :
    create settings hasSigner = .ok ⟨settings, accepted, hasSigner, none, [], true⟩ := by
  unfold create
  split
  · rfl
  · rename_i refused
    rw [accepted] at refused
    cases refused

def standard (hasSigner : Bool) : Session :=
  ⟨{}, rfl, hasSigner, none, [], true⟩

theorem create_standard (hasSigner : Bool) : create {} hasSigner = .ok (standard hasSigner) :=
  rfl

def authorizer (session : Session) : Authorizer :=
  ⟨session.hasSigner, session.settings.digestPolicy⟩

def abort (session : Session) : Session :=
  { session with active := none, collected := [] }

def reset (session : Session) : Session :=
  { session.abort with usable := true }

def after (session : Session) (kind : ErrorKind) : Session :=
  if kind = .connectionUnavailable then { session.abort with usable := false }
  else if kind.isOutOfTurn then session
  else session.abort

theorem after_closed {session : Session} {kind : ErrorKind} (usable : session.usable = true)
    (inTurn : kind.isOutOfTurn = false) :
    (session.after kind).active = none ∧
      ((session.after kind).usable = true ↔ kind ≠ .connectionUnavailable) := by
  unfold after
  by_cases lost : kind = .connectionUnavailable
  · simp [lost, abort]
  · simp [lost, inTurn, abort, usable]

def settle : Except Fault α × Session → Outcome α × Session
  | (.ok value, session) => (.ok value, session)
  | (.error fault, session) => (.error fault.failure, session.after fault.failure.kind)

/-- A call that opens a transfer or stands alone, and so needs the session to be free. -/
def whenFree (session : Session) (body : Dialogue (Except Fault α × Session)) :
    Dialogue (Outcome α × Session) :=
  if session.usable then
    if session.active.isSome then .done (.error .busy, session)
    else body.map settle
  else .done (.error .unusable, session)

/-- A call that goes on with the open transfer. -/
def whenActive (session : Session) (body : Transfer → Dialogue (Except Fault α × Session)) :
    Dialogue (Outcome α × Session) :=
  if session.usable then
    match session.active with
    | some transfer => (body transfer).map settle
    | none => .done (.error .idle, session)
  else .done (.error .unusable, session)

def andThen (first : Dialogue (Outcome α × Session))
    (next : α → Session → Dialogue (Outcome β × Session)) : Dialogue (Outcome β × Session) :=
  first.bind fun
    | (.ok value, session) => next value session
    | (.error failure, session) => .done (.error failure, session)

section Runs

variable {σ : Type} {session : Session} (peer : Peer σ) (state : σ)

theorem whenFree_eq (usable : session.usable = true) (free : session.active = none)
    (body : Dialogue (Except Fault α × Session)) : session.whenFree body = body.map settle := by
  simp [whenFree, usable, free]

theorem whenActive_eq (usable : session.usable = true) {transfer : Transfer}
    (active : session.active = some transfer)
    (body : Transfer → Dialogue (Except Fault α × Session)) :
    session.whenActive body = (body transfer).map settle := by
  simp [whenActive, usable, active]

theorem andThen_run_ok {first : Dialogue (Outcome α × Session)}
    {next : α → Session → Dialogue (Outcome β × Session)} {value : α}
    (passed : (first.run peer state).value = (.ok value, session)) :
    (andThen first next).run peer state =
      let begun := first.run peer state
      let rest := (next value session).run peer begun.peer
      ⟨rest.value, begun.events ++ rest.events, rest.peer⟩ := by
  simp [andThen, Dialogue.run_bind, passed]

theorem andThen_run_error {first : Dialogue (Outcome α × Session)}
    {next : α → Session → Dialogue (Outcome β × Session)} {failure : Failure}
    (failed : (first.run peer state).value = (.error failure, session)) :
    (andThen first next).run peer state =
      let begun := first.run peer state
      ⟨(.error failure, session), begun.events, begun.peer⟩ := by
  simp [andThen, Dialogue.run_bind, failed, Dialogue.run]

end Runs

def opened (session : Session) : Except Fault Transfer → Except Fault Unit × Session
  | .ok transfer => (.ok (), { session with active := some transfer })
  | .error fault => (.error fault, session)

variable (session : Session)

def beginStore (key : RecordKey) : Dialogue (Outcome Unit × Session) :=
  session.whenFree ((Transfer.beginStore session.settings key).map session.opened)

def continueStore (payload : Bytes) : Dialogue (Outcome Unit × Session) :=
  session.whenActive fun transfer =>
    (Transfer.continueStore session.settings transfer payload).map fun (outcome, transfer) =>
      (outcome, { session with active := some transfer })

def finalizeStore : Dialogue (Outcome Unit × Session) :=
  session.whenActive fun transfer =>
    (Transfer.finalizeStore session.settings transfer).map fun
      | (.ok (), _) => (.ok (), { session with active := none })
      | (.error fault, transfer) => (.error fault, { session with active := some transfer })

-- The signature is asked for before the first exchange, so a signer that fails keeps the card out
-- of it.
def beginRead (key : RecordKey) : Dialogue (Outcome Unit × Session) :=
  session.whenFree ((session.authorizer.authorize key).bind fun
    | .error fault => .done (.error fault, session)
    | .ok envelope => (Transfer.beginRead session.settings envelope).map fun
      | .ok transfer => (.ok (), { session with active := some transfer, collected := [] })
      | .error fault => (.error fault, session))

def continueRead : Dialogue (Outcome Bytes × Session) :=
  session.whenActive fun transfer =>
    (Transfer.continueRead session.settings transfer).map fun
      | (.ok chunk, transfer) =>
          (.ok chunk,
            { session with active := some transfer, collected := session.collected ++ chunk })
      | (.error fault, transfer) => (.error fault, { session with active := some transfer })

def finalizeRead : Dialogue (Outcome Bytes × Session) :=
  session.whenActive fun transfer =>
    (Transfer.finalizeRead session.settings transfer).map fun
      | (.ok _, _) => (.ok session.collected, session.abort)
      | (.error fault, transfer) => (.error fault, { session with active := some transfer })

def store (key : RecordKey) (payload : Bytes) : Dialogue (Outcome Unit × Session) :=
  andThen (session.beginStore key) fun _ begun =>
    andThen (begun.continueStore payload) fun _ moved => moved.finalizeStore

def read (key : RecordKey) : Dialogue (Outcome Bytes × Session) :=
  andThen (session.beginRead key) fun _ begun =>
    andThen begun.continueRead fun _ moved => moved.finalizeRead

def storeFixed (username address : Text) (message : Bytes) : Dialogue (Outcome Receipt × Session) :=
  session.whenFree ((FixedRecord.store session.settings username address message).map (·, session))

def readFixed (username address : Text) : Dialogue (Outcome Bytes × Session) :=
  session.whenFree
    ((FixedRecord.read session.settings session.authorizer username address).map (·, session))

def deleteFixed (username address : Text) : Dialogue (Outcome Receipt × Session) :=
  session.whenFree
    ((FixedRecord.delete session.settings session.authorizer username address).map (·, session))

end Session

end CardVault
