import CardVault.Link
import CardVault.Session.Call
import CardVault.Transfer.Steps

/-!
The phases that the calls of a transfer name, and the states that those of a link name. A move that
is not allowed would be counted and change nothing, and no call asks whether it was; so it is to be
said where a call means to leave a transfer or a link. A transfer that fails to begin is dropped, but it
has moved like any other; `openStore` and `openRead` keep it.
-/

namespace CardVault

namespace Transfer

variable (settings : Settings)

def answerStore : Except Fault Response → Except Fault Unit × Transfer
  | .error fault => (.error fault, fresh .store)
  | .ok response =>
      if response.status.isSuccess then (.ok (), (fresh .store).enter .init)
      else (fresh .store).abort (.initRejected .store response.status)

def answerRead : Except Fault Response → Except Fault Unit × Transfer
  | .error fault => (.error fault, fresh .read)
  | .ok response =>
      if response.status.isSuccess then
        match Word.read response.data 0 with
        | .ok (some total) => (.ok (), ((fresh .read).enter .init).announce total.toUInt64)
        | _ => (fresh .read).abort (.lengthMissing response.data.length)
      else (fresh .read).abort (.initRejected .read response.status)

def openStore (key : RecordKey) : Dialogue (Except Fault Unit × Transfer) :=
  (Dialogue.exchangeFor (.init .store) (initCommand settings .store key.wire)).map answerStore

def openRead (envelope : Envelope) : Dialogue (Except Fault Unit × Transfer) :=
  match envelope.wire with
  | .error error => .done (.error (.protocol error), fresh .read)
  | .ok data =>
      (Dialogue.exchangeFor (.init .read) (initCommand settings .read data)).map answerRead

def handedOn : Except Fault Unit × Transfer → Except Fault Transfer
  | (.ok (), transfer) => .ok transfer
  | (.error fault, _) => .error fault

theorem beginStore_eq (key : RecordKey) :
    beginStore settings key = (openStore settings key).map handedOn := by
  rw [beginStore, openStore, Dialogue.map, Dialogue.map, Dialogue.map, Dialogue.bind_assoc]
  congr 1
  funext outcome
  cases outcome with
  | error fault => rfl
  | ok response =>
      simp only [answerStore, Dialogue.bind]
      split <;> rfl

theorem beginRead_eq (envelope : Envelope) :
    beginRead settings envelope = (openRead settings envelope).map handedOn := by
  rw [beginRead, openRead]
  cases envelope.wire with
  | error error => rfl
  | ok data =>
      simp only [Dialogue.map, Dialogue.bind_assoc]
      congr 1
      funext outcome
      cases outcome with
      | error fault => rfl
      | ok response =>
          simp only [answerRead, Dialogue.bind]
          split
          · rcases Word.read response.data 0 with _ | _ | _ <;> rfl
          · rfl

/-- The phase that INIT names last; an answer that does not let the transfer begin aborts it. -/
def phaseOpened (answered : Bool) : Except Fault Unit → Phase
  | .ok () => .init
  | .error _ => if answered then .aborted else .idle

/-- The phase that a later step names last, where the transfer accepts the step. A protocol error
ends the transfer, and any other fault interrupts it where it is. -/
def phaseAfter {α : Type} (direction : Direction) (step : LaterStep) (before : Phase)
    (moved : Bool) : Except Fault α → Phase
  | .error (.protocol _) => .aborted
  | .error _ => if moved then .moving direction else before
  | .ok _ =>
      match step with
      | .advance => if moved then .moving direction else before
      | .finalize => .finalized

theorem phaseAfter_map {α β : Type} (direction : Direction) (step : LaterStep) (before : Phase)
    (moved : Bool) (change : α → β) (outcome : Except Fault α) :
    phaseAfter direction step before moved (outcome.map change) =
      phaseAfter direction step before moved outcome := by
  rcases outcome with fault | given
  · cases fault <;> rfl
  · rfl

def hasMoved (direction : Direction) (events : List Event) : Bool :=
  events.any fun event => (event.moved? direction).isSome

end Transfer

def Link.Entry.named (entry : Entry) : LinkState :=
  match entry.call, entry.step.value with
  | _, .connected success => if success then .connected else .closed
  | _, .disconnected => .closed
  | .transmit frame _, .answered (.error _) =>
      if entry.found.carries frame then .broken else entry.found.state
  | _, .answered _ => entry.found.state

end CardVault
