import CardVault.Dialogue
import CardVault.Failure
import CardVault.RecordKey
import CardVault.Settings
import CardVault.Transfer

/-!
The steps of a chunked transfer. INIT names the record, CONTINUE moves data and FINALIZE ends the
transfer. A store sends its payload in chunks of the configured size; a read asks for data until the
card says that it was the last or until as much has come as INIT announced. A step that fails ends
the transfer, and keeps what had moved before.
-/

namespace CardVault

namespace Transfer

variable (settings : Settings)

def codes : Direction → StepCodes
  | .store => settings.storeCodes
  | .read => settings.readCodes

def initCommand (direction : Direction) (data : Bytes) : Command :=
  { Command.bare settings.cla (codes settings direction).init with data := data }

def chunkCommand (chunk : Bytes) : Command :=
  { Command.bare settings.cla settings.storeCodes.advance with data := chunk }

def pullCommand : Command :=
  { Command.bare settings.cla settings.readCodes.advance with
    expected := some settings.expectedLength }

def finalizeCommand (direction : Direction) : Command :=
  Command.bare settings.cla (codes settings direction).finalize

-- Only a protocol error ends the transfer here. Any other fault leaves its phase as it was.
def exchanged (transfer : Transfer) : Except Fault Response → Except Fault Response × Transfer
  | .error (.protocol error) => (.error (.protocol error), transfer.enter .aborted)
  | outcome => (outcome, transfer)

def exchangeIn (transfer : Transfer) (purpose : Purpose) (command : Command) :
    Dialogue (Except Fault Response × Transfer) :=
  (Dialogue.exchangeFor purpose command).map transfer.exchanged

theorem exchanged_fault (transfer : Transfer) (fault : Fault) :
    ∃ after, transfer.exchanged (.error fault) = (.error fault, after) := by
  cases fault <;> exact ⟨_, rfl⟩

theorem exchangeIn_run {α σ : Type} (transfer : Transfer) (purpose : Purpose) (command : Command)
    (fits : command.data.length ≤ 255) (next : Except Fault Response × Transfer → Dialogue α)
    (peer : Peer σ) (state : σ) :
    ((exchangeIn transfer purpose command).bind next).run peer state =
      let (reply, later) := peer.answer command.frame state
      let rest := (next (transfer.exchanged (Dialogue.received reply))).run peer later
      ⟨rest.value, .sent purpose command.frame reply :: rest.events, rest.peer⟩ := by
  simp [exchangeIn, Dialogue.exchangeFor_fits purpose command fits, Dialogue.map, Dialogue.bind,
    Dialogue.run]

def abort {α : Type} (transfer : Transfer) (error : ProtocolError) : Except Fault α × Transfer :=
  (.error (.protocol error), transfer.enter .aborted)

def refuse {α : Type} (transfer : Transfer) (step : LaterStep) : Except Fault α × Transfer :=
  (.error (.protocol (.outOfSequence step)), transfer)

def beginStore (key : RecordKey) : Dialogue (Except Fault Transfer) :=
  (Dialogue.exchangeFor (.init .store) (initCommand settings .store key.wire)).map fun
    | .error fault => .error fault
    | .ok response =>
        if response.status.isSuccess then .ok ((fresh .store).enter .init)
        else .error (.protocol (.initRejected .store response.status))

def pushAll : List Bytes → Transfer → Dialogue (Except Fault Unit × Transfer)
  | [], transfer => .done (.ok (), transfer)
  | chunk :: rest, transfer =>
      (exchangeIn transfer (.later .store .advance) (chunkCommand settings chunk)).bind fun
        | (.error fault, after) => .done (.error fault, after)
        | (.ok response, after) =>
            if response.status.isSuccess then
              pushAll rest ((after.enter .continuing).count chunk.length)
            else .done (after.abort (.chunkRejected .store after.moved response.status))

def continueStore (transfer : Transfer) (payload : Bytes) :
    Dialogue (Except Fault Unit × Transfer) :=
  if transfer.accepts .store then
    pushAll settings (slices settings.chunkSize.toNat payload) transfer
  else .done (transfer.refuse .advance)

def finalizeStore (transfer : Transfer) : Dialogue (Except Fault Unit × Transfer) :=
  if transfer.accepts .store then
    (exchangeIn transfer (.later .store .finalize) (finalizeCommand settings .store)).map fun
      | (.error fault, after) => (.error fault, after)
      | (.ok response, after) =>
          if response.status.isSuccess then (.ok (), after.enter .finalized)
          else after.abort (.finalizeFailed response.status)
  else .done (transfer.refuse .finalize)

def beginRead (envelope : Envelope) : Dialogue (Except Fault Transfer) :=
  match envelope.wire with
  | .error error => .done (.error (.protocol error))
  | .ok data => (Dialogue.exchangeFor (.init .read) (initCommand settings .read data)).map fun
    | .error fault => .error fault
    | .ok response =>
        if response.status.isSuccess then
          match Word.read response.data 0 with
          | .ok (some total) => .ok (((fresh .read).enter .init).announce total.toUInt64)
          | _ => .error (.protocol (.lengthMissing response.data.length))
        else .error (.protocol (.initRejected .read response.status))

-- How often a read may ask for data. Every round but the last brings at least one byte, so a
-- counter that does not wrap reaches any total before the rounds are used up.
def mostRounds : Nat :=
  UInt64.size

/-- Asks for data until the card says that it was the last or the total has been reached. The
chunks that have come stand last first. -/
def pullAll : Nat → Transfer → List Bytes → Dialogue (Except Fault Bytes × Transfer)
  | 0, transfer, chunks => .done (.ok chunks.reverse.flatten, transfer)
  | rounds + 1, transfer, chunks =>
      if transfer.moved < transfer.total.getD 0 then
        (exchangeIn transfer (.later .read .advance) (pullCommand settings)).bind fun
          | (.error fault, after) => .done (.error fault, after)
          | (.ok response, after) =>
              let grown := (after.enter .draining).count response.data.length
              let more := response.data :: chunks
              match response.status.kind with
              | .success => .done (.ok more.reverse.flatten, grown)
              | .moreData =>
                  if response.data = [] then .done (after.abort (.emptyChunk response.status))
                  else pullAll rounds grown more
              | .failure =>
                  .done (after.abort (.chunkRejected .read after.moved response.status))
      else .done (.ok chunks.reverse.flatten, transfer)

def continueRead (transfer : Transfer) : Dialogue (Except Fault Bytes × Transfer) :=
  if transfer.accepts .read then
    match Memory.request .collecting (transfer.total.getD 0) with
    | .ok () => pullAll settings mostRounds transfer []
    | .error fault => .done (.error fault, transfer)
  else .done (transfer.refuse .advance)

theorem continueRead_accepted {transfer : Transfer} (open_ : transfer.accepts .read = true)
    (small : (transfer.total.getD 0).toNat ≤ 65535) :
    continueRead settings transfer = pullAll settings mostRounds transfer [] := by
  have room : transfer.total.getD 0 < Memory.tooMuch := by
    rw [UInt64.lt_iff_toNat_lt]
    change (transfer.total.getD 0).toNat < 4294967296
    omega
  simp [continueRead, open_, Memory.request_ok room]

theorem continueRead_opened {total : Nat} (small : total ≤ 65535) :
    continueRead settings ⟨.read, .init, 0, some (UInt64.ofNat total), 0⟩ =
      pullAll settings mostRounds ⟨.read, .init, 0, some (UInt64.ofNat total), 0⟩ [] := by
  apply continueRead_accepted settings (by rfl)
  rw [Option.getD_some, UInt64.toNat_ofNat', Nat.mod_eq_of_lt (by omega)]
  exact small

theorem le_mostRounds {total : Nat} (small : total ≤ 65535) : total ≤ mostRounds := by
  change total ≤ 18446744073709551616
  omega

-- The card may already have forgotten the transfer after its last chunk, so its answer decides
-- nothing but the value.
def finalizeRead (transfer : Transfer) : Dialogue (Except Fault Bool × Transfer) :=
  if transfer.accepts .read then
    (exchangeIn transfer (.later .read .finalize) (finalizeCommand settings .read)).map fun
      | (.error fault, after) => (.error fault, after)
      | (.ok response, after) => (.ok response.status.isSuccess, after.enter .finalized)
  else .done (transfer.refuse .finalize)

end Transfer

/-!
The later steps of a transfer as calls, so that runs of calls can be spoken of, and the states that a
transfer reaches through them. A state may be handed from one client to another between calls, each
with its own settings and its own card.
-/

/-- A plain reply is an answer, the loss of the link or a protocol error. -/
def Reply.Plain (reply : Reply) : Prop :=
  ∀ fault, reply = .error fault → (∃ wording, fault = .link wording) ∨ ∃ error, fault = .protocol error

def Peer.Plain {σ : Type} (peer : Peer σ) : Prop :=
  ∀ frame before, (peer.answer frame before).1.Plain

namespace Transfer

inductive Call where
  | continueStore (payload : Bytes)
  | finalizeStore
  | continueRead
  | finalizeRead
deriving DecidableEq, Repr

inductive Yield where
  | nothing
  | data (bytes : Bytes)
  | confirmed (success : Bool)
deriving DecidableEq, Repr

def Call.direction : Call → Direction
  | .continueStore _ | .finalizeStore => .store
  | .continueRead | .finalizeRead => .read

def Call.step : Call → LaterStep
  | .continueStore _ | .continueRead => .advance
  | .finalizeStore | .finalizeRead => .finalize

def yielding {α : Type} (yield : α → Yield) :
    Dialogue (Except Fault α × Transfer) → Dialogue (Except Fault Yield × Transfer) :=
  Dialogue.map fun (outcome, after) => (outcome.map yield, after)

def perform (settings : Settings) (transfer : Transfer) :
    Call → Dialogue (Except Fault Yield × Transfer)
  | .continueStore payload =>
      yielding (fun _ => .nothing) (continueStore settings transfer payload)
  | .finalizeStore => yielding (fun _ => .nothing) (finalizeStore settings transfer)
  | .continueRead => yielding .data (continueRead settings transfer)
  | .finalizeRead => yielding .confirmed (finalizeRead settings transfer)

def performAll (settings : Settings) (transfer : Transfer) :
    List Call → Dialogue (List (Except Fault Yield) × Transfer)
  | [] => .done ([], transfer)
  | call :: calls =>
      (transfer.perform settings call).bind fun (outcome, after) =>
        (after.performAll settings calls).map fun (outcomes, last) => (outcome :: outcomes, last)

/-- The states that a transfer reaches: those in which it begins, and what calls make of them, each
of them answered by a peer that is admitted. -/
inductive Reached (admits : (σ : Type) → Peer σ → Prop) : Transfer → Prop where
  | fresh (direction : Direction) : Reached admits (fresh direction)
  | stored {σ : Type} {settings : Settings} {peer : Peer σ} {state : σ} {key : RecordKey}
      {transfer : Transfer}
      (begun : ((beginStore settings key).run peer state).value = .ok transfer) :
      Reached admits transfer
  | opened {σ : Type} {settings : Settings} {peer : Peer σ} {state : σ} {envelope : Envelope}
      {transfer : Transfer}
      (begun : ((beginRead settings envelope).run peer state).value = .ok transfer) :
      Reached admits transfer
  | called {σ : Type} {settings : Settings} {peer : Peer σ} {state : σ} {transfer : Transfer}
      (before : Reached admits transfer) (admitted : admits σ peer) (call : Call) :
      Reached admits ((transfer.perform settings call).run peer state).value.2

end Transfer

end CardVault
