import CardVault.Session.Call

/-!
Faults that a card or a signer raises. A dialogue is candid if a fault that is raised in it ends it
on the spot, with an outcome that tells of that very fault; where none is raised, its outcome has to
be fine. Every exchange, every step of a transfer and every request for a fixed record is candid.
What they refuse of their own accord is never put down to a call out of turn, so that only a raised
fault is.
-/

namespace CardVault

section

variable {α β σ : Type}

def Event.fault? : Event → Option Fault
  | .sent _ _ (.error fault) => some fault
  | .signed _ (.error fault) => some fault
  | _ => none

theorem Fault.outOfTurn_protocol {fault : Fault}
    (outOfTurn : fault.failure.kind.isOutOfTurn = true) :
    ∃ error, fault = .protocol error ∧ error.kind = fault.failure.kind := by
  cases fault with
  | protocol error => exact ⟨error, rfl, rfl⟩
  | link wording => contradiction
  | crypto origin wording => contradiction
  | other wording => contradiction

/-- What a conversation came to: either nobody raised a fault and the outcome is fine, or the last
event raised one and the outcome tells of it. -/
def Transcript.Tells (tells : Fault → α → Prop) (fine : α → Prop) (transcript : Transcript σ α) :
    Prop :=
  (fine transcript.value ∧ ∀ event ∈ transcript.events, event.fault? = none) ∨
    ∃ earlier last fault, transcript.events = earlier ++ [last] ∧
      (∀ event ∈ earlier, event.fault? = none) ∧ last.fault? = some fault ∧
      tells fault transcript.value

variable {tells : Fault → α → Prop} {fine : α → Prop}

theorem Transcript.tells_cons {event : Event} {rest : Transcript σ α} (calm : event.fault? = none)
    (told : rest.Tells tells fine) :
    Transcript.Tells tells fine ⟨rest.value, event :: rest.events, rest.peer⟩ := by
  rcases told with ⟨holds, others⟩ | ⟨earlier, last, fault, split, others, raised, tale⟩
  · exact Or.inl ⟨holds, List.forall_mem_cons.mpr ⟨calm, others⟩⟩
  · refine Or.inr ⟨event :: earlier, last, fault, ?_, ?_, raised, tale⟩
    · simp [split]
    · exact List.forall_mem_cons.mpr ⟨calm, others⟩

theorem Transcript.tells_raised {event : Event} {fault : Fault} {value : α} {last : σ}
    (raised : event.fault? = some fault) (tale : tells fault value) :
    Transcript.Tells tells fine ⟨value, [event], last⟩ :=
  Or.inr ⟨[], event, fault, rfl, by simp, raised, tale⟩

theorem Transcript.Tells.of_raised {transcript : Transcript σ α} {event : Event} {fault : Fault}
    (told : transcript.Tells tells fine) (member : event ∈ transcript.events)
    (raised : event.fault? = some fault) :
    (∃ earlier, transcript.events = earlier ++ [event] ∧
      ∀ before ∈ earlier, before.fault? = none) ∧ tells fault transcript.value := by
  rcases told with ⟨_, calm⟩ | ⟨earlier, last, other, split, calm, raisedLast, tale⟩
  · cases raised.symm.trans (calm event member)
  · rw [split] at member
    rcases List.mem_append.mp member with before | final
    · cases raised.symm.trans (calm event before)
    · obtain rfl := List.mem_singleton.mp final
      cases raised.symm.trans raisedLast
      exact ⟨⟨earlier, split, calm⟩, tale⟩

namespace Dialogue

/-- A fault in the place of what was asked for ends the dialogue, with an outcome that tells of it. -/
def EndsAt {γ : Type} (tells : Fault → α → Prop) (next : Except Fault γ → Dialogue α) : Prop :=
  ∀ fault, ∃ value, next (.error fault) = .done value ∧ tells fault value

def Candid (tells : Fault → α → Prop) (fine : α → Prop) : Dialogue α → Prop
  | done value => fine value
  | send _ _ next => (∀ answer, Candid tells fine (next (.ok answer))) ∧ EndsAt tells next
  | sign _ next => (∀ bytes, Candid tells fine (next (.ok bytes))) ∧ EndsAt tells next

variable {told : Fault → β → Prop} {good : β → Prop} {dialogue : Dialogue α}

theorem endsAt_bind {γ : Type} {rest : Except Fault γ → Dialogue α} {next : α → Dialogue β}
    (ends : EndsAt tells rest)
    (passes : ∀ fault value, tells fault value →
      ∃ outcome, next value = .done outcome ∧ told fault outcome) :
    EndsAt told fun given => (rest given).bind next := by
  intro fault
  obtain ⟨value, ended, tale⟩ := ends fault
  obtain ⟨outcome, passed, retold⟩ := passes fault value tale
  refine ⟨outcome, ?_, retold⟩
  simp only [ended, bind, passed]

theorem candid_bind {next : α → Dialogue β} (first : Candid tells fine dialogue)
    (onward : ∀ value, fine value → Candid told good (next value))
    (passes : ∀ fault value, tells fault value →
      ∃ outcome, next value = .done outcome ∧ told fault outcome) :
    Candid told good (dialogue.bind next) := by
  induction dialogue with
  | done value => exact onward value first
  | send purpose frame rest ih =>
      exact ⟨fun answer => ih _ (first.1 answer), endsAt_bind first.2 passes⟩
  | sign subject rest ih =>
      exact ⟨fun bytes => ih _ (first.1 bytes), endsAt_bind first.2 passes⟩

theorem candid_map {change : α → β} (first : Candid tells fine dialogue)
    (onward : ∀ value, fine value → good (change value))
    (passes : ∀ fault value, tells fault value → told fault (change value)) :
    Candid told good (dialogue.map change) :=
  candid_bind first onward fun fault value tale => ⟨_, rfl, passes fault value tale⟩

theorem candid_weaken {others : Fault → α → Prop} {weak : α → Prop}
    (first : Candid tells fine dialogue)
    (retells : ∀ fault value, tells fault value → others fault value)
    (enough : ∀ value, fine value → weak value) : Candid others weak dialogue := by
  have ends {γ : Type} {next : Except Fault γ → Dialogue α} (given : EndsAt tells next) :
      EndsAt others next := by
    intro fault
    obtain ⟨value, ended, tale⟩ := given fault
    exact ⟨value, ended, retells fault value tale⟩
  induction dialogue with
  | done value => exact enough value first
  | send purpose frame rest ih => exact ⟨fun answer => ih _ (first.1 answer), ends first.2⟩
  | sign subject rest ih => exact ⟨fun bytes => ih _ (first.1 bytes), ends first.2⟩

theorem candid_run (candid : Candid tells fine dialogue) (peer : Peer σ) (state : σ) :
    (dialogue.run peer state).Tells tells fine := by
  induction dialogue generalizing state with
  | done value => exact Or.inl ⟨candid, by simp [run]⟩
  | send purpose frame next ih =>
      simp only [run]
      cases (peer.answer frame state).1 with
      | error fault =>
          obtain ⟨value, ended, tale⟩ := candid.2 fault
          rw [ended]
          exact Transcript.tells_raised rfl tale
      | ok answer => exact Transcript.tells_cons rfl (ih _ (candid.1 answer) _)
  | sign subject next ih =>
      simp only [run]
      cases (peer.sign subject state).1 with
      | error fault =>
          obtain ⟨value, ended, tale⟩ := candid.2 fault
          rw [ended]
          exact Transcript.tells_raised rfl tale
      | ok bytes => exact Transcript.tells_cons rfl (ih _ (candid.1 bytes) _)

end Dialogue

end

/-!
Exchanges, requests for signatures, steps of a transfer and requests for fixed records are candid.
A later step that is ended by an error out of turn leaves its transfer aborted.
-/

section

open Dialogue

variable {α β : Type}

def Fault.ReportedIn (fault : Fault) (outcome : Except Fault α) : Prop :=
  ∃ other, outcome = .error other ∧ other.failure = fault.failure

/-- An outcome for which nobody outside is to blame: a success as wanted, or a refusal that is not
one of a call out of turn. -/
def Owned (good : α → Prop) : Except Fault α → Prop
  | .ok value => good value
  | .error fault => fault.failure.kind.isOutOfTurn = false

variable {good : α → Prop} {better : β → Prop}

theorem owned_bind {outcome : Except Fault α} {next : α → Except Fault β}
    (first : Owned good outcome) (onward : ∀ value, good value → Owned better (next value)) :
    Owned better (outcome >>= next) := by
  cases outcome with
  | ok value => exact onward value first
  | error fault => exact first

theorem candid_relay {dialogue : Dialogue (Except Fault α)}
    {change : Except Fault α → Except Fault β}
    (relays : ∀ fault, change (.error fault) = .error fault)
    (first : Candid Fault.ReportedIn (Owned good) dialogue)
    (onward : ∀ value, good value → Owned better (change (.ok value))) :
    Candid Fault.ReportedIn (Owned better) (dialogue.map change) := by
  apply candid_map first
  · intro outcome owned
    cases outcome with
    | ok value => exact onward value owned
    | error fault =>
        rw [relays]
        exact owned
  · rintro fault _ ⟨other, rfl, same⟩
    exact ⟨other, relays other, same⟩

theorem received_reported (fault : Fault) : fault.ReportedIn (received (.error fault)) := by
  cases fault <;> exact ⟨_, rfl, rfl⟩

theorem received_owned (answer : Answer) : Owned (fun _ => True) (received (.ok answer)) := by
  cases decoded : Response.decode answer.raw with
  | ok response =>
      rw [received_decoded decoded]
      trivial
  | error error =>
      rw [received_undecoded decoded, ((Response.decode_eq_error_iff _ _).mp decoded).2]
      rfl

theorem exchangeFor_candid (purpose : Purpose) (command : Command) :
    Candid Fault.ReportedIn (Owned fun _ => True) (exchangeFor purpose command) := by
  unfold exchangeFor
  split
  · exact ⟨received_owned, fun fault => ⟨_, rfl, received_reported fault⟩⟩
  · rename_i error refused
    rw [((Command.encode_eq_error_iff _ _).mp refused).2]
    rfl

theorem memory_owned (use : Memory.Use) (size : UInt64) :
    Owned (fun _ => True) (Memory.request use size) := by
  unfold Memory.request
  split
  · rfl
  split
  · rfl
  · trivial

namespace Authorizer

theorem sign_candid (authorizer : Authorizer) (canonical : Bytes) :
    Candid Fault.ReportedIn (Owned fun _ => True) (authorizer.sign canonical) := by
  unfold sign
  split
  · exact ⟨fun _ => trivial, fun fault => ⟨_, rfl, fault, rfl, rfl⟩⟩
  · trivial

theorem authorize_candid (authorizer : Authorizer) (key : RecordKey) :
    Candid Fault.ReportedIn (Owned fun _ => True) (authorizer.authorize key) := by
  apply candid_relay (fun _ => rfl) (authorizer.sign_candid key.canonical)
  intro signature _
  dsimp only
  split
  · rfl
  · trivial

end Authorizer

namespace Transfer

variable {transfer : Transfer} {direction : Direction}

theorem allows_aborted (open_ : transfer.accepts direction = true) :
    transfer.allows .aborted = true := by
  simp only [accepts, Bool.and_eq_true] at open_
  have active := open_.2
  unfold allows
  cases phase : transfer.phase <;> simp_all [Phase.isActive, Phase.allows]

def Reports (fault : Fault) (result : Except Fault α × Transfer) : Prop :=
  fault.ReportedIn result.1 ∧
    (fault.failure.kind.isOutOfTurn = true → result.2.phase = .aborted)

def Sound (good : α → Transfer → Prop) (result : Except Fault α × Transfer) : Prop :=
  Owned (fun value => good value result.2) result.1

theorem sound_run {σ : Type} {wanted : α → Transfer → Prop}
    {step : Dialogue (Except Fault α × Transfer)} (candid : Candid Reports (Sound wanted) step)
    (peer : Peer σ) (state : σ) {value : α} (given : (step.run peer state).value.1 = .ok value) :
    wanted value (step.run peer state).value.2 := by
  rcases candid_run candid peer state with ⟨sound, _⟩ | ⟨_, _, fault, _, _, _, told, _⟩
  · rw [Sound, given] at sound
    exact sound
  · obtain ⟨other, failed, _⟩ := told
    cases given.symm.trans failed

theorem exchangeIn_candid {good : β → Transfer → Prop} {purpose : Purpose} {command : Command}
    {next : Except Fault Response × Transfer → Dialogue (Except Fault β × Transfer)}
    (open_ : transfer.accepts direction = true)
    (relays : ∀ fault after, next (.error fault, after) = .done (.error fault, after))
    (onward : ∀ response, Candid Reports (Sound good) (next (.ok response, transfer))) :
    Candid Reports (Sound good) ((exchangeIn transfer purpose command).bind next) := by
  have first : Candid Reports (Sound fun _ after => after = transfer)
      (exchangeIn transfer purpose command) := by
    apply candid_map (exchangeFor_candid purpose command)
    · intro outcome owned
      cases outcome with
      | ok response => rfl
      | error fault => cases fault <;> exact owned
    · rintro fault _ ⟨other, rfl, same⟩
      refine ⟨⟨other, by cases other <;> rfl, same⟩, ?_⟩
      intro outOfTurn
      rw [← same] at outOfTurn
      obtain ⟨error, rfl, _⟩ := Fault.outOfTurn_protocol outOfTurn
      exact enter_phase (allows_aborted open_)
  apply candid_bind first
  · rintro ⟨outcome, after⟩ sound
    cases outcome with
    | ok response =>
        have same : after = transfer := sound
        rw [same]
        exact onward response
    | error fault =>
        rw [relays]
        exact sound
  · rintro fault ⟨_, after⟩ ⟨⟨other, rfl, same⟩, aborted⟩
    exact ⟨_, relays other after, ⟨other, rfl, same⟩, aborted⟩

variable (settings : Settings)

theorem beginStore_candid (key : RecordKey) :
    Candid Fault.ReportedIn (Owned fun transfer => transfer.accepts .store = true)
      (beginStore settings key) := by
  apply candid_relay (fun _ => rfl) (exchangeFor_candid _ _)
  intro response _
  dsimp only
  split <;> rfl

theorem beginRead_candid (envelope : Envelope) :
    Candid Fault.ReportedIn (Owned fun transfer => transfer.accepts .read = true)
      (beginRead settings envelope) := by
  unfold beginRead
  split
  · rename_i error refused
    have tooLong : error = .fieldTooLong envelope.signature.length := by
      unfold Envelope.wire Field.append at refused
      split at refused <;> cases refused
      rfl
    subst tooLong
    rfl
  · apply candid_relay (fun _ => rfl) (exchangeFor_candid _ _)
    intro response _
    dsimp only
    split
    · split <;> rfl
    · rfl

theorem pushAll_candid (chunks : List Bytes) (open_ : transfer.accepts .store = true) :
    Candid Reports (Sound fun _ after => after.accepts .store = true)
      (pushAll settings chunks transfer) := by
  induction chunks generalizing transfer with
  | nil => exact open_
  | cons chunk rest ih =>
      apply exchangeIn_candid open_
      · exact fun _ _ => rfl
      intro response
      dsimp only
      split
      · exact ih (moving_accepts chunk.length open_)
      · rfl

theorem continueStore_candid (payload : Bytes) (open_ : transfer.accepts .store = true) :
    Candid Reports (Sound fun _ after => after.accepts .store = true)
      (continueStore settings transfer payload) := by
  simp only [continueStore, open_, ↓reduceIte]
  exact pushAll_candid settings _ open_

theorem finalizeStore_candid (open_ : transfer.accepts .store = true) :
    Candid Reports (Sound fun _ _ => True) (finalizeStore settings transfer) := by
  simp only [finalizeStore, open_, ↓reduceIte]
  apply exchangeIn_candid open_
  · exact fun _ _ => rfl
  intro response
  dsimp only
  split
  · trivial
  · rfl

theorem pullAll_candid (rounds : Nat) (chunks : List Bytes) (open_ : transfer.accepts .read = true) :
    Candid Reports (Sound fun _ after => after.accepts .read = true)
      (pullAll settings rounds transfer chunks) := by
  induction rounds generalizing transfer chunks with
  | zero => exact open_
  | succ rounds ih =>
      unfold pullAll
      split
      · apply exchangeIn_candid open_
        · exact fun _ _ => rfl
        intro response
        have grown := moving_accepts response.data.length open_
        dsimp only
        split
        · exact grown
        · split
          · rfl
          · exact ih _ grown
        · rfl
      · exact open_

theorem continueRead_candid (open_ : transfer.accepts .read = true) :
    Candid Reports (Sound fun _ after => after.accepts .read = true)
      (continueRead settings transfer) := by
  have room := memory_owned .collecting (transfer.total.getD 0)
  simp only [continueRead, open_, ↓reduceIte]
  split
  · exact pullAll_candid settings _ _ open_
  · rename_i fault refused
    rw [refused] at room
    exact room

theorem finalizeRead_candid (open_ : transfer.accepts .read = true) :
    Candid Reports (Sound fun _ _ => True) (finalizeRead settings transfer) := by
  simp only [finalizeRead, open_, ↓reduceIte]
  apply exchangeIn_candid open_
  · exact fun _ _ => rfl
  intro response
  trivial

end Transfer

namespace FixedRecord

theorem pad_owned (field : Bytes) (width : UInt64) (label : Text) :
    Owned (fun _ => True) (pad field width label) := by
  unfold pad
  split
  · rfl
  · have room := memory_owned .padding width
    cases given : Memory.request .padding width with
    | ok _ => trivial
    | error fault =>
        rw [given] at room
        exact room

variable (settings : Settings)

theorem name_owned (username address : Text) :
    Owned (fun _ => True) (name settings username address) :=
  owned_bind (pad_owned _ _ _) fun _ _ => owned_bind (pad_owned _ _ _) fun _ _ => trivial

theorem content_owned (username address : Text) (message : Bytes) :
    Owned (fun _ => True) (content settings username address message) :=
  owned_bind (name_owned _ _ _) fun _ _ => owned_bind (pad_owned _ _ _) fun _ _ => trivial

theorem request_candid (operation : FixedOperation) (data : Bytes) :
    Candid Fault.ReportedIn (Owned fun _ => True) (request settings operation data) := by
  apply candid_relay (fun _ => rfl) (exchangeFor_candid _ _)
  intro response _
  dsimp only
  split
  · trivial
  · rfl

theorem receipt_owned (operation : FixedOperation) (response : Response) :
    Owned (fun _ => True) (receipt operation response) := by
  unfold receipt
  split
  · trivial
  · rfl

variable (authorizer : Authorizer) (username address : Text)

theorem signedName_candid :
    Candid Fault.ReportedIn (Owned fun _ => True)
      (signedName settings authorizer username address) := by
  have packs := name_owned settings username address
  unfold signedName
  split
  · rename_i fault unpacked
    rw [unpacked] at packs
    exact packs
  · apply candid_relay (fun _ => rfl) (authorizer.sign_candid _)
    intro signature _
    dsimp only
    split
    · rfl
    · trivial

theorem store_candid (message : Bytes) :
    Candid Fault.ReportedIn (Owned fun _ => True) (store settings username address message) := by
  have packs := content_owned settings username address message
  unfold store
  split
  · rename_i fault unpacked
    rw [unpacked] at packs
    exact packs
  · exact candid_relay (fun _ => rfl) (request_candid settings _ _) fun response _ =>
      receipt_owned _ response

theorem signed_request_candid {operation : FixedOperation}
    {change : Except Fault Response → Except Fault α}
    (relays : ∀ fault, change (.error fault) = .error fault)
    (onward : ∀ response, Owned (fun _ => True) (change (.ok response))) :
    Candid Fault.ReportedIn (Owned fun _ => True)
      (signedRequest settings authorizer username address operation change) := by
  apply candid_bind (signedName_candid settings authorizer username address)
  · intro named owned
    cases named with
    | ok data =>
        exact candid_relay relays (request_candid settings _ _) fun response _ => onward response
    | error fault => exact owned
  · rintro fault _ ⟨other, rfl, same⟩
    exact ⟨_, rfl, other, rfl, same⟩

theorem read_candid :
    Candid Fault.ReportedIn (Owned fun _ => True) (read settings authorizer username address) :=
  signed_request_candid settings authorizer username address (fun _ => rfl) fun _ => trivial

theorem delete_candid :
    Candid Fault.ReportedIn (Owned fun _ => True) (delete settings authorizer username address) :=
  signed_request_candid settings authorizer username address (fun _ => rfl) fun response =>
    receipt_owned _ response

end FixedRecord

end

end CardVault
