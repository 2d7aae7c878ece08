import CardVault.FixedRecord
import CardVault.Link
import CardVault.Proofs.FixedRecord
import CardVault.Proofs.FrameLayout
import CardVault.Proofs.OpenTransfer
import CardVault.Proofs.Raised
import CardVault.Transfer.Steps

/-!
The format of the frames on the wire. `Issued` names the commands that the steps of a session make
for each purpose, and `WellFormed` says what their frames look like; every issued command that goes
into a frame is well formed. A dialogue that `Issues` sends nothing else, and puts the blame on an
argument only where there is an excuse for it.
-/

namespace CardVault

section

variable {α β : Type} {settings : Settings} {purpose : Purpose} {command : Command} {frame : Bytes}

/-- The instruction code that the settings give to a purpose. -/
def Settings.code? (settings : Settings) : Purpose → Option UInt8
  | .init .store => some settings.storeCodes.init
  | .later .store .advance => some settings.storeCodes.advance
  | .later .store .finalize => some settings.storeCodes.finalize
  | .init .read => some settings.readCodes.init
  | .later .read .advance => some settings.readCodes.advance
  | .later .read .finalize => some settings.readCodes.finalize
  | .fixed .store => some settings.fixedStoreCode
  | .fixed .read => some settings.fixedReadCode
  | .fixed .delete => some settings.fixedDeleteCode
  | .plain => none

/-- A frame that can be read back, in the format that its purpose asks for. -/
structure WellFormed (settings : Settings) (purpose : Purpose) (frame : Bytes) : Prop where
  command : ∃ command : Command, command.Laid frame ∧ Command.parse? frame = some command ∧
    command.cla = settings.cla ∧ settings.code? purpose = some command.ins ∧
    command.p1 = 0 ∧ command.p2 = 0 ∧
    (purpose = .later .read .advance →
      command.expected = some settings.expectedLength ∧ command.data = []) ∧
    (purpose ≠ .later .read .advance → command.expected = none)
  closing : ∀ direction code, purpose = .later direction .finalize →
    settings.code? purpose = some code → frame = [settings.cla, code, 0, 0]
  atLeast : 4 ≤ frame.length
  atMost : frame.length ≤ 260

/-- The commands that are made for a purpose. -/
inductive Issued (settings : Settings) : Purpose → Command → Prop where
  | init (direction : Direction) (data : Bytes) :
      Issued settings (.init direction) (Transfer.initCommand settings direction data)
  | chunk (chunk : Bytes) :
      Issued settings (.later .store .advance) (Transfer.chunkCommand settings chunk)
  | pull : Issued settings (.later .read .advance) (Transfer.pullCommand settings)
  | close (direction : Direction) :
      Issued settings (.later direction .finalize) (Transfer.finalizeCommand settings direction)
  | fixed (operation : FixedOperation) (data : Bytes) :
      Issued settings (.fixed operation) (FixedRecord.command settings operation data)

theorem Issued.expects (issued : Issued settings purpose command) :
    (purpose = .later .read .advance ∧ command = Transfer.pullCommand settings) ∨
      (purpose ≠ .later .read .advance ∧ command.expected = none) := by
  cases issued with
  | pull => exact Or.inl ⟨rfl, rfl⟩
  | _ => exact Or.inr ⟨by simp, rfl⟩

theorem Issued.header (issued : Issued settings purpose command) :
    command.cla = settings.cla ∧ settings.code? purpose = some command.ins ∧
      command.p1 = 0 ∧ command.p2 = 0 := by
  cases issued with
  | init direction => cases direction <;> exact ⟨rfl, rfl, rfl, rfl⟩
  | chunk => exact ⟨rfl, rfl, rfl, rfl⟩
  | pull => exact ⟨rfl, rfl, rfl, rfl⟩
  | close direction => cases direction <;> exact ⟨rfl, rfl, rfl, rfl⟩
  | fixed operation => cases operation <;> exact ⟨rfl, rfl, rfl, rfl⟩

theorem Issued.wellFormed (issued : Issued settings purpose command)
    (encoded : command.encode = .ok frame) : WellFormed settings purpose frame := by
  obtain ⟨fits, rfl⟩ := (Command.encode_eq_ok_iff _ _).mp encoded
  obtain ⟨cla, ins, p1, p2⟩ := issued.header
  constructor
  case command =>
    refine ⟨command, Command.frame_laid fits, Command.parse?_frame _ fits, cla, ins, p1, p2, ?_, ?_⟩
    · intro pulls
      rcases issued.expects with ⟨_, rfl⟩ | ⟨other, _⟩
      · exact ⟨rfl, rfl⟩
      · exact absurd pulls other
    · intro other
      rcases issued.expects with ⟨pulls, _⟩ | ⟨_, silent⟩
      · exact absurd pulls other
      · exact silent
  case closing =>
    rintro direction code rfl coded
    cases issued
    obtain rfl := Option.some.inj (ins.symm.trans coded)
    rfl
  case atLeast => exact command.frame_length
  case atMost =>
    rcases issued.expects with ⟨_, rfl⟩ | ⟨_, silent⟩
    · exact Nat.le_of_ble_eq_true rfl
    · have size := Command.frame_length_le silent
      omega

def Link.oversized : Fault :=
  .link (text "TCP transport: Command too large for relay framing")

theorem Link.fail_not_oversized (link : Link) (wrote wording : Bytes) :
    (link.fail wrote wording).value ≠ .error oversized := by
  intro same
  simp only [fail, oversized, Except.error.injEq, Fault.link.injEq] at same
  have letters := congrArg (·[15]?) same
  have heading : 15 < (text "TCP transport: Exchange failed: ").length := by decide
  rw [List.getElem?_append_left heading] at letters
  exact absurd letters (by decide)

theorem Link.transmit_oversized_iff (link : Link) (frame : Bytes) (fault : Option Text) :
    (link.transmit frame fault).value = .error oversized ↔
      link.state = .connected ∧ 65535 < frame.length := by
  by_cases open_ : link.state = .connected
  · by_cases wide : frame.length > 65535
    · simp [transmit, open_, wide, oversized]
    · simp only [transmit, open_, ne_eq, not_true_eq_false, wide, ↓reduceIte, and_false, iff_false]
      intro refused
      cases fault with
      | some wording => exact absurd refused (link.fail_not_oversized _ _)
      | none =>
          dsimp only at refused
          split at refused
          · cases refused
          · exact absurd refused (fail_not_oversized _ _ _)
  · have other : text "TCP transport: Not connected" ≠
        text "TCP transport: Command too large for relay framing" := by decide
    simp [transmit, open_, oversized, other]

def Faulted (past : List Mark) : Prop :=
  ∃ event, .passed event ∈ past ∧ event.fault? ≠ none

def Unsent (past : List Mark) : Prop :=
  ∀ mark ∈ past, mark.event?.bind Event.frame? = none

def BlamesArgument : Except Fault α → Prop
  | .ok _ => False
  | .error fault => fault.failure.kind = .invalidArgument

theorem faulted_raised {past : List Mark} {event : Event} (raised : event.fault? ≠ none) :
    Faulted (past ++ [.passed event]) :=
  ⟨event, List.mem_append_right _ (List.mem_singleton_self _), raised⟩

theorem faulted_of_received {past : List Mark} {reply : Reply}
    (blames : BlamesArgument (Dialogue.received reply)) :
    Faulted (past ++ [.passed (.sent purpose frame reply)]) := by
  cases reply with
  | error fault => exact faulted_raised (by simp [Event.fault?])
  | ok answer =>
      cases decoded : Response.decode answer.raw with
      | ok response =>
          rw [Dialogue.received_decoded decoded] at blames
          cases blames
      | error error =>
          obtain ⟨_, rfl⟩ := (Response.decode_eq_error_iff _ _).mp decoded
          rw [Dialogue.received_undecoded decoded] at blames
          cases blames

namespace Dialogue

def Permitted (settings : Settings) (purposes : List Purpose) (_past : List Mark)
    (purpose : Purpose) (frame : Bytes) : Prop :=
  purpose ∈ purposes ∧ ∃ command, Issued settings purpose command ∧ command.encode = .ok frame

/-- Whatever is answered, a dialogue sends only frames of issued commands, for some purposes, and
blames an argument only with an excuse. -/
def Issues (settings : Settings) (purposes : List Purpose) (excuse : List Mark → Prop)
    (blames : α → Prop) : Dialogue α → List Mark → Prop :=
  Ensures (Permitted settings purposes) fun later value => blames value → excuse later

variable {purposes : List Purpose} {excuse : List Mark → Prop} {past : List Mark}

theorem issues_bind {blamed : α → Prop} {blames : β → Prop} {dialogue : Dialogue α}
    {next : α → Dialogue β} (first : Issues settings purposes excuse blamed dialogue past)
    (onward : ∀ later value, (blamed value → excuse later) →
      Issues settings purposes excuse blames (next value) later) :
    Issues settings purposes excuse blames (dialogue.bind next) past :=
  ensures_bind first onward

theorem issues_map {blamed : α → Prop} {blames : β → Prop} {dialogue : Dialogue α}
    {change : α → β} (first : Issues settings purposes excuse blamed dialogue past)
    (passes : ∀ value, blames (change value) → blamed value) :
    Issues settings purposes excuse blames (dialogue.map change) past :=
  issues_bind first fun _ value excused blame => excused (passes value blame)

theorem issues_relay {dialogue : Dialogue (Except Fault α)}
    {change : Except Fault α → Except Fault β}
    (first : Issues settings purposes excuse BlamesArgument dialogue past)
    (relays : ∀ fault, change (.error fault) = .error fault)
    (blameless : ∀ value, ¬ BlamesArgument (change (.ok value))) :
    Issues settings purposes excuse BlamesArgument (dialogue.map change) past := by
  apply issues_map first
  intro outcome blames
  cases outcome with
  | ok value => exact absurd blames (blameless value)
  | error fault =>
      rw [relays] at blames
      exact blames

theorem exchange_issues (faulted : ∀ later, Faulted later → excuse later)
    (issued : Issued settings purpose command) (listed : purpose ∈ purposes)
    (unfit : 255 < command.data.length → excuse past) :
    Issues settings purposes excuse BlamesArgument (exchangeFor purpose command) past := by
  apply ensures_exchange
  · exact fun frame encoded => ⟨listed, command, issued, encoded⟩
  · intro error refused _
    exact unfit ((Command.encode_eq_error_iff _ _).mp refused).1
  · exact fun frame reply _ blames => faulted _ (faulted_of_received blames)

end Dialogue

end

/-!
What the steps of a transfer and the requests for fixed records send. A step that goes on with a
transfer makes commands that always fit, so it has no occasion to blame an argument; what opens a
transfer or stands alone may, but before it has sent anything.
-/

section

open Dialogue

variable {α : Type} {settings : Settings} {purposes : List Purpose} {excuse : List Mark → Prop}
  {past : List Mark}

theorem Unsent.signed (unsent : Unsent past) (subject : Bytes) (signature : Signature) :
    Unsent (past ++ [.passed (.signed subject signature)]) := by
  intro mark member
  rcases List.mem_append.mp member with before | now
  · exact unsent mark before
  · obtain rfl := List.mem_singleton.mp now
    rfl

theorem Authorizer.sign_unsent {permitted : List Mark → Purpose → Bytes → Prop}
    (authorizer : Authorizer) (canonical : Bytes) (unsent : Unsent past) :
    Ensures permitted (fun later outcome =>
      Unsent later ∧ (BlamesArgument outcome → Faulted later)) (authorizer.sign canonical) past := by
  unfold sign
  split
  · intro signature
    refine ⟨unsent.signed _ signature, fun blames => ?_⟩
    cases signature with
    | ok bytes => cases blames
    | error fault => exact faulted_raised (by simp [Event.fault?])
  · exact ⟨unsent, fun blames => by cases blames⟩

namespace Transfer

variable {transfer : Transfer} (faulted : ∀ later, Faulted later → excuse later)

def StepBlames (result : Except Fault α × Transfer) : Prop :=
  BlamesArgument result.1

include faulted

theorem exchangeIn_issues {purpose : Purpose} {command : Command}
    (issued : Issued settings purpose command)
    (listed : purpose ∈ purposes) (fits : command.data.length ≤ 255) :
    Issues settings purposes excuse StepBlames (exchangeIn transfer purpose command) past := by
  apply issues_map (exchange_issues faulted issued listed fun long => absurd fits (Nat.not_le.mpr long))
  intro outcome blames
  cases outcome with
  | ok response => exact blames
  | error fault => cases fault <;> exact blames

theorem beginStore_issues (listed : .init .store ∈ purposes) (excused : excuse past) (key : RecordKey) :
    Issues settings purposes excuse BlamesArgument (beginStore settings key) past := by
  apply issues_relay (exchange_issues faulted (.init .store key.wire) listed fun _ => excused)
  · exact fun _ => rfl
  intro response blames
  dsimp only at blames
  split at blames <;> cases blames

theorem beginRead_issues (listed : .init .read ∈ purposes) (excused : excuse past) (envelope : Envelope) :
    Issues settings purposes excuse BlamesArgument (beginRead settings envelope) past := by
  unfold beginRead
  split
  · exact fun _ => excused
  · apply issues_relay (exchange_issues faulted (.init .read _) listed fun _ => excused)
    · exact fun _ => rfl
    intro response blames
    dsimp only at blames
    split at blames
    · split at blames <;> cases blames
    · cases blames

theorem pushAll_issues (listed : .later .store .advance ∈ purposes) {chunks : List Bytes}
    (fit : ∀ chunk ∈ chunks, chunk.length ≤ 255) :
    Issues settings purposes excuse StepBlames (pushAll settings chunks transfer) past := by
  induction chunks generalizing transfer past with
  | nil => exact fun blames => by cases blames
  | cons chunk rest ih =>
      obtain ⟨fits, others⟩ := List.forall_mem_cons.mp fit
      apply issues_bind (exchangeIn_issues faulted (.chunk chunk) listed fits)
      rintro later ⟨outcome, after⟩ excused
      cases outcome with
      | error fault => exact excused
      | ok response =>
          dsimp only
          split
          · exact ih others
          · exact fun blames => by cases blames

theorem continueStore_issues (listed : .later .store .advance ∈ purposes) {payload : Bytes}
    (fit : ∀ chunk ∈ slices settings.chunkSize.toNat payload, chunk.length ≤ 255) :
    Issues settings purposes excuse StepBlames (continueStore settings transfer payload) past := by
  unfold continueStore
  split
  · exact pushAll_issues faulted listed fit
  · exact fun blames => by cases blames

theorem finalizeStore_issues (listed : .later .store .finalize ∈ purposes) :
    Issues settings purposes excuse StepBlames (finalizeStore settings transfer) past := by
  unfold finalizeStore
  split
  · apply issues_map (exchangeIn_issues faulted (.close .store) listed (Nat.zero_le _))
    rintro ⟨outcome, after⟩ blames
    cases outcome with
    | error fault => exact blames
    | ok response =>
        dsimp only at blames
        split at blames <;> cases blames
  · exact fun blames => by cases blames

theorem pullAll_issues (listed : .later .read .advance ∈ purposes) (rounds : Nat) (chunks : List Bytes) :
    Issues settings purposes excuse StepBlames (pullAll settings rounds transfer chunks) past := by
  induction rounds generalizing transfer past chunks with
  | zero => exact fun blames => by cases blames
  | succ rounds ih =>
      unfold pullAll
      split
      · apply issues_bind (exchangeIn_issues faulted .pull listed (Nat.zero_le _))
        rintro later ⟨outcome, after⟩ excused
        cases outcome with
        | error fault => exact excused
        | ok response =>
            dsimp only
            split
            · exact fun blames => by cases blames
            · split
              · exact fun blames => by cases blames
              · exact ih _
            · exact fun blames => by cases blames
      · exact fun blames => by cases blames

theorem continueRead_issues (listed : .later .read .advance ∈ purposes) :
    Issues settings purposes excuse StepBlames (continueRead settings transfer) past := by
  unfold continueRead
  split
  · split
    · exact pullAll_issues faulted listed _ _
    · rename_i fault refused
      intro blames
      unfold Memory.request at refused
      split at refused
      · cases refused
        cases blames
      · split at refused <;> cases refused
        cases blames
  · exact fun blames => by cases blames

theorem finalizeRead_issues (listed : .later .read .finalize ∈ purposes) :
    Issues settings purposes excuse StepBlames (finalizeRead settings transfer) past := by
  unfold finalizeRead
  split
  · apply issues_map (exchangeIn_issues faulted (.close .read) listed (Nat.zero_le _))
    rintro ⟨outcome, after⟩ blames
    cases outcome with
    | error fault => exact blames
    | ok response => cases blames
  · exact fun blames => by cases blames

end Transfer

namespace FixedRecord

variable {operation : FixedOperation} {data : Bytes} {username address : Text}

theorem receipt_blameless (operation : FixedOperation) (response : Response) :
    ¬ BlamesArgument (receipt operation response) := by
  unfold receipt
  split <;> exact fun blames => by cases blames

theorem signedName_unsent {permitted : List Mark → Purpose → Bytes → Prop} (silent : Unsent past)
    (authorizer : Authorizer) (username address : Text) :
    Ensures permitted (fun later _ => Unsent later)
      (signedName settings authorizer username address) past := by
  unfold signedName
  split
  · exact silent
  · apply ensures_map
    exact ensures_weaken (authorizer.sign_unsent _ silent) fun _ _ signed => signed.1

variable (faulted : ∀ later, Faulted later → excuse later)
include faulted

theorem request_issues (listed : .fixed operation ∈ purposes) (excused : excuse past) :
    Issues settings purposes excuse BlamesArgument (request settings operation data) past := by
  apply issues_relay (exchange_issues faulted (.fixed operation data) listed fun _ => excused)
  · exact fun _ => rfl
  intro response blames
  dsimp only at blames
  split at blames <;> cases blames

theorem store_issues (listed : .fixed .store ∈ purposes) (excused : excuse past) (message : Bytes) :
    Issues settings purposes excuse BlamesArgument (store settings username address message)
      past := by
  unfold store
  split
  · exact fun _ => excused
  · exact issues_relay (request_issues faulted listed excused) (fun _ => rfl) fun response =>
      receipt_blameless _ response

variable (unsent : ∀ later, Unsent later → excuse later)
include unsent

theorem signedRequest_issues {change : Except Fault Response → Except Fault α}
    (listed : .fixed operation ∈ purposes) (silent : Unsent past) (authorizer : Authorizer)
    (relays : ∀ fault, change (.error fault) = .error fault)
    (blameless : ∀ response, ¬ BlamesArgument (change (.ok response))) :
    Issues settings purposes excuse BlamesArgument
      (signedRequest settings authorizer username address operation change) past := by
  apply ensures_bind (signedName_unsent silent authorizer username address)
  intro later outcome stillSilent
  cases outcome with
  | error fault => exact fun _ => unsent later stillSilent
  | ok data =>
      have excused := unsent later stillSilent
      exact issues_relay (request_issues faulted listed excused) relays blameless

theorem read_issues (listed : .fixed .read ∈ purposes) (silent : Unsent past)
    (authorizer : Authorizer) :
    Issues settings purposes excuse BlamesArgument (read settings authorizer username address)
      past :=
  signedRequest_issues faulted unsent listed silent authorizer (fun _ => rfl) fun _ blames => blames

theorem delete_issues (listed : .fixed .delete ∈ purposes) (silent : Unsent past)
    (authorizer : Authorizer) :
    Issues settings purposes excuse BlamesArgument (delete settings authorizer username address)
      past :=
  signedRequest_issues faulted unsent listed silent authorizer (fun _ => rfl) fun response =>
    receipt_blameless _ response

end FixedRecord

end

end CardVault
