import CardVault.Proofs.FrameFormat
import CardVault.Proofs.Raised.Calls
import CardVault.Proofs.StorePlan
import CardVault.Session.Call

/-!
The frames of the calls of a session. Every frame that a run of calls sends is well formed, and no
call that goes on with a transfer is stopped by a command that does not fit in a frame: where a call
is told that an argument is invalid, a peer has said so, or the call was to begin something and has
not sent anything.
-/

namespace CardVault

open Dialogue

variable {α β γ σ : Type}

def Call.purposes : Call → List Purpose
  | .beginStore _ => [.init .store]
  | .continueStore _ => [.later .store .advance]
  | .finalizeStore => [.later .store .finalize]
  | .beginRead _ => [.init .read]
  | .continueRead => [.later .read .advance]
  | .finalizeRead => [.later .read .finalize]
  | .store _ _ => [.init .store, .later .store .advance, .later .store .finalize]
  | .read _ => [.init .read, .later .read .advance, .later .read .finalize]
  | .storeFixed _ _ _ => [.fixed .store]
  | .readFixed _ _ => [.fixed .read]
  | .deleteFixed _ _ => [.fixed .delete]
  | .abort | .reset => []

namespace Session

variable {session : Session} {purposes : List Purpose} {excuse : List Mark → Prop}
  {past : List Mark}

def BodyLeaves (settings : Settings) (excuse : List Mark → Prop) (later : List Mark)
    (result : Except Fault α × Session) : Prop :=
  result.2.settings = settings ∧ (BlamesArgument result.1 → excuse later)

def CallLeaves (settings : Settings) (excuse : List Mark → Prop) (later : List Mark)
    (result : Outcome α × Session) : Prop :=
  result.2.settings = settings ∧
    ∀ failure, result.1 = .error failure → failure.kind = .invalidArgument → excuse later

def BodyIssues (settings : Settings) (purposes : List Purpose) (excuse : List Mark → Prop) :
    Dialogue (Except Fault α × Session) → List Mark → Prop :=
  Ensures (Permitted settings purposes) (BodyLeaves settings excuse)

def CallIssues (settings : Settings) (purposes : List Purpose) (excuse : List Mark → Prop) :
    Dialogue (Outcome α × Session) → List Mark → Prop :=
  Ensures (Permitted settings purposes) (CallLeaves settings excuse)

theorem after_settings (session : Session) (kind : ErrorKind) :
    (session.after kind).settings = session.settings := by
  unfold after
  split
  · rfl
  split <;> rfl

theorem settle_leaves {settings : Settings} {later : List Mark} {result : Except Fault α × Session}
    (leaves : BodyLeaves settings excuse later result) :
    CallLeaves settings excuse later (settle result) := by
  obtain ⟨outcome, session⟩ := result
  obtain ⟨same, excused⟩ := leaves
  cases outcome with
  | ok value => exact ⟨same, fun _ failed => by cases failed⟩
  | error fault =>
      refine ⟨(session.after_settings _).trans same, ?_⟩
      rintro _ ⟨⟩ blames
      exact excused blames

theorem whenFree_issues {body : Dialogue (Except Fault α × Session)}
    (issues : BodyIssues session.settings purposes excuse body past) :
    CallIssues session.settings purposes excuse (session.whenFree body) past := by
  unfold whenFree
  split
  · split
    · refine ⟨rfl, ?_⟩
      rintro _ ⟨⟩ ⟨⟩
    · exact ensures_map (ensures_weaken issues fun _ _ => settle_leaves)
  · refine ⟨rfl, ?_⟩
    rintro _ ⟨⟩ ⟨⟩

theorem whenActive_issues {body : Transfer → Dialogue (Except Fault α × Session)}
    (issues : ∀ transfer, BodyIssues session.settings purposes excuse (body transfer) past) :
    CallIssues session.settings purposes excuse (session.whenActive body) past := by
  unfold whenActive
  split
  · split
    · exact ensures_map (ensures_weaken (issues _) fun _ _ => settle_leaves)
    · refine ⟨rfl, ?_⟩
      rintro _ ⟨⟩ ⟨⟩
  · refine ⟨rfl, ?_⟩
    rintro _ ⟨⟩ ⟨⟩

theorem andThen_issues {settings : Settings} {first : Dialogue (Outcome α × Session)}
    {next : α → Session → Dialogue (Outcome β × Session)}
    (begun : CallIssues settings purposes excuse first past)
    (onward : ∀ later value (after : Session), after.settings = settings →
      CallIssues settings purposes excuse (next value after) later) :
    CallIssues settings purposes excuse (andThen first next) past := by
  apply ensures_bind begun
  rintro later ⟨outcome, after⟩ ⟨same, excused⟩
  cases outcome with
  | ok value => exact onward later value after same
  | error failure =>
      refine ⟨same, ?_⟩
      rintro _ ⟨⟩
      exact excused failure rfl

theorem asked_issues {dialogue : Dialogue (Except Fault γ)}
    {change : Except Fault γ → Except Fault α × Session}
    (first : Issues session.settings purposes excuse BlamesArgument dialogue past)
    (relays : ∀ fault, change (.error fault) = (.error fault, session))
    (blameless : ∀ value, (change (.ok value)).2.settings = session.settings ∧
      ¬ BlamesArgument (change (.ok value)).1) :
    BodyIssues session.settings purposes excuse (dialogue.map change) past := by
  apply ensures_map
  apply ensures_weaken first
  intro later outcome excused
  cases outcome with
  | ok value =>
      obtain ⟨same, fine⟩ := blameless value
      exact ⟨same, fun blames => absurd blames fine⟩
  | error fault =>
      rw [relays]
      exact ⟨rfl, excused⟩

theorem stepped_issues {step : Dialogue (Except Fault γ × Transfer)}
    {change : Except Fault γ × Transfer → Except Fault α × Session}
    (first : Issues session.settings purposes excuse Transfer.StepBlames step past)
    (relays : ∀ fault after,
      change (.error fault, after) = (.error fault, { session with active := some after }))
    (blameless : ∀ value after, (change (.ok value, after)).2.settings = session.settings ∧
      ¬ BlamesArgument (change (.ok value, after)).1) :
    BodyIssues session.settings purposes excuse (step.map change) past := by
  apply ensures_map
  apply ensures_weaken first
  rintro later ⟨outcome, after⟩ excused
  cases outcome with
  | ok value =>
      obtain ⟨same, fine⟩ := blameless value after
      exact ⟨same, fun blames => absurd blames fine⟩
  | error fault =>
      rw [relays]
      exact ⟨rfl, excused⟩

section Phased

variable (faulted : ∀ later, Faulted later → excuse later)
include faulted

theorem beginStore_issues (listed : .init .store ∈ purposes) (excused : excuse past)
    (key : RecordKey) :
    CallIssues session.settings purposes excuse (session.beginStore key) past := by
  apply whenFree_issues
  apply asked_issues (Transfer.beginStore_issues faulted listed excused key)
  · exact fun _ => rfl
  · exact fun _ => ⟨rfl, fun blames => blames⟩

theorem continueStore_issues (listed : .later .store .advance ∈ purposes) (payload : Bytes) :
    CallIssues session.settings purposes excuse (session.continueStore payload) past := by
  apply whenActive_issues
  intro transfer
  apply stepped_issues (Transfer.continueStore_issues faulted listed (session.slices_fit payload))
  · exact fun _ _ => rfl
  · exact fun _ _ => ⟨rfl, fun blames => blames⟩

theorem finalizeStore_issues (listed : .later .store .finalize ∈ purposes) :
    CallIssues session.settings purposes excuse session.finalizeStore past := by
  apply whenActive_issues
  intro transfer
  apply stepped_issues (Transfer.finalizeStore_issues faulted listed)
  · exact fun _ _ => rfl
  · exact fun _ _ => ⟨rfl, fun blames => blames⟩

theorem continueRead_issues (listed : .later .read .advance ∈ purposes) :
    CallIssues session.settings purposes excuse session.continueRead past := by
  apply whenActive_issues
  intro transfer
  apply stepped_issues (Transfer.continueRead_issues faulted listed)
  · exact fun _ _ => rfl
  · exact fun _ _ => ⟨rfl, fun blames => blames⟩

theorem finalizeRead_issues (listed : .later .read .finalize ∈ purposes) :
    CallIssues session.settings purposes excuse session.finalizeRead past := by
  apply whenActive_issues
  intro transfer
  apply stepped_issues (Transfer.finalizeRead_issues faulted listed)
  · exact fun _ _ => rfl
  · exact fun _ _ => ⟨rfl, fun blames => blames⟩

variable (unsent : ∀ later, Unsent later → excuse later)
include unsent

-- A signature that is too long for its length byte is refused before anything is sent.
theorem beginRead_issues (listed : .init .read ∈ purposes) (silent : Unsent past)
    (key : RecordKey) :
    CallIssues session.settings purposes excuse (session.beginRead key) past := by
  have authorized : Ensures (Permitted session.settings purposes)
      (fun later (_ : Except Fault Envelope) => Unsent later) (session.authorizer.authorize key)
      past :=
    ensures_map (ensures_weaken (session.authorizer.sign_unsent _ silent) fun _ _ signed => signed.1)
  apply whenFree_issues
  apply ensures_bind authorized
  intro later outcome stillSilent
  cases outcome with
  | error fault => exact ⟨rfl, fun _ => unsent later stillSilent⟩
  | ok envelope =>
      apply asked_issues (Transfer.beginRead_issues faulted listed (unsent later stillSilent) envelope)
      · exact fun _ => rfl
      · exact fun _ => ⟨rfl, fun blames => blames⟩

end Phased

theorem fixed_issues {operation : Dialogue (Except Fault α)}
    (first : Issues session.settings purposes excuse BlamesArgument operation past) :
    CallIssues session.settings purposes excuse (session.whenFree (operation.map (·, session))) past := by
  apply whenFree_issues
  apply asked_issues first
  · exact fun _ => rfl
  · exact fun _ => ⟨rfl, fun blames => blames⟩

/-- What excuses a call that blames an argument: a fault that was raised, or, where the call does not
go on with a transfer, that nothing has been sent. -/
def Excuse (call : Call) (later : List Mark) : Prop :=
  Faulted later ∨ (call.direction? = none ∧ Unsent later)

def TurnLeaves (settings : Settings) (call : Call) (later : List Mark)
    (result : Option Result × Session) : Prop :=
  result.2.settings = settings ∧
    ∀ failure, result.1 = some (.error failure) → failure.kind = .invalidArgument →
      Excuse call later

theorem shown_leaves {call : Call} {payload : α → Option Bytes}
    {dialogue : Dialogue (Outcome α × Session)}
    (issues : CallIssues session.settings call.purposes (Excuse call) dialogue past) :
    Ensures (Permitted session.settings call.purposes)
      (TurnLeaves session.settings call)
      (shown payload dialogue) past := by
  apply ensures_map
  apply ensures_weaken issues
  rintro later ⟨outcome, after⟩ ⟨same, excused⟩
  refine ⟨same, ?_⟩
  intro failure failed
  cases outcome with
  | ok value => cases failed
  | error reported =>
      cases failed
      exact excused _ rfl

theorem perform_issues (silent : Unsent past) (call : Call) :
    Ensures (Permitted session.settings call.purposes)
      (TurnLeaves session.settings call)
      (session.perform call) past := by
  have faulted : ∀ later, Faulted later → Excuse call later := fun _ => Or.inl
  have unsent (begins : call.direction? = none) : ∀ later, Unsent later → Excuse call later :=
    fun _ silent => Or.inr ⟨begins, silent⟩
  cases call with
  | beginStore key =>
      exact shown_leaves (beginStore_issues faulted (by simp [Call.purposes]) (unsent rfl _ silent) key)
  | continueStore payload => exact shown_leaves (continueStore_issues faulted (by simp [Call.purposes]) payload)
  | finalizeStore => exact shown_leaves (finalizeStore_issues faulted (by simp [Call.purposes]))
  | beginRead key =>
      exact shown_leaves (beginRead_issues faulted (unsent rfl) (by simp [Call.purposes]) silent key)
  | continueRead => exact shown_leaves (continueRead_issues faulted (by simp [Call.purposes]))
  | finalizeRead => exact shown_leaves (finalizeRead_issues faulted (by simp [Call.purposes]))
  | store key payload =>
      apply shown_leaves
      apply andThen_issues (beginStore_issues faulted (by simp [Call.purposes]) (unsent rfl _ silent) key)
      intro _ _ begun same
      rw [← same]
      apply andThen_issues (continueStore_issues faulted (by simp [Call.purposes]) payload)
      intro _ _ moved same
      rw [← same]
      exact finalizeStore_issues faulted (by simp [Call.purposes])
  | read key =>
      apply shown_leaves
      apply andThen_issues (beginRead_issues faulted (unsent rfl) (by simp [Call.purposes]) silent key)
      intro _ _ begun same
      rw [← same]
      apply andThen_issues (continueRead_issues faulted (by simp [Call.purposes]))
      intro _ _ moved same
      rw [← same]
      exact finalizeRead_issues faulted (by simp [Call.purposes])
  | storeFixed username address message =>
      apply shown_leaves
      apply fixed_issues
      exact FixedRecord.store_issues faulted (by simp [Call.purposes]) (unsent rfl _ silent) message
  | readFixed username address =>
      apply shown_leaves
      apply fixed_issues
      exact FixedRecord.read_issues faulted (unsent rfl) (by simp [Call.purposes]) silent _
  | deleteFixed username address =>
      apply shown_leaves
      apply fixed_issues
      exact FixedRecord.delete_issues faulted (unsent rfl) (by simp [Call.purposes]) silent _
  | abort => exact ⟨rfl, fun _ failed => by cases failed⟩
  | reset => exact ⟨rfl, fun _ failed => by cases failed⟩

/-- What is so of a turn in a session with some settings: its frames are well formed and are sent for
what the call is for, and where an argument is said to be invalid, somebody else has said so or the
call has begun nothing. -/
structure Orderly (settings : Settings) (turn : Turn) : Prop where
  frames : ∀ purpose frame reply, .sent purpose frame reply ∈ turn.events →
    purpose ∈ turn.call.purposes ∧ WellFormed settings purpose frame
  arguments : ∀ failure, turn.result = some (.error failure) → failure.kind = .invalidArgument →
    (∃ event ∈ turn.events, ∃ fault, event.fault? = some fault ∧ fault.failure = failure) ∨
      (turn.call.direction? = none ∧ ∀ event ∈ turn.events, event.frame? = none)

section Runs

variable (peer : Peer σ) (state : σ)

theorem perform_orderly (session : Session) (call : Call) :
    let transcript := (session.perform call).run peer state
    transcript.value.2.settings = session.settings ∧
      Orderly session.settings (.of call transcript) := by
  intro transcript
  have silent : Unsent [] := fun _ member => by cases member
  obtain ⟨⟨same, excused⟩, permitted⟩ := ensures_run (session.perform_issues silent call) peer state
  refine ⟨same, ?_, ?_⟩
  · intro purpose frame reply member
    obtain ⟨before, after, split⟩ := List.append_of_mem member
    obtain ⟨listed, command, issued, encoded⟩ := permitted before purpose frame reply after split
    exact ⟨listed, issued.wellFormed encoded⟩
  · intro failure failed blames
    rcases excused failure failed blames with ⟨event, passed, raised⟩ | ⟨begins, unsent⟩
    · have member : event ∈ transcript.events := by simpa using passed
      obtain ⟨fault, raised⟩ := Option.ne_none_iff_exists'.mp raised
      obtain ⟨_, reported, _⟩ := perform_raised peer state member raised
      have same : fault.failure = failure := by
        have both := reported.symm.trans failed
        simpa using both
      exact Or.inl ⟨event, member, fault, raised, same⟩
    · right
      refine ⟨begins, fun event member => ?_⟩
      have marked : Mark.passed event ∈ [] ++ transcript.events.map .passed :=
        List.mem_map_of_mem member
      exact unsent _ marked

theorem turns_orderly (session : Session) (calls : List Call) :
    ∀ turn ∈ session.turns peer state calls, Orderly session.settings turn := by
  induction calls generalizing session state with
  | nil => simp [turns]
  | cons call calls ih =>
      obtain ⟨same, orderly⟩ := perform_orderly peer state session call
      refine List.forall_mem_cons.mpr ⟨orderly, ?_⟩
      rw [← same]
      exact ih _ _

/-- Every frame that a session puts on the wire, in any run of calls and whatever is answered, is
sent for what its call is for and has the format that the settings give it; no link refuses it for
its length. No call that goes on with a transfer is told that an argument is invalid unless a peer
says so; a call that begins something may be, but then it has sent nothing. -/
theorem sent_frames_well_formed (session : Session) (calls : List Call) :
    ∀ turn ∈ session.turns peer state calls,
      (∀ purpose frame reply, .sent purpose frame reply ∈ turn.events →
        purpose ∈ turn.call.purposes ∧ WellFormed session.settings purpose frame ∧
          ∀ (link : Link) fault, (link.transmit frame fault).value ≠ .error Link.oversized) ∧
      ∀ failure, turn.result = some (.error failure) → failure.kind = .invalidArgument →
        (∃ event ∈ turn.events, ∃ fault, event.fault? = some fault ∧ fault.failure = failure) ∨
          (turn.call.direction? = none ∧ ∀ event ∈ turn.events, event.frame? = none) := by
  intro turn member
  have orderly := turns_orderly peer state session calls turn member
  refine ⟨?_, orderly.arguments⟩
  intro purpose frame reply sent
  obtain ⟨listed, formed⟩ := orderly.frames purpose frame reply sent
  refine ⟨listed, formed, ?_⟩
  intro link fault refused
  have wide := ((link.transmit_oversized_iff frame fault).mp refused).2
  have bound := formed.atMost
  omega

end Runs

theorem sample_frames_well_formed :
    let key : RecordKey := ⟨text "u", text "a", by decide, by decide⟩
    let card := Peer.steady (.ofBytes [0, 9, 0x90, 0]) (.ok (List.replicate 8 1))
    let calls := [.store key [7], .read key, .storeFixed (text "u") (text "a") [5],
      .deleteFixed (text "u") (text "a")]
    let turns := (standard true).turns card () calls
    let name := 117 :: List.replicate 31 0 ++ 97 :: List.replicate 63 0
    let storing := [0x80, 0x10, 0, 0, 128] ++ name ++ 5 :: List.replicate 31 0
    let deleting := [0x80, 0x30, 0, 0, 104] ++ name ++ List.replicate 8 1
    (turns.flatMap (·.events)).filterMap Event.frame? =
        [[0x80, 0x10, 0, 0, 4, 1, 117, 1, 97], [0x80, 0x11, 0, 0, 1, 7], [0x80, 0x12, 0, 0],
          [0x80, 0x20, 0, 0, 13, 1, 117, 1, 97, 8, 1, 1, 1, 1, 1, 1, 1, 1],
          [0x80, 0x21, 0, 0, 0, 0], [0x80, 0x22, 0, 0], storing, deleting] ∧
      WellFormed {} (.later .store .advance) [0x80, 0x11, 0, 0, 1, 7] ∧
      WellFormed {} (.later .store .finalize) [0x80, 0x12, 0, 0] ∧
      WellFormed {} (.later .read .advance) [0x80, 0x21, 0, 0, 0, 0] ∧
      WellFormed {} (.fixed .store) storing ∧ WellFormed {} (.fixed .delete) deleting := by
  intro key card calls turns name storing deleting
  have formed (purpose : Purpose) (frame : Bytes)
      (sent : (turns.any fun turn => turn.events.any fun event =>
        event.purpose? == some purpose && event.frame? == some frame) = true) :
      WellFormed {} purpose frame := by
    obtain ⟨turn, member, sent⟩ := List.any_eq_true.mp sent
    obtain ⟨event, passed, same⟩ := List.any_eq_true.mp sent
    obtain ⟨purposes, frames⟩ := Bool.and_eq_true_iff.mp same
    cases event with
    | signed subject signature => cases purposes
    | sent other carried reply =>
        obtain rfl : other = purpose := Option.some.inj (eq_of_beq purposes)
        obtain rfl : carried = frame := Option.some.inj (eq_of_beq frames)
        exact ((sent_frames_well_formed card () (standard true) calls turn member).1 _ _ _ passed).2.1
  refine ⟨by decide +kernel, ?_, ?_, ?_, ?_, ?_⟩ <;> exact formed _ _ (by decide +kernel)

end Session

end CardVault
