import CardVault.Proofs.OpenTransfer.Calls
import CardVault.Proofs.Raised.Calls
import CardVault.Session.Call

/-!
Which calls a session refuses. The table says it by the state of the session alone; a refusal sends
and signs nothing and changes nothing, and no other call ends as one out of turn unless a peer says
so. A session becomes unusable by the loss of its link only, and only a reset makes it usable again.
-/

namespace CardVault

namespace Session

open Dialogue

variable {σ τ : Type} {session : Session} {settings : Settings} {hasSigner : Bool} {call : Call}
  {kind : ErrorKind}

/-- The table of refusals: the states of a session in which a call is refused, and with which kind. -/
inductive Refuses (session : Session) (call : Call) : ErrorKind → Prop where
  | lost (unusable : session.usable = false) : Refuses session call .connectionUnavailable
  | busy (usable : session.usable = true) (begins : call.direction? = none) {transfer : Transfer}
      (active : session.active = some transfer) : Refuses session call .operationInProgress
  | idle (usable : session.usable = true) {direction : Direction}
      (goesOn : call.direction? = some direction) (free : session.active = none) :
      Refuses session call .noActiveOperation
  | turned (usable : session.usable = true) {direction : Direction}
      (goesOn : call.direction? = some direction) {transfer : Transfer}
      (active : session.active = some transfer) (other : transfer.direction ≠ direction) :
      Refuses session call .noActiveOperation
  | ended (usable : session.usable = true) {direction : Direction}
      (goesOn : call.direction? = some direction) {transfer : Transfer}
      (active : session.active = some transfer) (aborted : transfer.phase = .aborted) :
      Refuses session call .noActiveOperation

theorem Refuses.unready (refuses : session.Refuses call kind) :
    ¬ session.Ready call ∧ kind = session.refusalKind call := by
  unfold Ready refusalKind
  cases refuses with
  | lost unusable =>
      rw [unusable]
      refine ⟨?_, rfl⟩
      cases call.direction? <;> simp [Free, Carries, unusable]
  | busy usable begins active =>
      rw [usable, begins]
      exact ⟨by simp [Free, active], rfl⟩
  | idle usable goesOn free =>
      rw [usable, goesOn]
      exact ⟨by simp [Carries, free], rfl⟩
  | turned usable goesOn active other =>
      rw [usable, goesOn]
      exact ⟨by simp [Carries, active, Transfer.accepts, other], rfl⟩
  | ended usable goesOn active aborted =>
      rw [usable, goesOn]
      exact ⟨by simp [Carries, active, Transfer.accepts, aborted, Phase.isActive], rfl⟩

theorem ready_of_not_refused {past : List Mark}
    (accords : Accords past session.active session.collected)
    (listed : ∀ kind, ¬ session.Refuses call kind) : session.Ready call := by
  have usable : session.usable = true := by
    cases usable : session.usable with
    | true => rfl
    | false => exact absurd (.lost usable) (listed _)
  unfold Ready
  cases goesOn : call.direction? with
  | none =>
      refine ⟨usable, ?_⟩
      cases active : session.active with
      | none => rfl
      | some transfer => exact absurd (.busy usable goesOn active) (listed _)
  | some direction =>
      refine ⟨usable, ?_⟩
      cases active : session.active with
      | none => exact absurd (.idle usable goesOn active) (listed _)
      | some transfer =>
          refine ⟨transfer, rfl, ?_⟩
          rw [active] at accords
          rcases accords with ⟨side, pieces, account, _⟩ | ⟨side, pieces, account⟩
          · by_cases same : transfer.direction = direction
            · rw [account.accepts, ← account.side, same]
              exact beq_self_eq_true direction
            · exact absurd (.turned usable goesOn active same) (listed _)
          · exact absurd (.ended usable goesOn active account.phase) (listed _)

/-- Refusals are atomic and exact: a call that the table refuses is refused as it says, with nothing
sent, nothing signed and nothing changed, and no other call ends as one out of turn unless a peer has
complained so. The loss of the link makes a session unusable, whoever reports it, and nothing else
does; only a reset makes it usable again. -/
theorem refusals_exact (created : create settings hasSigner = .ok session) (peer : Peer σ)
    (state : σ) (calls : List Call) (call : Call) (further : Peer τ) (now : τ) :
    let reached := session.afterCalls peer state calls
    let transcript := (reached.perform call).run further now
    let after := transcript.value.2
    (call.isControl = false →
      (∀ kind, reached.Refuses call kind → ∃ message,
        transcript = ⟨(some (.error ⟨kind, none, message⟩), reached), [], now⟩) ∧
      ((∀ kind, ¬ reached.Refuses call kind) → ∀ failure,
        transcript.value.1 = some (.error failure) → failure.kind.isOutOfTurn = true →
          ∃ event ∈ transcript.events, ∃ error,
            event.fault? = some (.protocol error) ∧ error.kind = failure.kind)) ∧
    (reached.usable = true → (after.usable = false ↔ ∃ failure,
      transcript.value.1 = some (.error failure) ∧ failure.kind = .connectionUnavailable)) ∧
    (reached.usable = false → (after.usable = true ↔ call = .reset)) := by
  intro reached transcript after
  have accords := history_accords peer state calls (create_accords created)
  obtain ⟨_, _, lost, latched⟩ := perform_latches further now reached call
  refine ⟨fun answers => ⟨?_, ?_⟩, lost, latched⟩
  · intro kind refuses
    obtain ⟨unready, rfl⟩ := refuses.unready
    obtain ⟨message, refused⟩ := perform_refused answers unready
    exact ⟨message, by simp only [transcript, refused, run]⟩
  · intro listed failure failed outOfTurn
    rcases perform_ends further now answers (ready_of_not_refused accords listed) with
      ⟨payload, shows, _⟩ | ⟨ended, shows, _, raised⟩
    · cases failed.symm.trans shows
    · cases failed.symm.trans shows
      exact raised outOfTurn

theorem store_waits_for_read :
    let reached := (standard false).afterCalls (.steady twoBytes (.ok [])) () [.beginRead sampleKey]
    reached.active = some ⟨.read, .init, 0, some 2, 0⟩ ∧
      reached.Refuses (.store sampleKey [7]) .operationInProgress ∧
      ∃ message, (reached.perform (.store sampleKey [7])).run (.steady twoBytes (.ok [])) () =
        ⟨(some (.error ⟨.operationInProgress, none, message⟩), reached), [], ()⟩ := by
  intro reached
  have active : reached.active = some ⟨.read, .init, 0, some 2, 0⟩ := rfl
  have busy : reached.Refuses (.store sampleKey [7]) .operationInProgress := .busy rfl rfl active
  obtain ⟨table, _⟩ := refusals_exact (create_standard false) (.steady twoBytes (.ok [])) ()
    [.beginRead sampleKey] (.store sampleKey [7]) (.steady twoBytes (.ok [])) ()
  exact ⟨active, busy, (table rfl).1 _ busy⟩

end Session

/-!
The error boundary of a session. A fault that the card or the signer raises ends the call that it is
raised in, there and then, with the failure of its class; no fault gets past the session. A transfer
outlives the fault only if that complains about the order of calls. It is spent then, and until it
is dropped every call is refused.
-/

section

open Dialogue

/-- The failure that a fault of each class counts as. -/
inductive Fault.CountsAs : Fault → Failure → Prop where
  | protocol (error : ProtocolError) :
      CountsAs (.protocol error) ⟨error.kind, error.status, error.message⟩
  | crypto (origin : CryptoOrigin) (wording : Text) :
      CountsAs (.crypto origin wording)
        ⟨.initRejected, none, Text.untilNul (origin.heading ++ wording)⟩
  | link (wording : Text) :
      CountsAs (.link wording) ⟨.connectionUnavailable, none, Text.untilNul wording⟩
  | other (wording : Text) :
      CountsAs (.other wording) ⟨.connectionUnavailable, none, Text.untilNul wording⟩

theorem Fault.countsAs_failure (fault : Fault) : fault.CountsAs fault.failure := by
  cases fault with
  | protocol error => exact .protocol error
  | crypto origin wording => exact .crypto origin wording
  | link wording => exact .link wording
  | other wording => exact .other wording

theorem ErrorKind.isOutOfTurn_iff (kind : ErrorKind) :
    kind.isOutOfTurn = true ↔ kind = .noActiveOperation ∨ kind = .operationInProgress := by
  simp [isOutOfTurn]

namespace Session

variable {σ : Type} {session : Session}

/-- A session with a transfer that has been aborted but not dropped. -/
def Spent (session : Session) : Prop :=
  session.usable = true ∧ ∃ transfer, session.active = some transfer ∧ transfer.phase = .aborted

/-- Whatever is called on the session, short of an abort or a reset, is refused as a call out of
turn, with nothing sent or signed and nothing changed. -/
def RefusesAll (session : Session) : Prop :=
  ∀ {τ : Type} (peer : Peer τ) (state : τ) (calls : List Call),
    (∀ call ∈ calls, call.isControl = false) →
      ∀ turn ∈ session.turns peer state calls, turn.events = [] ∧ turn.left = session.view ∧
        ∃ refusal, turn.result = some (.error refusal) ∧ refusal.kind.isOutOfTurn = true

theorem Spent.unready (spent : session.Spent) (call : Call) : ¬ session.Ready call := by
  obtain ⟨_, transfer, active, aborted⟩ := spent
  unfold Ready
  split
  · rintro ⟨_, other, same, accepts⟩
    cases active.symm.trans same
    simp [Transfer.accepts, aborted, Phase.isActive] at accepts
  · rintro ⟨_, free⟩
    cases active.symm.trans free

theorem Spent.refusal_outOfTurn (spent : session.Spent) (call : Call) :
    (session.refusalKind call).isOutOfTurn = true := by
  simp only [refusalKind, spent.1, ↓reduceIte]
  split <;> rfl

theorem Spent.refusesAll (spent : session.Spent) : session.RefusesAll := by
  intro τ peer state calls answers
  induction calls with
  | nil => simp [turns]
  | cons call calls ih =>
      obtain ⟨answersFirst, answersLater⟩ := List.forall_mem_cons.mp answers
      obtain ⟨message, refused⟩ := perform_refused answersFirst (spent.unready call)
      -- The refused call leaves the very same session to the rest of the run.
      simp only [turns, refused, run]
      refine List.forall_mem_cons.mpr ⟨⟨rfl, rfl, _, rfl, spent.refusal_outOfTurn call⟩, ?_⟩
      exact ih answersLater

/-- What a call comes to in which a fault is raised. -/
structure CutShort (transcript : Transcript σ (Option Result × Session)) (raised : Event)
    (failure : Failure) : Prop where
  reported : transcript.value.1 = some (.error failure)
  last : ∃ earlier, transcript.events = earlier ++ [raised] ∧
    ∀ before ∈ earlier, before.fault? = none
  latch : transcript.value.2.usable = false ↔ failure.kind = .connectionUnavailable
  spent : ∀ transfer, transcript.value.2.active = some transfer →
    (failure.kind = .noActiveOperation ∨ failure.kind = .operationInProgress) ∧
      transfer.phase = .aborted ∧ transcript.value.2.RefusesAll

/-- Nothing that a card or a signer raises gets past a session: it is reported as its class says, it
is the first fault of the call and the last that passes in it, and what it leaves behind is unusable,
or free, or spent. -/
theorem faults_end_calls (session : Session) (call : Call) (peer : Peer σ) (state : σ) :
    let transcript := (session.perform call).run peer state
    ∀ event ∈ transcript.events, ∀ fault, event.fault? = some fault →
      ∃ failure, fault.CountsAs failure ∧ CutShort transcript event failure := by
  intro transcript event member fault raised
  obtain ⟨last, reported, failed⟩ := perform_raised peer state member raised
  refine ⟨fault.failure, fault.countsAs_failure, reported, last, ?_, ?_⟩
  · rw [Bool.eq_false_iff, ne_eq, failed.usable]
    simp
  · intro transfer active
    obtain ⟨outOfTurn, aborted⟩ := failed.spent transfer active
    have usable : transcript.value.2.usable = true := by
      rw [failed.usable]
      intro lost
      rw [lost] at outOfTurn
      cases outOfTurn
    have spent : transcript.value.2.Spent := ⟨usable, transfer, active, aborted⟩
    exact ⟨(ErrorKind.isOutOfTurn_iff _).mp outOfTurn, aborted, spent.refusesAll⟩

def claimsBusy : Peer Nat where
  answer _ before :=
    (if before = 0 then .ofBytes [0, 9, 0x90, 0]
      else .error (.protocol (.raised .operationInProgress none (text "busy"))), before + 1)
  sign _ before := (.ok [], before)

theorem busy_card_spends_read :
    let transcript := ((standard false).perform (.read sampleKey)).run claimsBusy 0
    let complaint : Fault := .protocol (.raised .operationInProgress none (text "busy"))
    transcript.value.2.active = some ⟨.read, .aborted, 0, some 9, 0⟩ ∧
      ∃ event ∈ transcript.events, event.fault? = some complaint ∧
        ∃ failure, complaint.CountsAs failure ∧ CutShort transcript event failure := by
  intro transcript complaint
  have passed : transcript.events =
      [.sent (.init .read) [0x80, 0x20, 0, 0, 5, 1, 117, 1, 97, 0] (.ofBytes [0, 9, 0x90, 0]),
        .sent (.later .read .advance) [0x80, 0x21, 0, 0, 0, 0] (.error complaint)] := rfl
  have asked : .sent (.later .read .advance) [0x80, 0x21, 0, 0, 0, 0] (.error complaint) ∈
      transcript.events := by simp [passed]
  exact ⟨rfl, _, asked, rfl,
    faults_end_calls (standard false) (.read sampleKey) claimsBusy 0 _ asked complaint rfl⟩

end Session

end

end CardVault
