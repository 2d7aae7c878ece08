import CardVault.Proofs.Refusal
import CardVault.Session.Call
import CardVault.Transfer.Steps

/-!
How a transfer ends. Every later step is a number of exchanges that succeed, and then perhaps one
that does not. `Comes` says so once for all of them; that the bytes are counted exactly up to the
failing exchange, whichever way it fails, and that an ended transfer is left alone, follows from it.
-/

namespace CardVault.Transfer

open Dialogue

variable {α β σ : Type} {direction : Direction} {transfer mid after : Transfer}
  {events done : List Event} {step : LaterStep} {peer : Peer σ}

theorem received_plain {reply : Reply} {fault : Fault} (plain : reply.Plain)
    (failed : received reply = .error fault) : ∃ error, fault = .protocol error := by
  cases reply with
  | error raised =>
      rcases plain raised rfl with ⟨wording, rfl⟩ | ⟨error, rfl⟩
      · cases failed
        exact ⟨_, rfl⟩
      · cases failed
        exact ⟨_, rfl⟩
  | ok answer =>
      cases decoded : Response.decode answer.raw with
      | ok response =>
          rw [received_decoded decoded] at failed
          cases failed
      | error error =>
          rw [received_undecoded decoded] at failed
          cases failed
          exact ⟨_, rfl⟩

/-- Exchanges of data that succeed, and what they make of a transfer. -/
inductive Moves (direction : Direction) : Transfer → List Event → Transfer → Prop where
  | none {transfer : Transfer} : Moves direction transfer [] transfer
  | piece {transfer after : Transfer} {event : Event} {events : List Event} {reply : Reply}
      {bytes : Bytes} (given : event.reply? = some reply) (succeeds : ¬ reply.Fails direction)
      (moved : event.moved? direction = some bytes)
      (onward : Moves direction ((transfer.enter (Phase.moving direction)).count bytes.length)
        events after) :
      Moves direction transfer (event :: events) after

/-- What a later step that a transfer accepts can come to. -/
inductive Comes (direction : Direction) (transfer : Transfer) :
    LaterStep → List Event → Except Fault α × Transfer → Prop where
  | moved {events : List Event} {value : α} {after : Transfer}
      (moves : Moves direction transfer events after) :
      Comes direction transfer .advance events (.ok value, after)
  | finalized {event : Event} {value : α} :
      Comes direction transfer .finalize [event] (.ok value, transfer.enter .finalized)
  -- The next command cannot be encoded, so nothing more is sent.
  | unsent {step : LaterStep} {done : List Event} {mid : Transfer} {command : Command}
      {error : ProtocolError} (moves : Moves direction transfer done mid)
      (unencoded : command.encode = .error error) :
      Comes direction transfer step done (.error (.protocol error), mid.enter .aborted)
  | failed {step : LaterStep} {done : List Event} {mid : Transfer} {event : Event} {reply : Reply}
      {error : ProtocolError} (moves : Moves direction transfer done mid)
      (given : event.reply? = some reply) (fails : reply.Fails direction) :
      Comes direction transfer step (done ++ [event]) (.error (.protocol error), mid.enter .aborted)

theorem Comes.behind {event : Event} {reply : Reply} {bytes : Bytes} {value : Except Fault α × Transfer}
    (given : event.reply? = some reply) (succeeds : ¬ reply.Fails direction)
    (moved : event.moved? direction = some bytes)
    (comes : Comes direction ((transfer.enter (Phase.moving direction)).count bytes.length) .advance
      events value) :
    Comes direction transfer .advance (event :: events) value := by
  cases comes with
  | moved moves => exact .moved (.piece given succeeds moved moves)
  | unsent moves unencoded => exact .unsent (.piece given succeeds moved moves) unencoded
  | failed moves last fails => exact .failed (.piece given succeeds moved moves) last fails

theorem fails_unanswered {reply : Reply} (unanswered : reply.response? = none)
    (direction : Direction) : reply.Fails direction := by
  simp [Reply.Fails, unanswered]

theorem exchangeIn_comes (plain : peer.Plain) {purpose : Purpose} {command : Command}
    {next : Except Fault Response × Transfer → Dialogue (Except Fault α × Transfer)} {state : σ}
    (relays : ∀ error after,
      next (.error (.protocol error), after) = .done (.error (.protocol error), after))
    (answered : ∀ reply later response, command.data.length ≤ 255 →
      reply.response? = some response →
        let rest := (next (.ok response, transfer)).run peer later
        Comes direction transfer step (.sent purpose command.frame reply :: rest.events)
          rest.value) :
    let transcript := ((exchangeIn transfer purpose command).bind next).run peer state
    Comes direction transfer step transcript.events transcript.value := by
  cases encoded : command.encode with
  | error error =>
      have same : (exchangeIn transfer purpose command).bind next =
          next (.error (.protocol error), transfer.enter .aborted) := by
        simp only [exchangeIn, exchangeFor, encoded]
        rfl
      rw [same, relays]
      exact .unsent .none encoded
  | ok frame =>
      have fits := ((command.encode_eq_ok_iff frame).mp encoded).1
      rw [exchangeIn_run transfer purpose command fits next peer state]
      have plainly := plain command.frame state
      generalize peer.answer command.frame state = given at plainly ⊢
      rcases given with ⟨reply, later⟩
      cases outcome : received reply with
      | ok response =>
          simp only [outcome, exchanged]
          exact answered reply later response fits ((Reply.received_eq_ok_iff _ _).mp outcome)
      | error fault =>
          rcases received_plain plainly outcome with ⟨error, rfl⟩
          have unanswered : reply.response? = none := by
            simp [Reply.response?, outcome, Except.toOption]
          simp only [outcome, exchanged, relays]
          exact .failed .none rfl (fails_unanswered unanswered direction)

variable {settings : Settings}

theorem rejected_of_unsuccessful {status : StatusWord} (unsuccessful : ¬ status.isSuccess = true) :
    status ≠ 0x9000 := fun accepted =>
  unsuccessful ((StatusWord.isSuccess_iff_eq status).mpr accepted)

theorem pushAll_comes (plain : peer.Plain) (chunks : List Bytes) (transfer : Transfer) (state : σ) :
    let transcript := (pushAll settings chunks transfer).run peer state
    Comes .store transfer .advance transcript.events transcript.value := by
  induction chunks generalizing transfer state with
  | nil => exact .moved .none
  | cons chunk rest ih =>
      apply exchangeIn_comes plain
      · exact fun _ _ => rfl
      · intro reply later response fits answer
        dsimp only
        by_cases success : response.status.isSuccess = true
        · have accepted := (StatusWord.isSuccess_iff_eq _).mp success
          have succeeds : ¬ reply.Fails .store := by simp [Reply.Fails, answer, accepted]
          have moved : Event.moved? .store
              (.sent (.later .store .advance) (chunkCommand settings chunk).frame reply) =
                some chunk := by
            simp [Event.moved?, Reply.status?, answer, accepted, Command.payload_frame _ fits]
            rfl
          rw [if_pos success]
          exact .behind rfl succeeds moved (ih _ later)
        · have fails : reply.Fails .store := by
            simpa [Reply.Fails, answer] using rejected_of_unsuccessful success
          rw [if_neg success]
          exact .failed .none rfl fails

theorem pullAll_comes (plain : peer.Plain) (rounds : Nat) (transfer : Transfer)
    (chunks : List Bytes) (state : σ) :
    let transcript := (pullAll settings rounds transfer chunks).run peer state
    Comes .read transfer .advance transcript.events transcript.value := by
  induction rounds generalizing transfer chunks state with
  | zero => exact .moved .none
  | succ rounds ih =>
      simp only [pullAll]
      split
      · apply exchangeIn_comes plain
        · exact fun _ _ => rfl
        · intro reply later response fits answer
          have moved : Event.moved? .read
              (.sent (.later .read .advance) (pullCommand settings).frame reply) =
                some response.data := by
            simp [Event.moved?, answer]
          dsimp only
          cases kind : response.status.kind with
          | success =>
              have succeeds : ¬ reply.Fails .read := by simp [Reply.Fails, answer, kind]
              exact .behind rfl succeeds moved (.moved .none)
          | moreData =>
              by_cases empty : response.data = []
              · have fails : reply.Fails .read := by simp [Reply.Fails, answer, kind, empty]
                rw [if_pos empty]
                exact .failed .none rfl fails
              · have succeeds : ¬ reply.Fails .read := by simp [Reply.Fails, answer, kind, empty]
                rw [if_neg empty]
                exact .behind rfl succeeds moved (ih _ _ later)
          | failure =>
              have fails : reply.Fails .read := by simp [Reply.Fails, answer, kind]
              exact .failed .none rfl fails
      · exact .moved .none

theorem finalizeStore_comes (plain : peer.Plain) (open_ : transfer.accepts .store = true)
    (state : σ) :
    let transcript := (finalizeStore settings transfer).run peer state
    Comes .store transfer .finalize transcript.events transcript.value := by
  simp only [finalizeStore, open_, ↓reduceIte, Dialogue.map]
  apply exchangeIn_comes plain
  · exact fun _ _ => rfl
  · intro reply later response fits answer
    dsimp only
    by_cases success : response.status.isSuccess = true
    · rw [if_pos success]
      exact .finalized
    · have fails : reply.Fails .store := by
        simpa [Reply.Fails, answer] using rejected_of_unsuccessful success
      rw [if_neg success]
      exact .failed .none rfl fails

-- What the card says of the end of a read is advice, so an answer is all that is needed.
theorem finalizeRead_comes (plain : peer.Plain) (open_ : transfer.accepts .read = true)
    (state : σ) :
    let transcript := (finalizeRead settings transfer).run peer state
    Comes .read transfer .finalize transcript.events transcript.value := by
  simp only [finalizeRead, open_, ↓reduceIte, Dialogue.map]
  apply exchangeIn_comes plain
  · exact fun _ _ => rfl
  · intro reply later response fits answer
    exact .finalized

structure Open (direction : Direction) (transfer : Transfer) : Prop where
  side : transfer.direction = direction
  phase : transfer.phase = .init ∨ transfer.phase = Phase.moving direction

theorem Open.accepts (opened : Open direction transfer) : transfer.accepts direction = true := by
  rw [Transfer.accepts, opened.side, beq_self_eq_true, Bool.true_and]
  rcases opened.phase with phase | phase
  · rw [phase]
    rfl
  · rw [phase]
    cases direction <;> rfl

theorem Open.enter {target : Phase} (opened : Open direction transfer)
    (onward : target = Phase.moving direction ∨ target = .finalized ∨ target = .aborted) :
    transfer.enter target = { transfer with phase := target } := by
  have allowed : transfer.allows target = true := by
    rw [allows, opened.side]
    rcases opened.phase with phase | phase <;> rcases onward with rfl | rfl | rfl <;>
      rw [phase] <;> cases direction <;> rfl
  rw [Transfer.enter, if_pos allowed]

theorem Open.moving (opened : Open direction transfer) (bytes : Nat) :
    (transfer.enter (Phase.moving direction)).count bytes =
      { transfer with
        phase := Phase.moving direction, moved := transfer.moved + UInt64.ofNat bytes } := by
  rw [opened.enter (Or.inl rfl)]
  rfl

def movedBy (direction : Direction) (events : List Event) : Nat :=
  (events.filterMap (Event.moved? direction)).flatten.length

theorem Moves.account (moves : Moves direction transfer events after)
    (opened : Open direction transfer) :
    Open direction after ∧ after =
      { transfer with
        phase := after.phase, moved := transfer.moved + UInt64.ofNat (movedBy direction events) } := by
  induction moves with
  | none => exact ⟨opened, by simp [movedBy]⟩
  | piece given succeeds moved onward ih =>
      rw [opened.moving] at ih
      rcases ih ⟨opened.side, Or.inr rfl⟩ with ⟨still, same⟩
      refine ⟨still, ?_⟩
      rw [same]
      simp [movedBy, moved, UInt64.ofNat_add, UInt64.add_assoc]

theorem Moves.succeed (moves : Moves direction transfer events after) :
    ∀ event ∈ events, ∃ reply, event.reply? = some reply ∧ ¬ reply.Fails direction := by
  induction moves with
  | none => simp
  | piece given succeeds moved onward ih =>
      exact List.forall_mem_cons.mpr ⟨⟨_, given, succeeds⟩, ih⟩

/-- What a step comes to that does not succeed: the transfer is aborted with the bytes of the exchanges
that succeeded, and behind these stands the one that failed, unless its command was never sent. -/
theorem Comes.aborts {fault : Fault} (opened : Open direction transfer)
    (comes : Comes (α := α) direction transfer step events (.error fault, after)) :
    ∃ done rest, events = done ++ rest ∧
      (∀ event ∈ done, ∃ reply, event.reply? = some reply ∧ ¬ reply.Fails direction) ∧
      ((rest = [] ∧ ∃ (command : Command) (error : ProtocolError),
          fault = .protocol error ∧ command.encode = .error error) ∨
        ∃ event reply, rest = [event] ∧ event.reply? = some reply ∧ reply.Fails direction) ∧
      after = { transfer with
        phase := .aborted, moved := transfer.moved + UInt64.ofNat (movedBy direction done) } := by
  have aborted {done : List Event} {mid : Transfer} (moves : Moves direction transfer done mid) :
      mid.enter .aborted = { transfer with
        phase := .aborted, moved := transfer.moved + UInt64.ofNat (movedBy direction done) } := by
    rcases moves.account opened with ⟨still, same⟩
    rw [still.enter (Or.inr (Or.inr rfl)), same]
  cases comes with
  | unsent moves unencoded =>
      exact ⟨events, [], by simp, moves.succeed, Or.inl ⟨rfl, _, _, rfl, unencoded⟩, aborted moves⟩
  | failed moves given fails =>
      exact ⟨_, _, rfl, moves.succeed, Or.inr ⟨_, _, rfl, given, fails⟩, aborted moves⟩

theorem Comes.finalizes {value : α} (opened : Open direction transfer)
    (comes : Comes direction transfer .finalize events (.ok value, after)) :
    after = { transfer with phase := .finalized } := by
  cases comes with
  | finalized => exact opened.enter (Or.inr (Or.inl rfl))

/-- What a transfer is like between calls. -/
structure Proper (transfer : Transfer) : Prop where
  phase : transfer.phase = .idle ∨ transfer.phase = .finalized ∨ transfer.phase = .aborted ∨
    Open transfer.direction transfer
  total : ∀ total, transfer.total = some total → total.toNat ≤ 65535

theorem Comes.proper {value : Except Fault α × Transfer} (proper : transfer.Proper)
    (opened : Open direction transfer) (comes : Comes direction transfer step events value) :
    value.2.Proper := by
  rcases value with ⟨outcome, after⟩
  cases outcome with
  | error fault =>
      rcases comes.aborts opened with ⟨_, _, _, _, _, rfl⟩
      exact ⟨Or.inr (Or.inr (Or.inl rfl)), proper.total⟩
  | ok value =>
      cases step with
      | finalize =>
          rw [comes.finalizes opened]
          exact ⟨Or.inr (Or.inl rfl), proper.total⟩
      | advance =>
          cases comes with
          | moved moves =>
              rcases moves.account opened with ⟨still, same⟩
              have total : after.total = transfer.total := by rw [same]
              refine ⟨Or.inr (Or.inr (Or.inr ?_)), fun told => ?_⟩
              · rw [still.side]
                exact still
              · rw [total]
                exact proper.total told

/-- A call goes on with a transfer of its own direction that has begun and has not ended. -/
def Engaged (transfer : Transfer) (call : Call) : Prop :=
  transfer.direction = call.direction ∧ transfer.phase ≠ .idle ∧ transfer.phase ≠ .finalized ∧
    transfer.phase ≠ .aborted

variable {call : Call}

theorem Proper.opened (proper : transfer.Proper) (engaged : transfer.Engaged call) :
    Open call.direction transfer := by
  rcases engaged with ⟨side, begun, unfinished, unaborted⟩
  rw [← side]
  rcases proper.phase with idle | finalized | aborted | opened
  · exact absurd idle begun
  · exact absurd finalized unfinished
  · exact absurd aborted unaborted
  · exact opened

theorem yielding_comes {yield : α → Yield} {dialogue : Dialogue (Except Fault α × Transfer)}
    {state : σ}
    (comes : Comes direction transfer step (dialogue.run peer state).events
      (dialogue.run peer state).value) :
    let transcript := (yielding yield dialogue).run peer state
    Comes direction transfer step transcript.events transcript.value := by
  simp only [yielding, run_map]
  generalize (dialogue.run peer state).events = passed at comes ⊢
  generalize (dialogue.run peer state).value = value at comes ⊢
  cases comes with
  | moved moves => exact .moved moves
  | finalized => exact .finalized
  | unsent moves unencoded => exact .unsent moves unencoded
  | failed moves given fails => exact .failed moves given fails

theorem perform_comes (proper : transfer.Proper) (engaged : transfer.Engaged call)
    (plain : peer.Plain) (settings : Settings) (state : σ) :
    let transcript := (transfer.perform settings call).run peer state
    Comes call.direction transfer call.step transcript.events transcript.value := by
  have accepts := (proper.opened engaged).accepts
  cases call with
  | continueStore payload =>
      have same : continueStore settings transfer payload =
          pushAll settings (slices settings.chunkSize.toNat payload) transfer := if_pos accepts
      apply yielding_comes
      rw [same]
      exact pushAll_comes plain _ _ _
  | finalizeStore => exact yielding_comes (finalizeStore_comes plain accepts state)
  | continueRead =>
      have small : (transfer.total.getD 0).toNat ≤ 65535 := by
        cases told : transfer.total with
        | none => decide
        | some total => exact proper.total total told
      apply yielding_comes
      rw [continueRead_accepted settings accepts small]
      exact pullAll_comes plain _ _ _ _
  | finalizeRead => exact yielding_comes (finalizeRead_comes plain accepts state)

theorem perform_disengaged (settings : Settings) (disengaged : ¬ transfer.Engaged call) :
    transfer.perform settings call =
      .done (.error (.protocol (.outOfSequence call.step)), transfer) := by
  have closed : transfer.accepts call.direction = false := by
    cases accepts : transfer.accepts call.direction with
    | false => rfl
    | true =>
        simp only [Transfer.accepts, Bool.and_eq_true, beq_iff_eq] at accepts
        refine absurd ⟨accepts.1, ?_, ?_, ?_⟩ disengaged <;>
          (intro phase; rw [phase] at accepts; cases accepts.2)
  cases call with
  | continueStore payload => rw [perform, continueStore_refuses settings closed]; rfl
  | finalizeStore => rw [perform, finalizeStore_refuses settings closed]; rfl
  | continueRead => rw [perform, continueRead_refuses settings closed]; rfl
  | finalizeRead => rw [perform, finalizeRead_refuses settings closed]; rfl

/-- Whatever is called on it is refused, with nothing sent and nothing changed. -/
def Ended (transfer : Transfer) : Prop :=
  ∀ {τ : Type} (settings : Settings) (peer : Peer τ) (state : τ) (calls : List Call),
    (transfer.performAll settings calls).run peer state =
      ⟨(calls.map fun call => .error (.protocol (.outOfSequence call.step)), transfer), [], state⟩

theorem ended_of_phase (phase : transfer.phase = .finalized ∨ transfer.phase = .aborted) :
    transfer.Ended := by
  intro τ settings peer state calls
  have disengaged (call : Call) : ¬ transfer.Engaged call := by
    rintro ⟨_, _, unfinished, unaborted⟩
    exact phase.elim unfinished unaborted
  induction calls with
  | nil => rfl
  | cons call calls ih =>
      rw [performAll, perform_disengaged settings (disengaged call), run_bind]
      simp only [run, run_map, ih, List.map_cons, List.append_nil]

theorem beginStore_begun {key : RecordKey} {state : σ}
    (begun : ((beginStore settings key).run peer state).value = .ok transfer) :
    transfer = ⟨.store, .init, 0, none, 0⟩ := by
  rw [beginStore, run_map] at begun
  dsimp only at begun
  split at begun
  · cases begun
  · split at begun
    · cases begun
      rfl
    · cases begun

theorem beginRead_begun {envelope : Envelope} {state : σ}
    (begun : ((beginRead settings envelope).run peer state).value = .ok transfer) :
    ∃ total : UInt16, transfer = ⟨.read, .init, 0, some total.toUInt64, 0⟩ := by
  rw [beginRead] at begun
  split at begun
  · cases begun
  · rw [run_map] at begun
    dsimp only at begun
    split at begun
    · cases begun
    · split at begun
      · split at begun
        · cases begun
          exact ⟨_, rfl⟩
        · cases begun
      · cases begun

theorem proper_of_begun {envelope : Envelope} {state : σ}
    (begun : ((beginRead settings envelope).run peer state).value = .ok transfer) :
    transfer.Proper := by
  obtain ⟨total, rfl⟩ := beginRead_begun begun
  refine ⟨Or.inr (Or.inr (Or.inr ⟨rfl, Or.inl rfl⟩)), ?_⟩
  rintro _ ⟨⟩
  have bound := total.toNat_lt
  rw [UInt16.toNat_toUInt64]
  omega

theorem Reached.proper (reached : Reached @Peer.Plain transfer) : transfer.Proper := by
  induction reached with
  | fresh direction => exact ⟨Or.inl rfl, fun _ told => by cases told⟩
  | stored begun =>
      rw [beginStore_begun begun]
      exact ⟨Or.inr (Or.inr (Or.inr ⟨rfl, Or.inl rfl⟩)), fun _ told => by cases told⟩
  | opened begun => exact proper_of_begun begun
  | @called σ settings peer state transfer before plain call proper =>
      by_cases engaged : transfer.Engaged call
      · exact (perform_comes proper engaged plain settings state).proper proper (proper.opened engaged)
      · rw [perform_disengaged settings engaged]
        exact proper

/-- What a call on a transfer comes to, whatever the peer says. -/
structure Abides (transfer : Transfer) (call : Call) (state : σ)
    (transcript : Transcript σ (Except Fault Yield × Transfer)) : Prop where
  refused : ¬ transfer.Engaged call → ∃ error : ProtocolError,
    transcript = ⟨(.error (.protocol error), transfer), [], state⟩ ∧
      error.kind = .noActiveOperation
  -- What succeeded before is counted, and the failing exchange is the last, if it came to be sent.
  aborted : transfer.Engaged call → ∀ fault, transcript.value.1 = .error fault →
    transcript.value.2.Ended ∧ ∃ done rest, transcript.events = done ++ rest ∧
      (∀ event ∈ done, ∃ reply, event.reply? = some reply ∧ ¬ reply.Fails call.direction) ∧
      ((rest = [] ∧ ∃ (command : Command) (error : ProtocolError),
          fault = .protocol error ∧ command.encode = .error error) ∨
        ∃ event reply, rest = [event] ∧ event.reply? = some reply ∧
          reply.Fails call.direction) ∧
      transcript.value.2 = { transfer with
        phase := .aborted,
        moved := transfer.moved + UInt64.ofNat (movedBy call.direction done) }
  finalized : transfer.Engaged call → call.step = .finalize → ∀ yield,
    transcript.value.1 = .ok yield →
      transcript.value.2.Ended ∧ transcript.value.2 = { transfer with phase := .finalized }

/-- Every call on every state that a transfer reaches. -/
theorem calls_abide (reached : Reached @Peer.Plain transfer) (plain : peer.Plain) (settings : Settings)
    (state : σ) (call : Call) :
    Abides transfer call state ((transfer.perform settings call).run peer state) where
  refused := fun disengaged => by
    rw [perform_disengaged settings disengaged]
    exact ⟨_, rfl, rfl⟩
  aborted := fun engaged fault failed => by
    have comes := perform_comes reached.proper engaged plain settings state
    generalize (transfer.perform settings call).run peer state = transcript at comes failed ⊢
    rcases transcript with ⟨⟨outcome, after⟩, events, last⟩
    cases failed
    rcases comes.aborts (reached.proper.opened engaged) with ⟨done, rest, split, ran, stop, left⟩
    refine ⟨ended_of_phase (Or.inr ?_), done, rest, split, ran, stop, left⟩
    rw [left]
  finalized := fun engaged finalizes yield passed => by
    have comes := perform_comes reached.proper engaged plain settings state
    rw [finalizes] at comes
    generalize (transfer.perform settings call).run peer state = transcript at comes passed ⊢
    rcases transcript with ⟨⟨outcome, after⟩, events, last⟩
    cases passed
    have left := comes.finalizes (reached.proper.opened engaged)
    refine ⟨ended_of_phase (Or.inl ?_), left⟩
    rw [left]

def failsAfterTwo : Peer Nat where
  answer _ before :=
    (match before with
      | 0 => .ofBytes [0, 9, 0x90, 0]
      | 1 => .ofBytes [1, 2, 0x61, 7]
      | _ => .ofBytes [0x6A, 0x82], before + 1)
  sign _ before := (.ok [], before)

theorem two_bytes_stay_counted :
    let opened : Transfer := ⟨.read, .init, 0, some 9, 0⟩
    let transcript := (opened.perform {} .continueRead).run failsAfterTwo 1
    transcript.value.2 = ⟨.read, .aborted, 2, some 9, 0⟩ ∧
      Reached @Peer.Plain opened ∧ failsAfterTwo.Plain ∧ Abides opened .continueRead 1 transcript := by
  intro opened transcript
  have begun : ((beginRead {} ⟨⟨text "u", text "a", by decide, by decide⟩, [7]⟩).run
      failsAfterTwo 0).value = .ok opened := rfl
  have plain : failsAfterTwo.Plain := by
    intro frame before fault failed
    rcases before with _ | _ | _ <;> cases failed
  have reached : Reached @Peer.Plain opened := .opened begun
  exact ⟨rfl, reached, plain, calls_abide reached plain {} 1 .continueRead⟩

end CardVault.Transfer
