import CardVault.Proofs.EndedTransfer
import CardVault.Proofs.LinkLifecycle
import CardVault.Transfer.Phases

/-!
Every move is allowed. A transfer that a call finds is in a phase in which all that the call may ask
for is allowed, however the peer answers, and the call leaves it in such a phase again; so no move
is ever refused, and the phase after a call is the one that the call named. The same holds of a
link, whatever goes wrong with it.
-/

namespace CardVault

namespace Transfer

open Dialogue

variable {α σ : Type} {settings : Settings} {direction : Direction} {transfer : Transfer}
  {step : LaterStep} {events : List Event} {peer : Peer σ} {state : σ}

/-- What a later step makes of a transfer that accepts it: only the phase and the counter change. -/
structure Follows (direction : Direction) (step : LaterStep) (transfer : Transfer)
    (events : List Event) (value : Except Fault α × Transfer) : Prop where
  side : value.2.direction = transfer.direction
  total : value.2.total = transfer.total
  unrefused : value.2.refusals = transfer.refusals
  phase : value.2.phase =
    phaseAfter direction step transfer.phase (hasMoved direction events) value.1

theorem Open.aborted (opened : Open direction transfer) (error : ProtocolError) :
    Follows (α := α) direction step transfer events
      (.error (.protocol error), transfer.enter .aborted) := by
  rw [opened.enter (.inr (.inr rfl))]
  exact ⟨rfl, rfl, rfl, rfl⟩

theorem interrupted {fault : Fault} (foreign : ∀ error, fault ≠ .protocol error)
    (still : hasMoved direction events = false) :
    Follows (α := α) direction step transfer events (.error fault, transfer) := by
  refine ⟨rfl, rfl, rfl, ?_⟩
  cases fault with
  | protocol error => exact absurd rfl (foreign error)
  | _ => simp [phaseAfter, still]

theorem moved?_unanswered {purpose : Purpose} {frame : Bytes} {reply : Reply}
    (unanswered : reply.response? = none) :
    Event.moved? direction (.sent purpose frame reply) = none := by
  unfold Event.moved?
  split <;> simp_all [Reply.status?]

theorem Follows.behind {event : Event} {bytes : Bytes} {value : Except Fault α × Transfer}
    (opened : Open direction transfer) (moved : event.moved? direction = some bytes)
    (follows : Follows direction .advance
      ((transfer.enter (Phase.moving direction)).count bytes.length) events value) :
    Follows direction .advance transfer (event :: events) value := by
  rw [opened.moving] at follows
  have begins : hasMoved direction (event :: events) = true := by simp [hasMoved, moved]
  refine ⟨follows.side, follows.total, follows.unrefused, ?_⟩
  rw [follows.phase, begins]
  rcases value with ⟨fault | given, after⟩
  · cases fault <;> simp [phaseAfter]
  · simp [phaseAfter]

theorem exchangeIn_follows (opened : Open direction transfer) {purpose : Purpose}
    {command : Command}
    {next : Except Fault Response × Transfer → Dialogue (Except Fault α × Transfer)}
    (relays : ∀ fault after, next (.error fault, after) = .done (.error fault, after))
    (answered : ∀ reply later response, command.data.length ≤ 255 →
      reply.response? = some response →
        let rest := (next (.ok response, transfer)).run peer later
        Follows direction step transfer (.sent purpose command.frame reply :: rest.events)
          rest.value) :
    let transcript := ((exchangeIn transfer purpose command).bind next).run peer state
    Follows direction step transfer transcript.events transcript.value := by
  cases encoded : command.encode with
  | error error =>
      have same : (exchangeIn transfer purpose command).bind next =
          next (.error (.protocol error), transfer.enter .aborted) := by
        simp only [exchangeIn, exchangeFor, encoded]
        rfl
      rw [same, relays]
      exact opened.aborted error
  | ok frame =>
      have fits := ((command.encode_eq_ok_iff frame).mp encoded).1
      rw [exchangeIn_run transfer purpose command fits next peer state]
      generalize peer.answer command.frame state = given
      rcases given with ⟨reply, later⟩
      cases outcome : received reply with
      | ok response =>
          simp only [outcome, exchanged]
          exact answered reply later response fits ((Reply.received_eq_ok_iff _ _).mp outcome)
      | error fault =>
          have unanswered : reply.response? = none := by
            simp [Reply.response?, outcome, Except.toOption]
          have still : hasMoved direction [.sent purpose command.frame reply] = false := by
            simp [hasMoved, moved?_unanswered unanswered]
          cases fault with
          | protocol error =>
              simp only [outcome, exchanged, relays]
              exact opened.aborted error
          | _ =>
              simp only [outcome, exchanged, relays]
              exact interrupted (fun _ same => by cases same) still

theorem pushAll_follows (chunks : List Bytes) (opened : Open .store transfer) (state : σ) :
    let transcript := (pushAll settings chunks transfer).run peer state
    Follows .store .advance transfer transcript.events transcript.value := by
  induction chunks generalizing transfer state with
  | nil => exact ⟨rfl, rfl, rfl, rfl⟩
  | cons chunk rest ih =>
      apply exchangeIn_follows opened
      · exact fun _ _ => rfl
      · intro reply later response fits answer
        dsimp only
        by_cases success : response.status.isSuccess = true
        · have accepted := (StatusWord.isSuccess_iff_eq _).mp success
          have moved : Event.moved? .store
              (.sent (.later .store .advance) (chunkCommand settings chunk).frame reply) =
                some chunk := by
            simp [Event.moved?, Reply.status?, answer, accepted, Command.payload_frame _ fits]
            rfl
          rw [if_pos success]
          have grown := opened.moving chunk.length
          exact Follows.behind opened moved (ih (grown ▸ ⟨opened.side, .inr rfl⟩) later)
        · rw [if_neg success]
          exact opened.aborted _

theorem pullAll_follows (rounds : Nat) (opened : Open .read transfer) (chunks : List Bytes)
    (state : σ) :
    let transcript := (pullAll settings rounds transfer chunks).run peer state
    Follows .read .advance transfer transcript.events transcript.value := by
  induction rounds generalizing transfer chunks state with
  | zero => exact ⟨rfl, rfl, rfl, rfl⟩
  | succ rounds ih =>
      simp only [pullAll]
      split
      · apply exchangeIn_follows opened
        · exact fun _ _ => rfl
        · intro reply later response fits answer
          have moved : Event.moved? .read
              (.sent (.later .read .advance) (pullCommand settings).frame reply) =
                some response.data := by
            simp [Event.moved?, answer]
          have grown := opened.moving response.data.length
          dsimp only
          cases response.status.kind with
          | success => exact Follows.behind opened moved ⟨rfl, rfl, rfl, rfl⟩
          | moreData =>
              by_cases empty : response.data = []
              · rw [if_pos empty]
                exact opened.aborted _
              · rw [if_neg empty]
                exact Follows.behind opened moved (ih (grown ▸ ⟨opened.side, .inr rfl⟩) _ later)
          | failure => exact opened.aborted _
      · exact ⟨rfl, rfl, rfl, rfl⟩

theorem finalizes (opened : Open direction transfer) {value : α} :
    Follows direction .finalize transfer events (.ok value, transfer.enter .finalized) := by
  rw [opened.enter (.inr (.inl rfl))]
  exact ⟨rfl, rfl, rfl, rfl⟩

theorem finalizeStore_follows (opened : Open .store transfer) (state : σ) :
    let transcript := (finalizeStore settings transfer).run peer state
    Follows .store .finalize transfer transcript.events transcript.value := by
  simp only [finalizeStore, opened.accepts, ↓reduceIte, Dialogue.map]
  apply exchangeIn_follows opened
  · exact fun _ _ => rfl
  · intro reply later response fits answer
    dsimp only
    by_cases success : response.status.isSuccess = true
    · rw [if_pos success]
      exact finalizes opened
    · rw [if_neg success]
      exact opened.aborted _

theorem finalizeRead_follows (opened : Open .read transfer) (state : σ) :
    let transcript := (finalizeRead settings transfer).run peer state
    Follows .read .finalize transfer transcript.events transcript.value := by
  simp only [finalizeRead, opened.accepts, ↓reduceIte, Dialogue.map]
  apply exchangeIn_follows opened
  · exact fun _ _ => rfl
  · intro reply later response fits answer
    exact finalizes opened

theorem yielding_follows {yield : α → Yield} {dialogue : Dialogue (Except Fault α × Transfer)}
    (follows : Follows direction step transfer (dialogue.run peer state).events
      (dialogue.run peer state).value) :
    let transcript := (yielding yield dialogue).run peer state
    Follows direction step transfer transcript.events transcript.value := by
  simp only [yielding, run_map]
  exact ⟨follows.side, follows.total, follows.unrefused,
    follows.phase.trans (phaseAfter_map _ _ _ _ yield _).symm⟩

variable {call : Call}

theorem perform_follows (proper : transfer.Proper) (engaged : transfer.Engaged call)
    (settings : Settings) (peer : Peer σ) (state : σ) :
    let transcript := (transfer.perform settings call).run peer state
    Follows call.direction call.step transfer transcript.events transcript.value := by
  have opened := proper.opened engaged
  cases call with
  | continueStore payload =>
      have same : continueStore settings transfer payload =
          pushAll settings (slices settings.chunkSize.toNat payload) transfer :=
        if_pos opened.accepts
      apply yielding_follows
      rw [same]
      exact pushAll_follows _ opened state
  | finalizeStore => exact yielding_follows (finalizeStore_follows opened state)
  | continueRead =>
      have small : (transfer.total.getD 0).toNat ≤ 65535 := by
        cases told : transfer.total with
        | none => decide
        | some total => exact proper.total total told
      apply yielding_follows
      rw [continueRead_accepted settings opened.accepts small]
      exact pullAll_follows _ opened _ state
  | finalizeRead => exact yielding_follows (finalizeRead_follows opened state)

/-- A transfer between calls that has never asked for a move that was not allowed. -/
structure Clean (transfer : Transfer) : Prop where
  proper : transfer.Proper
  unrefused : transfer.refusals = 0

theorem phaseAfter_moves (outcome : Except Fault α) (moved : Bool) {before : Phase}
    (active : before = .init ∨ before = Phase.moving direction) :
    let after := phaseAfter direction step before moved outcome
    after = .finalized ∨ after = .aborted ∨ after = .init ∨ after = Phase.moving direction := by
  have stays : (if moved then Phase.moving direction else before) = .init ∨
      (if moved then Phase.moving direction else before) = Phase.moving direction := by
    cases moved with
    | true => exact .inr rfl
    | false => exact active
  rcases outcome with fault | value
  · cases fault with
    | protocol error => exact .inr (.inl rfl)
    | _ => exact .inr (.inr stays)
  · cases step with
    | advance => exact .inr (.inr stays)
    | finalize => exact .inl rfl

theorem Follows.clean {value : Except Fault α × Transfer} (clean : transfer.Clean)
    (opened : Open direction transfer) (follows : Follows direction step transfer events value) :
    value.2.Clean := by
  refine ⟨⟨?_, ?_⟩, follows.unrefused.trans clean.unrefused⟩
  · have phase : value.2.phase = .finalized ∨ value.2.phase = .aborted ∨ value.2.phase = .init ∨
        value.2.phase = Phase.moving direction := by
      rw [follows.phase]
      exact phaseAfter_moves value.1 _ opened.phase
    rcases phase with finalized | aborted | active
    · exact .inr (.inl finalized)
    · exact .inr (.inr (.inl aborted))
    · have side := follows.side.trans opened.side
      exact .inr (.inr (.inr ⟨rfl, side ▸ active⟩))
  · rw [follows.total]
    exact clean.proper.total

theorem Reached.clean {admits : (σ : Type) → Peer σ → Prop} (reached : Reached admits transfer) :
    transfer.Clean := by
  induction reached with
  | fresh direction => exact ⟨⟨.inl rfl, fun _ told => by cases told⟩, rfl⟩
  | stored begun => exact ⟨(Reached.stored begun).proper, by rw [beginStore_begun begun]⟩
  | opened begun =>
      obtain ⟨total, same⟩ := beginRead_begun begun
      exact ⟨proper_of_begun begun, by rw [same]⟩
  | @called σ settings peer state transfer before _ call clean =>
      by_cases engaged : transfer.Engaged call
      · exact (perform_follows clean.proper engaged settings peer state).clean clean
          (clean.proper.opened engaged)
      · rw [perform_disengaged settings engaged]
        exact clean

/-- What a call makes of a transfer: nothing that it asks for is refused, and the phase is the one
that it named. -/
structure Named (transfer : Transfer) (call : Call) (events : List Event)
    (value : Except Fault Yield × Transfer) : Prop where
  unrefused : value.2.refusals = 0
  outOfTurn : ¬ transfer.Engaged call → value.2 = transfer
  phase : transfer.Engaged call → value.2.phase = phaseAfter call.direction call.step transfer.phase
    (hasMoved call.direction events) value.1

theorem Clean.named (clean : transfer.Clean) (settings : Settings) (peer : Peer σ) (state : σ)
    (call : Call) :
    let transcript := (transfer.perform settings call).run peer state
    Named transfer call transcript.events transcript.value := by
  by_cases engaged : transfer.Engaged call
  · have follows := perform_follows clean.proper engaged settings peer state
    exact ⟨follows.unrefused.trans clean.unrefused, fun disengaged => absurd engaged disengaged,
      fun _ => follows.phase⟩
  · rw [perform_disengaged settings engaged]
    exact ⟨clean.unrefused, fun _ => rfl, fun otherwise => absurd otherwise engaged⟩

/-- What INIT makes of a transfer, and what is handed on of it. -/
structure Opening (opened : Transcript σ (Except Fault Unit × Transfer))
    (begun : Transcript σ (Except Fault Transfer)) : Prop where
  handed : begun = ⟨handedOn opened.value, opened.events, opened.peer⟩
  unrefused : opened.value.2.refusals = 0
  phase : opened.value.2.phase =
    phaseOpened (opened.replies.any (·.response?.isSome)) opened.value.1

structure Settles (value : Except Fault Unit × Transfer) : Prop where
  unrefused : value.2.refusals = 0
  phase : value.2.phase = phaseOpened true value.1

theorem answerStore_settles (response : Response) : Settles (answerStore (.ok response)) := by
  simp only [answerStore]
  split
  · exact ⟨rfl, rfl⟩
  · exact ⟨rfl, rfl⟩

theorem answerRead_settles (response : Response) : Settles (answerRead (.ok response)) := by
  simp only [answerRead]
  split
  · rcases Word.read response.data 0 with _ | _ | _ <;> exact ⟨rfl, rfl⟩
  · exact ⟨rfl, rfl⟩

theorem opening_of_settles {purpose : Purpose} {command : Command}
    {settle : Except Fault Response → Except Fault Unit × Transfer}
    (relays : ∀ fault, settle (.error fault) = (.error fault, fresh direction))
    (settles : ∀ response, Settles (settle (.ok response))) (peer : Peer σ) (state : σ) :
    let opened := ((exchangeFor purpose command).map settle).run peer state
    Opening opened ⟨handedOn opened.value, opened.events, opened.peer⟩ := by
  by_cases fits : command.data.length ≤ 255
  · have exchanged : ((exchangeFor purpose command).map settle).run peer state =
        let given := peer.answer command.frame state
        ⟨settle (received given.1), [.sent purpose command.frame given.1], given.2⟩ := by
      rw [exchangeFor_fits purpose command fits]
      rfl
    rw [exchanged]
    generalize peer.answer command.frame state = given
    obtain ⟨reply, later⟩ := given
    cases outcome : received reply with
    | ok response =>
        have answered : reply.response? = some response :=
          (Reply.received_eq_ok_iff _ _).mp outcome
        have settled := settles response
        simp only [outcome]
        exact ⟨rfl, settled.unrefused, by
          simp [settled.phase, Transcript.replies, Event.reply?, answered]⟩
    | error fault =>
        have unanswered : reply.response? = none := by
          simp [Reply.response?, outcome, Except.toOption]
        simp only [outcome, relays]
        exact ⟨rfl, rfl, by
          simp [Transcript.replies, Event.reply?, unanswered, phaseOpened, fresh]⟩
  · rw [exchangeFor_unfit purpose command (Nat.not_le.mp fits)]
    simp only [Dialogue.map, Dialogue.bind, run, relays]
    exact ⟨rfl, rfl, rfl⟩

theorem openStore_opening (settings : Settings) (key : RecordKey) (peer : Peer σ) (state : σ) :
    Opening ((openStore settings key).run peer state)
      ((beginStore settings key).run peer state) := by
  rw [beginStore_eq, run_map]
  exact opening_of_settles (fun _ => rfl) answerStore_settles peer state

theorem openRead_opening (settings : Settings) (envelope : Envelope) (peer : Peer σ) (state : σ) :
    Opening ((openRead settings envelope).run peer state)
      ((beginRead settings envelope).run peer state) := by
  rw [beginRead_eq, run_map]
  rw [openRead]
  cases envelope.wire with
  | error error => exact ⟨rfl, rfl, rfl⟩
  | ok data => exact opening_of_settles (fun _ => rfl) answerRead_settles peer state

end Transfer

namespace Link

variable {link : Link} {call : Call} {step : Step Returned} {requests : List Request}
  {entry : Entry}

theorem Comes.unrefused (comes : Comes link call step) : step.link.refusals = link.refusals := by
  cases comes <;> rfl

theorem Entry.left_named (entry : Entry) (rest : entry.before.AtRest) :
    entry.left.state = entry.named := by
  have comes := entry.comes rest
  rw [Entry.left, Entry.named]
  generalize entry.call = call at comes ⊢
  generalize entry.step = step at comes ⊢
  cases comes with
  | already open_ => exact open_
  | opened down => rfl
  | unreached down => rfl
  | closed => rfl
  | @refused frame _ _ uncarried =>
      have turnedDown : ¬ entry.found.carries frame = true := by
        simp only [carries, Bool.and_eq_true, beq_iff_eq, decide_eq_true_eq]
        rintro ⟨open_, fits⟩
        rcases uncarried with down | wide
        · exact down open_
        · exact Nat.not_lt.mpr fits wide
      exact (if_neg turnedDown).symm
  | unwritten open_ fits => exact (if_pos (by simp [carries, open_, fits])).symm
  | unanswered open_ fits => exact (if_pos (by simp [carries, open_, fits])).symm
  | answered open_ fits stream => rfl

theorem log_named (rest : link.AtRest) (unrefused : link.refusals = 0)
    (member : entry ∈ link.log requests) :
    entry.left.refusals = 0 ∧ entry.left.state = entry.named := by
  induction requests generalizing link with
  | nil => cases member
  | cons request requests ih =>
      have left : (Entry.mk request.arrived request.call link).left.refusals = 0 :=
        ((Entry.comes _ rest).unrefused).trans unrefused
      rcases List.mem_cons.mp member with same | later
      · rw [same]
        exact ⟨left, Entry.left_named _ rest⟩
      · exact ih (Entry.left_rest _ rest) left later

end Link

open Transfer in
/-- No move is ever refused: not while a transfer begins, not in any call on a transfer that calls
have come to, and not in any run of calls on a link. Each is left in the state that was named
last. -/
theorem every_move_is_allowed {σ : Type} (settings : Settings) (peer : Peer σ) (state : σ) :
    (∀ key, Opening ((openStore settings key).run peer state)
      ((beginStore settings key).run peer state)) ∧
    (∀ envelope, Opening ((openRead settings envelope).run peer state)
      ((beginRead settings envelope).run peer state)) ∧
    (∀ transfer, Reached (fun _ _ => True) transfer → transfer.refusals = 0 ∧ ∀ call,
      let transcript := (transfer.perform settings call).run peer state
      Named transfer call transcript.events transcript.value) ∧
    (∀ requests, ∀ entry ∈ Link.fresh.log requests,
      entry.left.refusals = 0 ∧ entry.left.state = entry.named) :=
  ⟨fun key => openStore_opening settings key peer state,
    fun envelope => openRead_opening settings envelope peer state,
    fun _ reached => ⟨reached.clean.unrefused, reached.clean.named settings peer state⟩,
    fun _ _ => Link.log_named ⟨by decide, by decide⟩ rfl⟩

open Transfer in
def stallsAfterTwo : Peer Nat where
  answer _ before :=
    (match before with
      | 0 => .ofBytes [0, 9, 0x90, 0]
      | 1 => .ofBytes [1, 2, 0x61, 7]
      | 2 => .error (.other (text "stalled"))
      | _ => .ofBytes [0x90, 0], before + 1)
  sign _ before := (.ok [], before)

open Transfer in
theorem stalled_read_finalizes :
    let opened : Transfer := ⟨.read, .init, 0, some 9, 0⟩
    let stalled := ((opened.perform {} .continueRead).run stallsAfterTwo 1).value.2
    let last := (stalled.perform {} .finalizeRead).run stallsAfterTwo 3
    (stalled = ⟨.read, .draining, 2, some 9, 0⟩ ∧ last.value.2.phase = .finalized) ∧
      Reached (fun _ _ => True) stalled ∧ Named stalled .finalizeRead last.events last.value ∧
      ∀ entry ∈ Link.fresh.log
          [⟨[], .connect (text "reader") 5000 none⟩, ⟨[], .transmit [1] (some (.reading 0 []))⟩,
            ⟨[], .connect (text "reader") 5000 none⟩],
        entry.left.refusals = 0 ∧ entry.left.state = entry.named := by
  intro opened stalled last
  have begun : ((beginRead {} ⟨⟨text "u", text "a", by decide, by decide⟩, [7]⟩).run
      stallsAfterTwo 0).value = .ok opened := rfl
  have reached : Reached (fun _ _ => True) stalled := .called (.opened begun) trivial .continueRead
  obtain ⟨_, _, calls, links⟩ := every_move_is_allowed {} stallsAfterTwo 3
  exact ⟨⟨rfl, rfl⟩, reached, (calls stalled reached).2 .finalizeRead, links _⟩

end CardVault
