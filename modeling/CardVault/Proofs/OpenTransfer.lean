import CardVault.Session.Call

/-!
Statements about conversations that hold whoever answers. `Ensures` follows a dialogue through all
replies and signatures at once: every frame has to be permitted by what has happened before it is
sent, and every outcome wanted after all that has happened. `ensures_run` carries this over to each
single conversation with a peer.
-/

namespace CardVault

namespace Dialogue

variable {α β σ : Type}

def Ensures (permitted : List Mark → Purpose → Bytes → Prop) (wanted : List Mark → α → Prop) :
    Dialogue α → List Mark → Prop
  | done value, past => wanted past value
  | send purpose frame next, past =>
      permitted past purpose frame ∧ ∀ reply,
        Ensures permitted wanted (next reply) (past ++ [.passed (.sent purpose frame reply)])
  | sign subject next, past => ∀ signature,
      Ensures permitted wanted (next signature) (past ++ [.passed (.signed subject signature)])

variable {permitted : List Mark → Purpose → Bytes → Prop} {past : List Mark}

theorem ensures_bind {middle : List Mark → α → Prop} {wanted : List Mark → β → Prop}
    {dialogue : Dialogue α} {next : α → Dialogue β}
    (first : Ensures permitted middle dialogue past)
    (second : ∀ later value, middle later value → Ensures permitted wanted (next value) later) :
    Ensures permitted wanted (dialogue.bind next) past := by
  induction dialogue generalizing past with
  | done value => exact second past value first
  | send purpose frame rest ih => exact ⟨first.1, fun reply => ih reply (first.2 reply)⟩
  | sign subject rest ih => exact fun signature => ih signature (first signature)

theorem ensures_map {wanted : List Mark → β → Prop} {dialogue : Dialogue α} {change : α → β}
    (ensured : Ensures permitted (fun later value => wanted later (change value)) dialogue past) :
    Ensures permitted wanted (dialogue.map change) past :=
  ensures_bind ensured fun _ _ holds => holds

theorem ensures_weaken {strong weak : List Mark → α → Prop} {dialogue : Dialogue α}
    (ensured : Ensures permitted strong dialogue past)
    (enough : ∀ later value, strong later value → weak later value) :
    Ensures permitted weak dialogue past := by
  induction dialogue generalizing past with
  | done value => exact enough past value ensured
  | send purpose frame rest ih => exact ⟨ensured.1, fun reply => ih reply (ensured.2 reply)⟩
  | sign subject rest ih => exact fun signature => ih signature (ensured signature)

/-- What is ensured holds of every conversation: of its outcome, and of each frame in it, given what
passed before that frame. -/
theorem ensures_run {wanted : List Mark → α → Prop} {dialogue : Dialogue α}
    (ensured : Ensures permitted wanted dialogue past) (peer : Peer σ) (state : σ) :
    let transcript := dialogue.run peer state
    wanted (past ++ transcript.events.map .passed) transcript.value ∧
      ∀ before purpose frame reply after,
        transcript.events = before ++ .sent purpose frame reply :: after →
          permitted (past ++ before.map .passed) purpose frame := by
  induction dialogue generalizing past state with
  | done value => simpa [run, Ensures] using ensured
  | send purpose frame next ih =>
      obtain ⟨allowed, onward⟩ := ensured
      obtain ⟨outcome, frames⟩ :=
        ih (peer.answer frame state).1 (onward _) (peer.answer frame state).2
      constructor
      · simpa [run] using outcome
      · intro before otherPurpose otherFrame reply after split
        cases before with
        | nil =>
            simp only [run, List.nil_append, List.cons.injEq, Event.sent.injEq] at split
            obtain ⟨⟨rfl, rfl, rfl⟩, rfl⟩ := split
            simpa using allowed
        | cons event before =>
            simp only [run, List.cons_append, List.cons.injEq] at split
            obtain ⟨rfl, split⟩ := split
            simpa using frames before otherPurpose otherFrame reply after split
  | sign subject next ih =>
      obtain ⟨outcome, frames⟩ :=
        ih (peer.sign subject state).1 (ensured _) (peer.sign subject state).2
      constructor
      · simpa [run] using outcome
      · intro before purpose frame reply after split
        cases before with
        | nil => simp [run] at split
        | cons event before =>
            simp only [run, List.cons_append, List.cons.injEq] at split
            obtain ⟨rfl, split⟩ := split
            simpa using frames before purpose frame reply after split

theorem ensures_exchange {wanted : List Mark → Except Fault Response → Prop} (purpose : Purpose)
    (command : Command)
    (allowed : ∀ frame, command.encode = .ok frame → permitted past purpose frame)
    (unsent : ∀ error, command.encode = .error error → wanted past (.error (.protocol error)))
    (answered : ∀ frame reply, command.encode = .ok frame →
      wanted (past ++ [.passed (.sent purpose frame reply)]) (received reply)) :
    Ensures permitted wanted (exchangeFor purpose command) past := by
  unfold exchangeFor
  split
  · rename_i frame encoded
    exact ⟨allowed frame encoded, fun reply => answered frame reply encoded⟩
  · rename_i error refused
    exact unsent error refused

end Dialogue

/-!
The open transfer of a session and its history. A transfer that is under way accounts for everything
since its INIT: its phase, its total, its counter and what the session has collected follow from the
answers that came. One that a peer has cut short with a complaint about the order of calls is stuck:
it stays with the session, but nothing is sent for it any more. Every call of a session keeps this
account, and sends the later frames of a transfer only while it is under way.
-/

section

open Dialogue

/-- The latest INIT in a history opened a transfer and told its total. -/
structure Origin (direction : Direction) (history : List Mark) (transfer : Transfer)
    (reply : Reply) (since : List Mark) : Prop where
  side : transfer.direction = direction
  latest : ∃ older frame,
    history = older ++ .passed (.sent (.init direction) frame reply) :: since
  opens : reply.Opens direction
  total : transfer.total = reply.total? direction

/-- The counter of a transfer agrees with the pieces that have moved. That of a read does not wrap,
for a read stops at a total of two bytes and no answer fills the range of the counter. -/
structure Counted (direction : Direction) (transfer : Transfer) (pieces : List Bytes) : Prop where
  moved : transfer.moved = UInt64.ofNat pieces.flatten.length
  unwrapped : direction = .read → pieces.flatten.length < UInt64.size

/-- The account of a transfer that can go on. -/
structure Underway (direction : Direction) (history : List Mark) (transfer : Transfer)
    (pieces : List Bytes) : Prop where
  counted : Counted direction transfer pieces
  origin : ∃ reply since, Origin direction history transfer reply since ∧
    (∀ mark ∈ since, ¬ mark.Closes direction) ∧ movedIn direction since = pieces
  phase : transfer.phase = if pieces = [] then .init else Phase.moving direction

def Mark.Complains (direction : Direction) (mark : Mark) : Prop :=
  ∃ step frame error,
    mark = .passed (.sent (.later direction step) frame (.error (.protocol error))) ∧
      error.kind.isOutOfTurn = true

/-- The account of a transfer that has ended in the middle and was not dropped. -/
structure Stuck (direction : Direction) (history : List Mark) (transfer : Transfer)
    (pieces : List Bytes) : Prop where
  counted : Counted direction transfer pieces
  origin : ∃ reply since, Origin direction history transfer reply since ∧
    (∀ mark ∈ since, ¬ mark.IsInit) ∧ movedIn direction since = pieces ∧
      ∃ mark ∈ since, mark.Complains direction
  phase : transfer.phase = .aborted

def gathered : Direction → List Bytes → Bytes
  | .store, _ => []
  | .read, pieces => pieces.flatten

/-- The open transfer and the collected bytes of a session accord with its history. -/
def Accords (history : List Mark) (active : Option Transfer) (collected : Bytes) : Prop :=
  match active with
  | none => collected = []
  | some transfer =>
      (∃ direction pieces, Underway direction history transfer pieces ∧
        collected = gathered direction pieces) ∨
      ∃ direction pieces, Stuck direction history transfer pieces

def mayBeSent (history : List Mark) (purpose : Purpose) (_frame : Bytes) : Prop :=
  ∀ direction step, purpose = .later direction step → OpenAfter history direction

theorem called_not_init (call : Call) : ¬ (Mark.called call).IsInit := by
  rintro ⟨direction, frame, reply, same⟩
  cases same

theorem later_not_init (direction : Direction) (step : LaterStep) (frame : Bytes) (reply : Reply) :
    ¬ (Mark.passed (.sent (.later direction step) frame reply)).IsInit := by
  rintro ⟨other, otherFrame, otherReply, same⟩
  cases same

theorem not_init_of_not_closes {direction : Direction} {mark : Mark}
    (harmless : ¬ mark.Closes direction) : ¬ mark.IsInit := by
  rintro ⟨other, frame, reply, rfl⟩
  exact harmless (Or.inl (by simp))

theorem forall_snoc {holds : Mark → Prop} {marks : List Mark} {mark : Mark}
    (before : ∀ other ∈ marks, holds other) (now : holds mark) :
    ∀ other ∈ marks ++ [mark], holds other :=
  List.forall_mem_append.mpr ⟨before, List.forall_mem_singleton.mpr now⟩

theorem movedIn_append (direction : Direction) (first second : List Mark) :
    movedIn direction (first ++ second) = movedIn direction first ++ movedIn direction second := by
  simp [movedIn]

variable {direction : Direction} {history past : List Mark} {transfer : Transfer}
  {reply : Reply} {since : List Mark} {pieces : List Bytes}

theorem Origin.append (origin : Origin direction history transfer reply since)
    (marks : List Mark) :
    Origin direction (history ++ marks) transfer reply (since ++ marks) := by
  obtain ⟨older, frame, split⟩ := origin.latest
  exact ⟨origin.side, ⟨older, frame, by simp [split]⟩, origin.opens, origin.total⟩

theorem Origin.changed {after : Transfer} (origin : Origin direction history transfer reply since)
    (side : after.direction = transfer.direction) (total : after.total = transfer.total) :
    Origin direction history after reply since :=
  ⟨side.trans origin.side, origin.latest, origin.opens, total.trans origin.total⟩

theorem Underway.side (account : Underway direction history transfer pieces) :
    transfer.direction = direction := by
  obtain ⟨reply, since, origin, _⟩ := account.origin
  exact origin.side

theorem Underway.openAfter (account : Underway direction history transfer pieces) :
    OpenAfter history direction := by
  obtain ⟨reply, since, origin, harmless, _⟩ := account.origin
  obtain ⟨older, frame, split⟩ := origin.latest
  exact ⟨older, frame, reply, since, split, origin.opens, harmless⟩

theorem Underway.mayBeSent (account : Underway direction history transfer pieces)
    (step : LaterStep) (frame : Bytes) :
    mayBeSent history (.later direction step) frame := by
  intro other otherStep same
  obtain ⟨rfl, _⟩ := Purpose.later.inj same
  exact account.openAfter

theorem Underway.accepts (account : Underway direction history transfer pieces)
    (asked : Direction) : transfer.accepts asked = (direction == asked) := by
  have active : transfer.phase.isActive = true := by
    rw [account.phase]
    split
    · rfl
    · cases direction <;> rfl
  simp [Transfer.accepts, account.side, active]

theorem Underway.allows (account : Underway direction history transfer pieces) {target : Phase}
    (onward : target = Phase.moving direction ∨ target = .aborted) :
    transfer.allows target = true := by
  unfold Transfer.allows
  rw [account.phase, account.side]
  rcases onward with rfl | rfl
  · split <;> cases direction <;> rfl
  · split <;> cases direction <;> rfl

theorem Stuck.accepts (account : Stuck direction history transfer pieces) (asked : Direction) :
    transfer.accepts asked = false := by
  simp [Transfer.accepts, account.phase, Phase.isActive]

theorem underway_opened {frame : Bytes} (side : transfer.direction = direction)
    (opens : reply.Opens direction)
    (total : transfer.total = reply.total? direction)
    (phase : transfer.phase = .init) (moved : transfer.moved = 0) :
    Underway direction (past ++ [.passed (.sent (.init direction) frame reply)]) transfer [] where
  counted := ⟨by simpa using moved, fun _ => by decide⟩
  origin := ⟨reply, [], ⟨side, ⟨past, frame, rfl⟩, opens, total⟩, by simp, rfl⟩
  phase := by simpa using phase

theorem movedIn_called (direction : Direction) (marks : List Mark) (call : Call) :
    movedIn direction (marks ++ [.called call]) = movedIn direction marks := by
  simp [movedIn, Mark.event?]

theorem Underway.called (account : Underway direction history transfer pieces) {call : Call}
    (harmless : ¬ (call = .abort ∨ call = .reset)) :
    Underway direction (history ++ [.called call]) transfer pieces := by
  obtain ⟨reply, since, origin, undisturbed, moved⟩ := account.origin
  refine ⟨account.counted, ⟨reply, since ++ [.called call], origin.append _, ?_, ?_⟩,
    account.phase⟩
  · exact forall_snoc undisturbed harmless
  · rw [movedIn_called, moved]

theorem Stuck.called (account : Stuck direction history transfer pieces) (call : Call) :
    Stuck direction (history ++ [.called call]) transfer pieces := by
  obtain ⟨reply, since, origin, noInit, moved, mark, member, complains⟩ := account.origin
  refine ⟨account.counted, ⟨reply, since ++ [.called call], origin.append _, ?_, ?_, mark, ?_,
    complains⟩, account.phase⟩
  · exact forall_snoc noInit (called_not_init call)
  · rw [movedIn_called, moved]
  · exact List.mem_append_left _ member

theorem Accords.called {active : Option Transfer} {collected : Bytes}
    (accords : Accords history active collected) {call : Call}
    (harmless : ¬ (call = .abort ∨ call = .reset)) :
    Accords (history ++ [.called call]) active collected := by
  cases active with
  | none => exact accords
  | some transfer =>
      rcases accords with ⟨direction, pieces, account, kept⟩ | ⟨direction, pieces, account⟩
      · exact Or.inl ⟨direction, pieces, account.called harmless, kept⟩
      · exact Or.inr ⟨direction, pieces, account.called call⟩

theorem Underway.advance (account : Underway direction history transfer pieces)
    {frame piece : Bytes} (succeeds : ¬ reply.Fails direction)
    (moves : Event.moved? direction (.sent (.later direction .advance) frame reply) = some piece)
    (fits : direction = .read → (pieces ++ [piece]).flatten.length < UInt64.size) :
    Underway direction (history ++ [.passed (.sent (.later direction .advance) frame reply)])
      ((transfer.enter (Phase.moving direction)).count piece.length) (pieces ++ [piece]) := by
  obtain ⟨opening, since, origin, undisturbed, moved⟩ := account.origin
  refine ⟨⟨?_, fits⟩, ⟨opening, _, (origin.append _).changed (by simp) (by simp), ?_, ?_⟩, ?_⟩
  · simp [account.counted.moved, UInt64.ofNat_add]
  · exact forall_snoc undisturbed (by simpa [Mark.Closes] using succeeds)
  · rw [movedIn_append, moved]
    simp [movedIn, Mark.event?, moves]
  · simp [Transfer.enter_phase (account.allows (Or.inl rfl))]

end

/-!
The steps of a chunked transfer keep its account. A step that fails leaves the transfer stuck if the
failure is a complaint about the order of calls; after any other failure the session drops the
transfer, so nothing needs to be said about it.
-/

namespace Transfer

open Dialogue

variable {direction : Direction} {past : List Mark} {transfer : Transfer} {pieces : List Bytes}

theorem received_outOfTurn {reply : Reply} {fault : Fault}
    (failed : received reply = .error fault) (outOfTurn : fault.failure.kind.isOutOfTurn = true) :
    ∃ error, reply = .error (.protocol error) ∧ error.kind.isOutOfTurn = true := by
  rcases reply with raised | answer
  · cases raised with
    | protocol error =>
        cases failed
        exact ⟨error, rfl, outOfTurn⟩
    | link wording =>
        cases failed
        contradiction
    | crypto origin wording =>
        cases failed
        contradiction
    | other wording =>
        cases failed
        contradiction
  · cases decoded : Response.decode answer.raw with
    | ok response =>
        rw [received_decoded decoded] at failed
        cases failed
    | error error =>
        rw [received_undecoded decoded] at failed
        cases failed
        rw [((Response.decode_eq_error_iff _ _).mp decoded).2] at outOfTurn
        contradiction

theorem stuck_of_complaint (account : Underway direction past transfer pieces) {step : LaterStep}
    {frame : Bytes} {error : ProtocolError} (outOfTurn : error.kind.isOutOfTurn = true) :
    Stuck direction
      (past ++ [.passed (.sent (.later direction step) frame (.error (.protocol error)))])
      (transfer.enter .aborted) pieces := by
  obtain ⟨opening, since, origin, undisturbed, moved⟩ := account.origin
  refine ⟨⟨?_, account.counted.unwrapped⟩, ⟨opening, _,
    (origin.append _).changed (by simp) (by simp), ?_, ?_, ?_⟩,
    enter_phase (account.allows (Or.inr rfl))⟩
  · simpa using account.counted.moved
  · have noInit : ∀ mark ∈ since, ¬ mark.IsInit := fun mark member =>
      not_init_of_not_closes (undisturbed mark member)
    exact forall_snoc noInit (later_not_init _ _ _ _)
  · -- A fault moves nothing, whichever step it interrupts.
    rw [movedIn_append, moved]
    cases direction <;> cases step <;>
      simp [movedIn, Mark.event?, Event.moved?, Reply.status?, Reply.response?, received,
        Except.toOption]
  · exact ⟨_, List.mem_append_right _ (List.mem_singleton_self _), step, _, error, rfl, outOfTurn⟩

def Breaks (direction : Direction) (later : List Mark) (fault : Fault) (after : Transfer) : Prop :=
  fault.failure.kind.isOutOfTurn = true → ∃ pieces, Stuck direction later after pieces

theorem exchangeIn_ensures {β : Type} {wanted : List Mark → β → Prop}
    {next : Except Fault Response × Transfer → Dialogue β}
    (account : Underway direction past transfer pieces) (step : LaterStep) (command : Command)
    (answered : ∀ frame reply response, command.encode = .ok frame →
      reply.response? = some response →
        Ensures mayBeSent wanted (next (.ok response, transfer))
          (past ++ [.passed (.sent (.later direction step) frame reply)]))
    (failed : ∀ later fault after, Breaks direction later fault after →
      Ensures mayBeSent wanted (next (.error fault, after)) later) :
    Ensures mayBeSent wanted ((exchangeIn transfer (.later direction step) command).bind next)
      past := by
  refine ensures_bind (ensures_map (ensures_exchange _ _ ?_ ?_ ?_)) fun _ _ onward => onward
  · exact fun frame _ => account.mayBeSent step frame
  · intro error refused
    apply failed
    intro outOfTurn
    rw [((Command.encode_eq_error_iff _ _).mp refused).2] at outOfTurn
    contradiction
  · intro frame reply encoded
    cases outcome : received reply with
    | ok response =>
        exact answered frame reply response encoded ((Reply.received_eq_ok_iff _ _).mp outcome)
    | error fault =>
        cases fault with
        | protocol error =>
            apply failed
            intro outOfTurn
            obtain ⟨raised, rfl, _⟩ := received_outOfTurn outcome outOfTurn
            cases outcome
            exact ⟨pieces, stuck_of_complaint account outOfTurn⟩
        | link wording => exact failed _ _ _ fun outOfTurn => by contradiction
        | crypto origin wording => exact failed _ _ _ fun outOfTurn => by contradiction
        | other wording => exact failed _ _ _ fun outOfTurn => by contradiction

/-- What a later step leaves behind: what is wanted after a success, and a transfer that may be kept
after a failure that keeps it. -/
def Leaves {α : Type} (direction : Direction) (wanted : List Mark → α → Transfer → Prop)
    (later : List Mark) : Except Fault α × Transfer → Prop
  | (.ok value, after) => wanted later value after
  | (.error fault, after) => Breaks direction later fault after

variable (settings : Settings)

theorem beginStore_ensures (key : RecordKey) :
    Ensures mayBeSent (fun later outcome => ∀ transfer, outcome = .ok transfer →
      Underway .store later transfer []) (beginStore settings key) past := by
  apply ensures_map
  apply ensures_exchange
  · intro frame _ direction step same
    cases same
  · intro error _ transfer opened
    cases opened
  · intro frame reply _ transfer opened
    cases outcome : received reply with
    | error fault => simp [outcome] at opened
    | ok response =>
        rw [outcome] at opened
        split at opened
        · cases opened
        · rename_i given
          cases given
          have answer := (Reply.received_eq_ok_iff _ _).mp outcome
          split at opened
          · rename_i success
            cases opened
            have accepted := (StatusWord.isSuccess_iff_eq _).mp success
            exact underway_opened (by simp [fresh])
              ⟨response, answer, accepted, fun otherwise => by cases otherwise⟩
              (by simp [fresh, Reply.total?]) rfl (by simp [fresh])
          · cases opened

theorem pushAll_ensures (chunks : List Bytes) (account : Underway .store past transfer pieces) :
    Ensures mayBeSent
      (Leaves .store fun later _ after => ∃ pieces, Underway .store later after pieces)
      (pushAll settings chunks transfer) past := by
  induction chunks generalizing past transfer pieces with
  | nil => exact ⟨pieces, account⟩
  | cons chunk rest ih =>
      apply exchangeIn_ensures account
      · intro frame reply response encoded answer
        by_cases success : response.status.isSuccess = true
        · have accepted := (StatusWord.isSuccess_iff_eq _).mp success
          obtain ⟨fits, rfl⟩ := (Command.encode_eq_ok_iff _ _).mp encoded
          simp only [success, ↓reduceIte]
          apply ih
          apply account.advance
          · simp [Reply.Fails, answer, accepted]
          · simp [Event.moved?, Reply.status?, answer, accepted, Command.payload_frame _ fits]
            rfl
          · intro otherwise
            cases otherwise
        · simp only [success]
          intro outOfTurn
          contradiction
      · intro later fault after breaks
        exact breaks

theorem announced_total {data : Bytes} {total : UInt16}
    (announced : Word.read data 0 = .ok (some total)) : Word.at? data 0 = some total := by
  unfold Word.read at announced
  split at announced
  · cases announced
  · simpa using announced

theorem finalizeStore_ensures (account : Underway .store past transfer pieces) :
    Ensures mayBeSent (Leaves .store fun _ _ _ => True) (finalizeStore settings transfer) past := by
  have open_ : transfer.accepts .store = true := by rw [account.accepts]; rfl
  simp only [finalizeStore, open_, ↓reduceIte]
  apply exchangeIn_ensures account
  · intro frame reply response _ _
    by_cases success : response.status.isSuccess = true
    · simp [success, Ensures, Leaves]
    · simp only [success]
      intro outOfTurn
      contradiction
  · intro later fault after breaks
    exact breaks

theorem beginRead_ensures (envelope : Envelope) :
    Ensures mayBeSent (fun later outcome => ∀ transfer, outcome = .ok transfer →
      Underway .read later transfer []) (beginRead settings envelope) past := by
  unfold beginRead
  split
  · intro transfer opened
    cases opened
  apply ensures_map
  apply ensures_exchange
  · intro frame _ direction step same
    cases same
  · intro error _ transfer opened
    cases opened
  · intro frame reply _ transfer opened
    cases outcome : received reply with
    | error fault => simp [outcome] at opened
    | ok response =>
        have answer := (Reply.received_eq_ok_iff _ _).mp outcome
        simp only [outcome] at opened
        split at opened
        · rename_i success
          have accepted := (StatusWord.isSuccess_iff_eq _).mp success
          split at opened
          · rename_i total announced
            cases opened
            have told := announced_total announced
            have enough := (Word.at?_isSome response.data 0).mp (by simp [told])
            exact underway_opened (by simp [announce, fresh])
              ⟨response, answer, accepted, fun _ => by omega⟩
              (by simp [announce, Reply.total?, answer, told]) rfl (by simp [announce, fresh])
          · cases opened
        · cases opened

theorem underway_total_lt (account : Underway .read past transfer pieces) :
    (transfer.total.getD 0).toNat < 65536 := by
  obtain ⟨reply, since, origin, _⟩ := account.origin
  rw [origin.total, Reply.total?]
  cases reply.response? with
  | none => simp
  | some response =>
      cases told : Word.at? response.data 0 with
      | none => simp [told]
      | some total =>
          simpa [told] using total.toNat_lt

theorem underway_room (account : Underway .read past transfer pieces) {reply : Reply}
    {response : Response} (answer : reply.response? = some response)
    (short : transfer.moved < transfer.total.getD 0) :
    (pieces ++ [response.data]).flatten.length < UInt64.size := by
  have below := underway_total_lt account
  have size := account.counted.unwrapped rfl
  have bound := Reply.data_addressable answer
  rw [UInt64.lt_iff_toNat_lt, account.counted.moved, UInt64.toNat_ofNat',
    Nat.mod_eq_of_lt size] at short
  simp only [List.flatten_append, List.length_append, List.flatten_cons, List.flatten_nil,
    List.append_nil, UInt64.size]
  omega

theorem pullAll_ensures (rounds : Nat) (account : Underway .read past transfer pieces)
    (before : Bytes) (chunks : List Bytes)
    (kept : pieces.flatten = before ++ chunks.reverse.flatten) :
    Ensures mayBeSent
      (Leaves .read fun later bytes after =>
        ∃ pieces, Underway .read later after pieces ∧ pieces.flatten = before ++ bytes)
      (pullAll settings rounds transfer chunks) past := by
  induction rounds generalizing past transfer pieces chunks with
  | zero => exact ⟨pieces, account, kept⟩
  | succ rounds ih =>
      unfold pullAll
      by_cases short : transfer.moved < transfer.total.getD 0
      · simp only [short, ↓reduceIte]
        apply exchangeIn_ensures account
        · intro frame reply response _ answer
          have room := underway_room account answer short
          have grown : ¬ reply.Fails .read →
              Underway .read (past ++ [.passed (.sent (.later .read .advance) frame reply)])
                ((transfer.enter .draining).count response.data.length)
                (pieces ++ [response.data]) := fun succeeds =>
            account.advance succeeds (by simp [Event.moved?, answer]) fun _ => room
          have longer : (pieces ++ [response.data]).flatten =
              before ++ (response.data :: chunks).reverse.flatten := by
            simp [kept]
          dsimp only
          split
          · rename_i kind
            exact ⟨_, grown (by simp [Reply.Fails, answer, kind]), longer⟩
          · rename_i kind
            split
            · intro outOfTurn
              contradiction
            · rename_i filled
              exact ih (grown (by simp [Reply.Fails, answer, kind, filled])) _ longer
          · intro outOfTurn
            contradiction
        · intro later fault after breaks
          exact breaks
      · simp only [short]
        exact ⟨pieces, account, kept⟩

theorem finalizeRead_ensures (account : Underway .read past transfer pieces) :
    Ensures mayBeSent (Leaves .read fun _ _ _ => True) (finalizeRead settings transfer) past := by
  have open_ : transfer.accepts .read = true := by rw [account.accepts]; rfl
  simp only [finalizeRead, open_, ↓reduceIte]
  apply exchangeIn_ensures account
  · intro frame reply response _ _
    trivial
  · intro later fault after breaks
    exact breaks

end Transfer

end CardVault
