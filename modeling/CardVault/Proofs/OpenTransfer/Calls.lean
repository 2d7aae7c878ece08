import CardVault.Proofs.OpenTransfer

/-!
Every call of a session keeps its open transfer in accord with the history, whatever the card and
the signer do.
-/

namespace CardVault

namespace Session

open Dialogue

variable {α β σ : Type} {past later : List Mark} {session : Session}

def Kept (later : List Mark) (result : α × Session) : Prop :=
  Accords later result.2.active result.2.collected

/-- What a body has to leave so that settling it leaves a session in accord. -/
def Settles (later : List Mark) : Except Fault α × Session → Prop
  | (.ok _, session) => Accords later session.active session.collected
  | (.error fault, session) => fault.failure.kind.isOutOfTurn = true →
      Accords later session.active session.collected

theorem after_accords (kind : ErrorKind)
    (accords : kind.isOutOfTurn = true → Accords later session.active session.collected) :
    Accords later (session.after kind).active (session.after kind).collected := by
  unfold after
  split
  · rfl
  split
  · rename_i outOfTurn
    exact accords outOfTurn
  · rfl

theorem settle_kept {result : Except Fault α × Session} (settles : Settles later result) :
    Kept later (settle result) := by
  obtain ⟨outcome, session⟩ := result
  cases outcome with
  | ok value => exact settles
  | error fault => exact after_accords _ settles

theorem whenFree_ensures {body : Dialogue (Except Fault α × Session)}
    (accords : Accords past session.active session.collected)
    (onward : session.active = none → session.collected = [] →
      Ensures mayBeSent Settles body past) :
    Ensures mayBeSent Kept (session.whenFree body) past := by
  unfold whenFree
  split
  · split
    · exact accords
    · rename_i idle
      have free : session.active = none := by simpa using idle
      have empty : session.collected = [] := by simpa [Accords, free] using accords
      exact ensures_map (ensures_weaken (onward free empty) fun _ _ => settle_kept)
  · exact accords

theorem whenActive_ensures {body : Transfer → Dialogue (Except Fault α × Session)}
    (asked : Direction) (accords : Accords past session.active session.collected)
    (onward : ∀ transfer pieces, Underway asked past transfer pieces →
      session.collected = gathered asked pieces → Ensures mayBeSent Settles (body transfer) past)
    (refused : ∀ transfer, transfer.accepts asked = false →
      Accords past (some transfer) session.collected →
        Ensures mayBeSent Settles (body transfer) past) :
    Ensures mayBeSent Kept (session.whenActive body) past := by
  unfold whenActive
  split
  · split
    · rename_i transfer active
      rw [active] at accords
      apply ensures_map
      refine ensures_weaken ?_ fun _ _ => settle_kept
      rcases accords with ⟨direction, pieces, account, collected⟩ | ⟨direction, pieces, account⟩
      · by_cases same : direction = asked
        · subst same
          exact onward transfer pieces account collected
        · apply refused transfer
          · simp [account.accepts, same]
          · exact Or.inl ⟨direction, pieces, account, collected⟩
      · exact refused transfer (account.accepts asked) (Or.inr ⟨direction, pieces, account⟩)
    · exact accords
  · exact accords

theorem andThen_ensures {first : Dialogue (Outcome α × Session)}
    {next : α → Session → Dialogue (Outcome β × Session)}
    (begun : Ensures mayBeSent Kept first past)
    (onward : ∀ later value session, Accords later session.active session.collected →
      Ensures mayBeSent Kept (next value session) later) :
    Ensures mayBeSent Kept (andThen first next) past := by
  apply ensures_bind begun
  intro later result kept
  obtain ⟨outcome, session⟩ := result
  cases outcome with
  | ok value => exact onward later value session kept
  | error failure => exact kept

theorem beginStore_kept (accords : Accords past session.active session.collected)
    (key : RecordKey) : Ensures mayBeSent Kept (session.beginStore key) past := by
  apply whenFree_ensures accords
  intro free empty
  apply ensures_map
  apply ensures_weaken (Transfer.beginStore_ensures session.settings key)
  intro later outcome opened
  cases outcome with
  | ok transfer => exact Or.inl ⟨.store, [], opened transfer rfl, empty⟩
  | error fault =>
      intro _
      simpa [opened, Accords, free] using empty

theorem continueStore_kept (accords : Accords past session.active session.collected)
    (payload : Bytes) : Ensures mayBeSent Kept (session.continueStore payload) past := by
  apply whenActive_ensures .store accords
  · intro transfer pieces account collected
    have open_ : transfer.accepts .store = true := by rw [account.accepts]; rfl
    apply ensures_map
    simp only [Transfer.continueStore, open_, ↓reduceIte]
    apply ensures_weaken (Transfer.pushAll_ensures session.settings _ account)
    intro later result leaves
    obtain ⟨outcome, after⟩ := result
    cases outcome with
    | ok value =>
        obtain ⟨more, grown⟩ := leaves
        exact Or.inl ⟨.store, more, grown, collected⟩
    | error fault => exact fun outOfTurn => Or.inr ⟨.store, leaves outOfTurn⟩
  · intro transfer closed kept
    simp only [Transfer.continueStore, closed]
    exact fun _ => kept

theorem finalizeStore_kept (accords : Accords past session.active session.collected) :
    Ensures mayBeSent Kept session.finalizeStore past := by
  apply whenActive_ensures .store accords
  · intro transfer pieces account collected
    apply ensures_map
    apply ensures_weaken (Transfer.finalizeStore_ensures session.settings account)
    intro later result leaves
    obtain ⟨outcome, after⟩ := result
    cases outcome with
    | ok value => exact collected
    | error fault => exact fun outOfTurn => Or.inr ⟨.store, leaves outOfTurn⟩
  · intro transfer closed kept
    simp only [Transfer.finalizeStore, closed]
    exact fun _ => kept

theorem sign_ensures (authorizer : Authorizer) (canonical : Bytes) :
    Ensures mayBeSent (fun _ _ => True) (authorizer.sign canonical) past := by
  unfold Authorizer.sign
  split
  · exact fun _ => trivial
  · trivial

theorem authorize_ensures (authorizer : Authorizer) (key : RecordKey) :
    Ensures mayBeSent (fun _ _ => True) (authorizer.authorize key) past :=
  ensures_map (sign_ensures authorizer key.canonical)

theorem beginRead_kept (accords : Accords past session.active session.collected)
    (key : RecordKey) : Ensures mayBeSent Kept (session.beginRead key) past := by
  apply whenFree_ensures accords
  intro free empty
  apply ensures_bind (authorize_ensures _ _)
  intro later authorized _
  cases authorized with
  | error fault =>
      intro _
      simpa [Accords, free] using empty
  | ok envelope =>
      apply ensures_map
      apply ensures_weaken (Transfer.beginRead_ensures session.settings envelope)
      intro later outcome opened
      cases outcome with
      | ok transfer => exact Or.inl ⟨.read, [], opened transfer rfl, rfl⟩
      | error fault =>
          intro _
          simpa [Accords, free] using empty

theorem continueRead_kept (accords : Accords past session.active session.collected) :
    Ensures mayBeSent Kept session.continueRead past := by
  apply whenActive_ensures .read accords
  · intro transfer pieces account collected
    have open_ : transfer.accepts .read = true := by rw [account.accepts]; rfl
    apply ensures_map
    simp only [Transfer.continueRead, open_, ↓reduceIte]
    split
    · have kept : pieces.flatten = session.collected ++ ([] : List Bytes).reverse.flatten := by
        simp [collected, gathered]
      apply ensures_weaken
        (Transfer.pullAll_ensures session.settings _ account session.collected [] kept)
      intro later result leaves
      obtain ⟨outcome, after⟩ := result
      cases outcome with
      | ok chunk =>
          obtain ⟨more, grown, longer⟩ := leaves
          exact Or.inl ⟨.read, more, grown, longer.symm⟩
      | error fault => exact fun outOfTurn => Or.inr ⟨.read, leaves outOfTurn⟩
    · exact fun _ => Or.inl ⟨.read, pieces, account, collected⟩
  · intro transfer closed kept
    simp only [Transfer.continueRead, closed]
    exact fun _ => kept

theorem finalizeRead_kept (accords : Accords past session.active session.collected) :
    Ensures mayBeSent Kept session.finalizeRead past := by
  apply whenActive_ensures .read accords
  · intro transfer pieces account collected
    apply ensures_map
    apply ensures_weaken (Transfer.finalizeRead_ensures session.settings account)
    intro later result leaves
    obtain ⟨outcome, after⟩ := result
    cases outcome with
    | ok value => rfl
    | error fault => exact fun outOfTurn => Or.inr ⟨.read, leaves outOfTurn⟩
  · intro transfer closed kept
    simp only [Transfer.finalizeRead, closed]
    exact fun _ => kept

theorem store_kept (accords : Accords past session.active session.collected) (key : RecordKey)
    (payload : Bytes) : Ensures mayBeSent Kept (session.store key payload) past :=
  andThen_ensures (beginStore_kept accords key) fun _ _ _ begun =>
    andThen_ensures (continueStore_kept begun payload) fun _ _ _ moved => finalizeStore_kept moved

theorem read_kept (accords : Accords past session.active session.collected) (key : RecordKey) :
    Ensures mayBeSent Kept (session.read key) past :=
  andThen_ensures (beginRead_kept accords key) fun _ _ _ begun =>
    andThen_ensures (continueRead_kept begun) fun _ _ _ moved => finalizeRead_kept moved

theorem fixedRequest_ensures (settings : Settings) (operation : FixedOperation) (data : Bytes) :
    Ensures mayBeSent (fun _ _ => True) (FixedRecord.request settings operation data) past := by
  apply ensures_map
  apply ensures_exchange
  · intro frame _ direction step same
    cases same
  · exact fun _ _ => trivial
  · exact fun _ _ _ => trivial

theorem signedName_ensures (settings : Settings) (authorizer : Authorizer)
    (username address : Text) :
    Ensures mayBeSent (fun _ _ => True)
      (FixedRecord.signedName settings authorizer username address) past := by
  unfold FixedRecord.signedName
  split
  · trivial
  · exact ensures_map (sign_ensures authorizer _)

theorem signedRequest_ensures (settings : Settings) (authorizer : Authorizer)
    (username address : Text) (operation : FixedOperation)
    (change : Except Fault Response → Except Fault α) :
    Ensures mayBeSent (fun _ _ => True)
      (FixedRecord.signedRequest settings authorizer username address operation change) past := by
  apply ensures_bind (signedName_ensures _ _ _ _)
  intro later named _
  cases named with
  | error fault => trivial
  | ok data => exact ensures_map (fixedRequest_ensures _ _ _)

theorem free_ensures {dialogue : Dialogue (Except Fault α)} (free : session.active = none)
    (empty : session.collected = [])
    (harmless : Ensures mayBeSent (fun _ _ => True) dialogue past) :
    Ensures mayBeSent Settles (dialogue.map (·, session)) past := by
  apply ensures_map
  apply ensures_weaken harmless
  intro later outcome _
  have accords : Accords later session.active session.collected := by
    simpa [Accords, free] using empty
  cases outcome with
  | ok value => exact accords
  | error fault => exact fun _ => accords

theorem storeFixed_kept (accords : Accords past session.active session.collected)
    (username address : Text) (message : Bytes) :
    Ensures mayBeSent Kept (session.storeFixed username address message) past := by
  apply whenFree_ensures accords
  intro free empty
  apply free_ensures free empty
  unfold FixedRecord.store
  split
  · trivial
  · exact ensures_map (fixedRequest_ensures _ _ _)

theorem readFixed_kept (accords : Accords past session.active session.collected)
    (username address : Text) :
    Ensures mayBeSent Kept (session.readFixed username address) past := by
  apply whenFree_ensures accords
  intro free empty
  exact free_ensures free empty (signedRequest_ensures _ _ _ _ _ _)

theorem deleteFixed_kept (accords : Accords past session.active session.collected)
    (username address : Text) :
    Ensures mayBeSent Kept (session.deleteFixed username address) past := by
  apply whenFree_ensures accords
  intro free empty
  exact free_ensures free empty (signedRequest_ensures _ _ _ _ _ _)

theorem shown_kept {payload : α → Option Bytes} {dialogue : Dialogue (Outcome α × Session)}
    (kept : Ensures mayBeSent Kept dialogue past) :
    Ensures mayBeSent Kept (shown payload dialogue) past :=
  ensures_map (ensures_weaken kept fun _ _ accords => accords)

/-- One step of a run: a call keeps the session in accord with the history, of which the call itself
is part, and sends later frames only for a transfer that is open. -/
theorem perform_kept (accords : Accords past session.active session.collected) (call : Call) :
    Ensures mayBeSent Kept (session.perform call) (past ++ [.called call]) := by
  by_cases clears : call = .abort ∨ call = .reset
  · rcases clears with rfl | rfl
    · rfl
    · rfl
  have still := accords.called clears
  cases call with
  | beginStore key => exact shown_kept (beginStore_kept still key)
  | continueStore payload => exact shown_kept (continueStore_kept still payload)
  | finalizeStore => exact shown_kept (finalizeStore_kept still)
  | beginRead key => exact shown_kept (beginRead_kept still key)
  | continueRead => exact shown_kept (continueRead_kept still)
  | finalizeRead => exact shown_kept (finalizeRead_kept still)
  | store key payload => exact shown_kept (store_kept still key payload)
  | read key => exact shown_kept (read_kept still key)
  | storeFixed username address message =>
      exact shown_kept (storeFixed_kept still username address message)
  | readFixed username address => exact shown_kept (readFixed_kept still username address)
  | deleteFixed username address => exact shown_kept (deleteFixed_kept still username address)
  | abort => simp at clears
  | reset => simp at clears

end Session

/-!
Runs of calls. Whatever the card and the signer do, the open transfer of a session accords with all
that has happened since the session was created, and later frames of a transfer go out only while it
is open.
-/

namespace Session

open Dialogue

variable {σ : Type} {past : List Mark} {session : Session} {settings : Settings} {hasSigner : Bool}

theorem create_accords (created : create settings hasSigner = .ok session) :
    Accords [] session.active session.collected := by
  unfold create at created
  split at created
  · cases created
    rfl
  · cases created

theorem history_accords (peer : Peer σ) (state : σ) (calls : List Call)
    (accords : Accords past session.active session.collected) :
    Accords (past ++ session.history peer state calls)
      (session.afterCalls peer state calls).active
      (session.afterCalls peer state calls).collected := by
  induction calls generalizing past session state with
  | nil => simpa [history, afterCalls, performAll, Dialogue.run] using accords
  | cons call calls ih =>
      obtain ⟨kept, _⟩ := ensures_run (perform_kept accords call) peer state
      rw [afterCalls_cons]
      simpa [history] using ih (session.perform call |>.run peer state).peer kept

theorem history_openAfter (peer : Peer σ) (state : σ) (calls : List Call)
    (accords : Accords past session.active session.collected)
    {before after : List Mark} {direction : Direction} {step : LaterStep} {frame : Bytes}
    {reply : Reply}
    (sent : session.history peer state calls =
      before ++ .passed (.sent (.later direction step) frame reply) :: after) :
    OpenAfter (past ++ before) direction := by
  induction calls generalizing past session state before with
  | nil => simp [history] at sent
  | cons call calls ih =>
      obtain ⟨kept, frames⟩ := ensures_run (perform_kept accords call) peer state
      let transcript := (session.perform call).run peer state
      cases before with
      | nil => simp [history] at sent
      | cons mark before =>
          simp only [history, List.cons_append, List.cons.injEq] at sent
          obtain ⟨rfl, sent⟩ := sent
          -- The frame passed either during this call or during a later one.
          rcases List.append_eq_append_iff.mp sent with
            ⟨rest, split, later⟩ | ⟨rest, split, later⟩
          · subst split
            have found := ih _ kept later
            simpa using found
          · cases rest with
            | nil =>
                have first : transcript.value.2.history peer transcript.peer calls =
                    [] ++ .passed (.sent (.later direction step) frame reply) :: after := by
                  simpa using later.symm
                have found := ih _ kept first
                simp only [List.append_nil] at split found
                simpa [split] using found
            | cons mark rest =>
                obtain ⟨rfl, _⟩ := List.cons.inj later
                obtain ⟨events, others, whole, rfl, tail⟩ := List.map_eq_append_iff.mp split
                obtain ⟨event, rest, rfl, same, _⟩ := List.map_eq_cons_iff.mp tail
                cases same
                simpa using frames events _ _ _ rest whole direction step rfl

/-- Wire order: from its creation on, a session sends a later frame of a transfer only after an INIT
that opened a transfer of the same direction, with nothing since that closes it. -/
theorem later_frame_only_while_open (created : create settings hasSigner = .ok session)
    (peer : Peer σ) (state : σ) (calls : List Call) (before after : List Mark)
    (direction : Direction) (step : LaterStep) (frame : Bytes) (reply : Reply)
    (sent : session.history peer state calls =
      before ++ .passed (.sent (.later direction step) frame reply) :: after) :
    OpenAfter before direction := by
  simpa using history_openAfter peer state calls (create_accords created) sent

def twoBytes : Reply :=
  .ofBytes [0, 2, 0x90, 0]

def sampleKey : RecordKey :=
  ⟨text "u", text "a", by decide, by decide⟩

theorem read_advances_after_init :
    (standard false).history (.steady twoBytes (.ok [])) () [.read sampleKey] =
        [.called (.read sampleKey),
          .passed (.sent (.init .read) [0x80, 0x20, 0, 0, 5, 1, 117, 1, 97, 0] twoBytes)] ++
        .passed (.sent (.later .read .advance) [0x80, 0x21, 0, 0, 0, 0] twoBytes) ::
          [.passed (.sent (.later .read .finalize) [0x80, 0x22, 0, 0] twoBytes)] ∧
      OpenAfter [.called (.read sampleKey),
        .passed (.sent (.init .read) [0x80, 0x20, 0, 0, 5, 1, 117, 1, 97, 0] twoBytes)] .read := by
  refine ⟨rfl, ?_⟩
  exact later_frame_only_while_open (create_standard false) (.steady twoBytes (.ok [])) ()
    [.read sampleKey] _ _ .read .advance _ twoBytes rfl

end Session

/-!
What a session says about its active transfer: its total, its phase, its counter and the bytes
collected for it agree with what has passed since INIT, whatever the card and the signer do.
-/

namespace Transfer

/-- What an active transfer says about itself, held against the answer to its INIT, what has passed
since, and what the session has collected. -/
structure Tallies (transfer : Transfer) (collected : Bytes) (reply : Reply) (since : List Mark) :
    Prop where
  storeTotal : transfer.direction = .store →
    reply.status? = some 0x9000 ∧ transfer.total = none
  readTotal : transfer.direction = .read → ∃ high low rest,
    reply.response? = some ⟨high :: low :: rest, 0x9000⟩ ∧
      transfer.total = some (UInt64.ofNat (256 * high.toNat + low.toNat))
  totalBound : ∀ total, transfer.total = some total → total.toNat ≤ 65535
  phases : transfer.phase = .init ∨ transfer.phase = Phase.moving transfer.direction ∨
    transfer.phase = .aborted
  begun : transfer.phase ≠ .aborted →
    (transfer.phase = .init ↔ movedIn transfer.direction since = [])
  storeMoved : transfer.direction = .store →
    transfer.moved.toNat = (movedIn .store since).flatten.length % UInt64.size
  readMoved : transfer.direction = .read →
    transfer.moved.toNat = (movedIn .read since).flatten.length
  readCollected : transfer.direction = .read → transfer.phase ≠ .aborted →
    transfer.moved.toNat = collected.length ∧ collected = (movedIn .read since).flatten
  complaint : transfer.phase = .aborted → ∃ mark ∈ since, mark.Complains transfer.direction

variable {direction : Direction} {history since : List Mark} {transfer : Transfer} {reply : Reply}
  {pieces : List Bytes} {collected : Bytes}

theorem origin_storeTotal (origin : Origin direction history transfer reply since)
    (store : transfer.direction = .store) :
    reply.status? = some 0x9000 ∧ transfer.total = none := by
  have side : direction = .store := origin.side.symm.trans store
  subst side
  obtain ⟨response, answer, accepted, _⟩ := origin.opens
  exact ⟨by simp [Reply.status?, answer, accepted], origin.total⟩

theorem origin_readTotal (origin : Origin direction history transfer reply since)
    (read : transfer.direction = .read) : ∃ high low rest,
      reply.response? = some ⟨high :: low :: rest, 0x9000⟩ ∧
        transfer.total = some (UInt64.ofNat (256 * high.toNat + low.toNat)) := by
  have side : direction = .read := origin.side.symm.trans read
  subst side
  obtain ⟨⟨data, status⟩, answer, accepted, enough⟩ := origin.opens
  match data, enough rfl with
  | high :: low :: rest, _ =>
      refine ⟨high, low, rest, ?_, ?_⟩
      · rw [answer]
        simpa using accepted
      · rw [origin.total, Reply.total?, answer]
        simp [Word.at?, Word.toUInt64_ofBytes]

theorem origin_totalBound (origin : Origin direction history transfer reply since) (total : UInt64)
    (told : transfer.total = some total) : total.toNat ≤ 65535 := by
  cases side : transfer.direction with
  | store =>
      have untold := (origin_storeTotal origin side).2
      rw [untold] at told
      cases told
  | read =>
      obtain ⟨high, low, _, _, announced⟩ := origin_readTotal origin side
      rw [announced] at told
      cases told
      have highBound := high.toNat_lt
      have lowBound := low.toNat_lt
      rw [UInt64.toNat_ofNat']
      omega

theorem counted_store (counted : Counted .store transfer pieces) :
    transfer.moved.toNat = pieces.flatten.length % UInt64.size := by
  rw [counted.moved, UInt64.toNat_ofNat']

theorem counted_read (counted : Counted .read transfer pieces) :
    transfer.moved.toNat = pieces.flatten.length := by
  rw [counted.moved, UInt64.toNat_ofNat']
  exact Nat.mod_eq_of_lt (counted.unwrapped rfl)

theorem underway_tallies (account : Underway direction history transfer pieces)
    (origin : Origin direction history transfer reply since)
    (moved : movedIn direction since = pieces) (gathers : collected = gathered direction pieces) :
    transfer.Tallies collected reply since := by
  have side := origin.side
  subst side moved
  have running : transfer.phase ≠ .aborted := by
    rw [account.phase]
    split
    · decide
    · cases transfer.direction <;> decide
  refine ⟨origin_storeTotal origin, origin_readTotal origin, origin_totalBound origin, ?_, ?_, ?_,
    ?_, ?_, fun aborted => absurd aborted running⟩
  · rw [account.phase]
    split
    · exact Or.inl rfl
    · exact Or.inr (Or.inl rfl)
  · intro _
    rw [account.phase]
    split
    · rename_i none
      simp [none]
    · rename_i some
      have moves : Phase.moving transfer.direction ≠ .init := by
        cases transfer.direction <;> decide
      simp [some, moves]
  · intro store
    have counted := account.counted
    rw [store] at counted
    exact counted_store counted
  · intro read
    have counted := account.counted
    rw [read] at counted
    exact counted_read counted
  · intro read _
    have counted := account.counted
    rw [read] at counted gathers
    exact ⟨by rw [counted_read counted, gathers, gathered], gathers⟩

theorem stuck_tallies (account : Stuck direction history transfer pieces)
    (origin : Origin direction history transfer reply since)
    (moved : movedIn direction since = pieces)
    (complaint : ∃ mark ∈ since, mark.Complains direction) :
    transfer.Tallies collected reply since := by
  have side := origin.side
  subst side moved
  have aborted := account.phase
  refine ⟨origin_storeTotal origin, origin_readTotal origin, origin_totalBound origin,
    Or.inr (Or.inr aborted), fun running => absurd aborted running, ?_, ?_,
    fun _ running => absurd aborted running, fun _ => complaint⟩
  · intro store
    have counted := account.counted
    rw [store] at counted
    exact counted_store counted
  · intro read
    have counted := account.counted
    rw [read] at counted
    exact counted_read counted

end Transfer

namespace Session

variable {σ : Type} {session : Session} {settings : Settings} {hasSigner : Bool}

/-- The active transfer of a session goes back to the latest INIT on the wire, and what it says
about itself agrees with everything since. -/
theorem active_transfer_tallies (created : create settings hasSigner = .ok session)
    (peer : Peer σ) (state : σ) (calls : List Call) (transfer : Transfer)
    (active : (session.afterCalls peer state calls).active = some transfer) :
    ∃ older frame reply since,
      session.history peer state calls =
          older ++ .passed (.sent (.init transfer.direction) frame reply) :: since ∧
        (∀ mark ∈ since, ¬ mark.IsInit) ∧
        transfer.Tallies (session.afterCalls peer state calls).collected reply since := by
  have accords := history_accords peer state calls (create_accords created)
  rw [active, List.nil_append] at accords
  rcases accords with ⟨direction, pieces, account, gathers⟩ | ⟨direction, pieces, account⟩
  · obtain ⟨reply, since, origin, undisturbed, moved⟩ := account.origin
    obtain ⟨older, frame, split⟩ := origin.latest
    refine ⟨older, frame, reply, since, ?_, ?_, ?_⟩
    · rw [origin.side]
      exact split
    · exact fun mark member => not_init_of_not_closes (undisturbed mark member)
    · exact Transfer.underway_tallies account origin moved gathers
  · obtain ⟨reply, since, origin, noInit, moved, complaint⟩ := account.origin
    obtain ⟨older, frame, split⟩ := origin.latest
    refine ⟨older, frame, reply, since, ?_, noInit, ?_⟩
    · rw [origin.side]
      exact split
    · exact Transfer.stuck_tallies account origin moved complaint

theorem read_underway_tallies :
    let last := (standard false).afterCalls (.steady twoBytes (.ok [])) ()
      [.beginRead sampleKey, .continueRead]
    last.active = some ⟨.read, .draining, 2, some 2, 0⟩ ∧
      ∃ older frame reply since,
        (standard false).history (.steady twoBytes (.ok [])) ()
            [.beginRead sampleKey, .continueRead] =
          older ++ .passed (.sent (.init .read) frame reply) :: since ∧
        (∀ mark ∈ since, ¬ mark.IsInit) ∧
        Transfer.Tallies ⟨.read, .draining, 2, some 2, 0⟩ last.collected reply since := by
  refine ⟨rfl, ?_⟩
  exact active_transfer_tallies (create_standard false) (.steady twoBytes (.ok [])) ()
    [.beginRead sampleKey, .continueRead] ⟨.read, .draining, 2, some 2, 0⟩ rfl

end Session

end CardVault
