import CardVault.Proofs.EndedTransfer

/-!
A read ends whatever the card does. Every round but the last brings at least one byte, so the bytes
that are still to come bound the rounds, and to allow more rounds would make no difference. What came
in one call counts in the next, so the bound holds of all the calls of a read together.
-/

namespace CardVault

open Dialogue

/-- Part of the data with the promise of more. -/
def Reply.isPart (reply : Reply) : Bool :=
  match reply.response? with
  | some response => response.status.kind == .moreData && response.data != []
  | none => false

theorem Reply.isPart_iff (reply : Reply) :
    reply.isPart = true ↔
      reply.status?.map StatusWord.kind = some .moreData ∧ ¬ reply.Fails .read := by
  unfold isPart status? Fails
  cases reply.response? with
  | none => simp
  | some response => cases kind : response.status.kind <;> simp [kind]

namespace Transfer

variable {σ : Type} {settings : Settings} {transfer grown : Transfer} {chunks : List Bytes}
  {reply : Reply}

def left (transfer : Transfer) : Nat :=
  (transfer.total.getD 0).toNat - transfer.moved.toNat

theorem left_pos_iff : 0 < transfer.left ↔ transfer.moved < transfer.total.getD 0 := by
  rw [UInt64.lt_iff_toNat_lt, left]
  omega

theorem moved_grown (small : (transfer.total.getD 0).toNat ≤ 65535)
    (short : transfer.moved < transfer.total.getD 0) {response : Response}
    (answer : reply.response? = some response) (target : Phase) :
    ((transfer.enter target).count response.data.length).moved.toNat =
      transfer.moved.toNat + response.data.length := by
  have bound := Reply.data_addressable answer
  rw [UInt64.lt_iff_toNat_lt] at short
  rw [count_moved, enter_moved, UInt64.toNat_add, UInt64.toNat_ofNat']
  omega

/-- What a reply makes of a round, however many rounds remain: the call is over, or part of the data has
come and the next round goes on from there. -/
inductive Answered (settings : Settings) (transfer : Transfer) (chunks : List Bytes) (reply : Reply) :
    (Nat → Dialogue (Except Fault Bytes × Transfer)) → Prop where
  | ended {value : Except Fault Bytes × Transfer} (unpromising : reply.isPart = false)
      (total : value.2.total = transfer.total)
      (moved : transfer.moved.toNat ≤ value.2.moved.toNat) :
      Answered settings transfer chunks reply fun _ => .done value
  | part {response : Response} (answer : reply.response? = some response)
      (filled : response.data ≠ []) :
      Answered settings transfer chunks reply fun rounds =>
        pullAll settings rounds ((transfer.enter .draining).count response.data.length)
          (response.data :: chunks)

theorem exchanged_unmoved (transfer : Transfer) (fault : Fault) :
    ∃ after, transfer.exchanged (.error fault) = (.error fault, after) ∧
      after.total = transfer.total ∧ after.moved = transfer.moved := by
  cases fault with
  | protocol error => exact ⟨_, rfl, enter_total _ _, enter_moved _ _⟩
  | link wording => exact ⟨_, rfl, rfl, rfl⟩
  | crypto origin wording => exact ⟨_, rfl, rfl, rfl⟩
  | other wording => exact ⟨_, rfl, rfl, rfl⟩

theorem pullAll_round (settings : Settings) (small : (transfer.total.getD 0).toNat ≤ 65535)
    (short : transfer.moved < transfer.total.getD 0) (chunks : List Bytes) :
    ∃ next : Reply → Nat → Dialogue (Except Fault Bytes × Transfer),
      (∀ rounds, pullAll settings (rounds + 1) transfer chunks =
        .send (.later .read .advance) (pullCommand settings).frame fun reply => next reply rounds) ∧
      ∀ reply, Answered settings transfer chunks reply (next reply) := by
  have fits : (pullCommand settings).data.length ≤ 255 := Nat.zero_le _
  refine Exists.intro ?next ⟨?request, ?answered⟩
  case request =>
    intro rounds
    simp only [pullAll, short, ↓reduceIte, exchangeIn, exchangeFor_fits _ _ fits, Dialogue.map,
      Dialogue.bind]
    rfl
  case answered =>
    intro reply
    cases given : received reply with
    | error fault =>
        have unanswered : reply.response? = none := by
          simp [Reply.response?, given, Except.toOption]
        rcases transfer.exchanged_unmoved fault with ⟨after, relayed, total, moved⟩
        rw [relayed]
        exact .ended (by simp [Reply.isPart, unanswered]) total (Nat.le_of_eq (by rw [moved]))
    | ok response =>
        have answer := (Reply.received_eq_ok_iff _ _).mp given
        have aborted (error : ProtocolError) (unpromising : reply.isPart = false) :
            Answered settings transfer chunks reply fun _ => .done (transfer.abort error) :=
          .ended unpromising (enter_total _ _) (Nat.le_of_eq (by rw [abort, enter_moved]))
        simp only [exchanged]
        cases kind : response.status.kind with
        | success =>
            apply Answered.ended
            · simp [Reply.isPart, answer, kind]
            · exact enter_total _ _
            · rw [moved_grown small short answer]
              exact Nat.le_add_right _ _
        | moreData =>
            by_cases empty : response.data = []
            · simp only [empty, ↓reduceIte]
              exact aborted _ (by simp [Reply.isPart, answer, kind, empty])
            · simp only [empty, ↓reduceIte]
              exact .part answer empty
        | failure => exact aborted _ (by simp [Reply.isPart, answer, kind])

theorem grown_small (small : (transfer.total.getD 0).toNat ≤ 65535) (target : Phase) (bytes : Nat) :
    (((transfer.enter target).count bytes).total.getD 0).toNat ≤ 65535 := by
  rw [count_total, enter_total]
  exact small

theorem left_grown (small : (transfer.total.getD 0).toNat ≤ 65535)
    (short : transfer.moved < transfer.total.getD 0) {response : Response}
    (answer : reply.response? = some response) (target : Phase) :
    ((transfer.enter target).count response.data.length).left =
      transfer.left - response.data.length := by
  rw [left, left, moved_grown small short answer, count_total, enter_total, Nat.sub_sub]

/-- One round more than there are bytes left makes no difference. -/
theorem pullAll_spare (small : (transfer.total.getD 0).toNat ≤ 65535) {rounds : Nat}
    (enough : transfer.left ≤ rounds) (chunks : List Bytes) :
    pullAll settings (rounds + 1) transfer chunks = pullAll settings rounds transfer chunks := by
  induction rounds generalizing transfer chunks with
  | zero =>
      have reached : ¬ transfer.moved < transfer.total.getD 0 := by
        rw [← left_pos_iff]
        omega
      simp only [pullAll, reached, ↓reduceIte]
  | succ rounds ih =>
      by_cases short : transfer.moved < transfer.total.getD 0
      · rcases pullAll_round settings small short chunks with ⟨next, request, answered⟩
        rw [request, request]
        congr 1
        funext reply
        have outcome := answered reply
        generalize next reply = onward at outcome ⊢
        cases outcome with
        | ended => rfl
        | part answer filled =>
            -- A part has used up one round and at least one byte, so the rounds still suffice.
            have less := left_grown small short answer .draining
            have some := List.length_pos_iff.mpr filled
            apply ih
            · exact grown_small small .draining _
            · omega
      · simp only [pullAll, short, ↓reduceIte]

theorem pullAll_enough (small : (transfer.total.getD 0).toNat ≤ 65535) {rounds : Nat}
    (enough : transfer.left ≤ rounds) (chunks : List Bytes) :
    pullAll settings rounds transfer chunks = pullAll settings transfer.left transfer chunks := by
  induction enough with
  | refl => rfl
  | step enough ih => rw [pullAll_spare small enough, ih]

/-- A read that goes on only asks for data, no more often than there are bytes left, and counts a byte
for each part that comes. -/
structure Drains (transfer : Transfer)
    (transcript : Transcript σ (Except Fault Bytes × Transfer)) : Prop where
  total : transcript.value.2.total = transfer.total
  asks : transcript.purposes =
    List.replicate transcript.replies.length (.later .read .advance)
  bounded : transcript.replies.length ≤ transfer.left
  counted : transfer.moved.toNat + transcript.replies.countP Reply.isPart ≤
    transcript.value.2.moved.toNat

theorem drains_silent (outcome : Except Fault Bytes) (transfer : Transfer) (last : σ) :
    Drains transfer ⟨(outcome, transfer), [], last⟩ where
  total := rfl
  asks := rfl
  bounded := Nat.zero_le _
  counted := Nat.le_refl _

theorem drains_asked {rest : Transcript σ (Except Fault Bytes × Transfer)} (drains : Drains grown rest)
    (total : grown.total = transfer.total) (bounded : rest.replies.length < transfer.left)
    (counted : transfer.moved.toNat + [reply].countP Reply.isPart ≤ grown.moved.toNat)
    (frame : Bytes) :
    Drains transfer ⟨rest.value, .sent (.later .read .advance) frame reply :: rest.events, rest.peer⟩ where
  total := drains.total.trans total
  asks := congrArg (Purpose.later .read .advance :: ·) drains.asks
  bounded := bounded
  counted := by
    have before := drains.counted
    have split : (reply :: rest.replies).countP Reply.isPart =
        rest.replies.countP Reply.isPart + [reply].countP Reply.isPart := by
      simp [List.countP_cons]
    change transfer.moved.toNat + (reply :: rest.replies).countP Reply.isPart ≤
      rest.value.2.moved.toNat
    omega

theorem pullAll_drains (peer : Peer σ) (small : (transfer.total.getD 0).toNat ≤ 65535)
    (rounds : Nat) (chunks : List Bytes) (state : σ) :
    Drains transfer ((pullAll settings rounds transfer chunks).run peer state) := by
  induction rounds generalizing transfer chunks state with
  | zero => exact drains_silent _ transfer state
  | succ rounds ih =>
      by_cases short : transfer.moved < transfer.total.getD 0
      · rcases pullAll_round settings small short chunks with ⟨next, request, answered⟩
        rw [request, run_send]
        generalize peer.answer (pullCommand settings).frame state = given
        rcases given with ⟨reply, later⟩
        have outcome := answered reply
        dsimp only
        generalize next reply = onward at outcome ⊢
        cases outcome with
        | @ended value unpromising total moved =>
            have missing := left_pos_iff.mpr short
            exact drains_asked (drains_silent value.1 value.2 later) total missing
              (by simpa [unpromising] using moved) _
        | @part response answer filled =>
            have less := left_grown small short answer .draining
            have missing := left_pos_iff.mpr short
            have some := List.length_pos_iff.mpr filled
            have rest := ih (grown_small small .draining response.data.length)
              (response.data :: chunks) later
            apply drains_asked rest
            · simp
            · have bound := rest.bounded
              omega
            · have most : [reply].countP Reply.isPart ≤ 1 := List.countP_le_length
              rw [moved_grown small short answer]
              omega
      · simp only [pullAll, short, ↓reduceIte]
        exact drains_silent _ transfer state

def oneByte : Reply :=
  .ofBytes [7, 0x61, 0xFF]

theorem pullAll_oneByte (small : (transfer.total.getD 0).toNat ≤ 65535) {rounds : Nat}
    (enough : transfer.left ≤ rounds) (chunks : List Bytes) (signature : Signature) :
    ((pullAll settings rounds transfer chunks).run (.steady oneByte signature) ()).purposes =
      List.replicate transfer.left (.later .read .advance) := by
  induction rounds generalizing transfer chunks with
  | zero =>
      rw [Nat.le_zero.mp enough]
      rfl
  | succ rounds ih =>
      by_cases short : transfer.moved < transfer.total.getD 0
      · rcases pullAll_round settings small short chunks with ⟨next, request, answered⟩
        have outcome := answered oneByte
        rw [request, run_send]
        simp only [Peer.steady]
        generalize next oneByte = onward at outcome ⊢
        cases outcome with
        | ended unpromising => cases unpromising
        | @part response answer filled =>
            have one : response.data.length = 1 := by
              cases answer
              rfl
            have less : ((transfer.enter .draining).count response.data.length).left =
                transfer.left - 1 := by rw [left_grown small short answer, one]
            have missing := left_pos_iff.mpr short
            have rest := ih (grown_small small .draining response.data.length) (by omega)
              (response.data :: chunks)
            have counted : transfer.left = transfer.left - 1 + 1 := by omega
            rw [less] at rest
            rw [counted, List.replicate_succ, ← rest]
            rfl
      · have reached : transfer.left = 0 := by
          rw [← left_pos_iff] at short
          omega
        simp only [pullAll, short, ↓reduceIte, reached]
        rfl

theorem continueRead_drains (peer : Peer σ) (small : (transfer.total.getD 0).toNat ≤ 65535)
    (settings : Settings) (state : σ) :
    Drains transfer ((continueRead settings transfer).run peer state) := by
  cases open_ : transfer.accepts .read with
  | true =>
      rw [continueRead_accepted settings open_ small]
      exact pullAll_drains peer small _ _ state
  | false =>
      rw [continueRead_refuses settings open_]
      exact drains_silent _ transfer state

/-- What becomes of a read that is continued any number of times after it was opened, by any client and
against any card, and all that passes in these calls. -/
inductive Continued (opened : Transfer) : Transfer → List Event → Prop where
  | opened : Continued opened opened []
  | again {τ : Type} {transfer : Transfer} {past : List Event} (before : Continued opened transfer past)
      (settings : Settings) (peer : Peer τ) (state : τ) :
      Continued opened ((continueRead settings transfer).run peer state).value.2
        (past ++ ((continueRead settings transfer).run peer state).events)

/-- The parts that have come are no more than the bytes that were counted, nor than were announced. -/
structure Tallied (total : UInt64) (transfer : Transfer) (past : List Event) : Prop where
  told : transfer.total = some total
  counted : (past.filterMap Event.reply?).countP Reply.isPart ≤ transfer.moved.toNat
  announced : (past.filterMap Event.reply?).countP Reply.isPart ≤ total.toNat

theorem Tallied.again {total : UInt64} {past : List Event} (small : total.toNat ≤ 65535)
    (tallied : Tallied total transfer past) (settings : Settings) (peer : Peer σ) (state : σ) :
    let transcript := (continueRead settings transfer).run peer state
    Tallied total transcript.value.2 (past ++ transcript.events) := by
  have drains := continueRead_drains peer (by rw [tallied.told]; exact small) settings state
  generalize (continueRead settings transfer).run peer state = transcript at drains ⊢
  have split : ((past ++ transcript.events).filterMap Event.reply?).countP Reply.isPart =
      (past.filterMap Event.reply?).countP Reply.isPart +
        transcript.replies.countP Reply.isPart := by
    rw [List.filterMap_append, List.countP_append]
    rfl
  have before := tallied.counted
  constructor
  · exact drains.total.trans tallied.told
  · have after := drains.counted
    omega
  · -- Where the counter has passed the total, nothing is asked for, and nothing comes.
    have within := tallied.announced
    have most : transcript.replies.countP Reply.isPart ≤ transcript.replies.length :=
      List.countP_le_length
    have bound := drains.bounded
    rw [left, tallied.told, Option.getD_some] at bound
    omega

theorem Continued.tallied {opened : Transfer} {total : UInt64} {past : List Event}
    (announced : opened.total = some total) (small : total.toNat ≤ 65535)
    (continued : Continued opened transfer past) : Tallied total transfer past := by
  induction continued with
  | opened => exact ⟨announced, Nat.zero_le _, Nat.zero_le _⟩
  | again before settings peer state ih => exact ih.again small settings peer state

/-- Draining ends, whatever the card does. However often a read has been continued, a further call asks
for data at most as often as there are bytes left; to allow more rounds than that changes nothing, and
some card makes use of them all. Over all the calls of the read no more parts come than bytes were
announced. -/
theorem draining_ends {τ : Type} {begun : Settings} {envelope : Envelope} {card : Peer τ} {start : τ}
    {opened : Transfer} (opens : ((beginRead begun envelope).run card start).value = .ok opened)
    {past : List Event} (continued : Continued opened transfer past) (settings : Settings)
    (peer : Peer σ) (state : σ) :
    ∃ total : UInt64, opened.total = some total ∧ transfer.total = some total ∧
      let missing := total.toNat - transfer.moved.toNat
      let transcript := (continueRead settings transfer).run peer state
      (∃ rounds ≤ missing, transcript.purposes = List.replicate rounds (.later .read .advance)) ∧
      (transfer.accepts .read = true →
        (∀ rounds ≥ missing, continueRead settings transfer = pullAll settings rounds transfer []) ∧
        ∃ slow : Peer Unit, ((continueRead settings transfer).run slow ()).purposes =
          List.replicate missing (.later .read .advance)) ∧
      ((past ++ transcript.events).filterMap Event.reply?).countP Reply.isPart ≤ total.toNat := by
  rcases beginRead_begun opens with ⟨total, rfl⟩
  have bound := total.toNat_lt
  have small : total.toUInt64.toNat ≤ 65535 := by
    rw [UInt16.toNat_toUInt64]
    omega
  have tallied := continued.tallied rfl small
  have room : (transfer.total.getD 0).toNat ≤ 65535 := by rw [tallied.told]; exact small
  have same : transfer.left = total.toUInt64.toNat - transfer.moved.toNat := by
    rw [left, tallied.told, Option.getD_some]
  refine ⟨_, rfl, tallied.told, ?_, ?_, ?_⟩
  · have drains := continueRead_drains peer room settings state
    rw [← same]
    exact ⟨_, drains.bounded, drains.asks⟩
  · intro open_
    have most : transfer.left ≤ mostRounds := le_mostRounds (by omega)
    rw [continueRead_accepted settings open_ room]
    constructor
    · intro rounds enough
      have within : transfer.left ≤ rounds := by omega
      rw [pullAll_enough room most, pullAll_enough room within]
    · rw [← same]
      exact ⟨_, pullAll_oneByte room most [] (.ok [])⟩
  · exact (tallied.again small settings peer state).announced

def trickle : Peer Nat where
  answer _ before :=
    (if before = 0 then .ofBytes [0, 3, 0x90, 0] else oneByte, before + 1)
  sign _ before := (.ok [], before)

theorem three_bytes_trickle :
    let opened : Transfer := ⟨.read, .init, 0, some 3, 0⟩
    let first := (continueRead {} opened).run trickle 1
    let again := (continueRead {} first.value.2).run trickle first.peer
    first.purposes = List.replicate 3 (.later .read .advance) ∧
      first.replies.countP Reply.isPart = 3 ∧ again.purposes = [] ∧
      ∃ total : UInt64, opened.total = some total ∧ first.value.2.total = some total ∧
        let missing := total.toNat - first.value.2.moved.toNat
        (∃ rounds ≤ missing, again.purposes = List.replicate rounds (.later .read .advance)) ∧
        (first.value.2.accepts .read = true →
          (∀ rounds ≥ missing,
            continueRead {} first.value.2 = pullAll {} rounds first.value.2 []) ∧
          ∃ slow : Peer Unit, ((continueRead {} first.value.2).run slow ()).purposes =
            List.replicate missing (.later .read .advance)) ∧
        (([] ++ first.events ++ again.events).filterMap Event.reply?).countP Reply.isPart ≤
          total.toNat := by
  intro opened first again
  have opens : ((beginRead {} ⟨⟨text "u", text "a", by decide, by decide⟩, []⟩).run
      trickle 0).value = .ok opened := rfl
  have continued : Continued opened first.value.2 ([] ++ first.events) :=
    .again .opened {} trickle 1
  have brought : first.value.2 = ⟨.read, .draining, 3, some 3, 0⟩ := rfl
  have ended := draining_ends opens continued {} trickle first.peer
  have silent : again.purposes = [] := by
    rcases ended with ⟨total, _, told, ⟨rounds, few, asks⟩, _⟩
    rw [brought] at told few
    cases told
    rw [Nat.le_zero.mp few] at asks
    exact asks
  exact ⟨rfl, rfl, silent, ended⟩

end Transfer

end CardVault
