import CardVault.Proofs.Plan
import CardVault.Proofs.Raised

/-!
A read against any card. A read opens with INIT, asks for data with one CONTINUE after another and
closes with FINALIZE; which frames are sent, and what comes of it, follows from the replies. It goes
on while data is missing and each reply promises more and brings some, and it is done with its
questions when enough has come or the card says that there is no more.
-/

namespace CardVault

section

open Dialogue

inductive ReadStep where
  | init
  | pull
  | close
deriving DecidableEq, Repr

def ReadStep.command (settings : Settings) (request : Bytes) : ReadStep → Command
  | .init => ⟨settings.cla, settings.readCodes.init, 0, 0, request, none⟩
  | .pull => ⟨settings.cla, settings.readCodes.advance, 0, 0, [], some settings.expectedLength⟩
  | .close => ⟨settings.cla, settings.readCodes.finalize, 0, 0, [], none⟩

/-- The replies that make a read fail at a step, and the kind and the status of the failure. The
answer to FINALIZE cannot, as long as it is one. -/
inductive ReadFault : ReadStep → Reply → ErrorKind × Option StatusWord → Prop where
  | rejected {reply : Reply} {response : Response} (answer : reply.response? = some response)
      (refused : response.status ≠ 0x9000) :
      ReadFault .init reply (.initRejected, some response.status)
  | lengthless {reply : Reply} {response : Response} (answer : reply.response? = some response)
      (accepted : response.status = 0x9000) (short : response.data.length < 2) :
      ReadFault .init reply (.malformedResponse, none)
  | withheld {reply : Reply} {response : Response} (answer : reply.response? = some response)
      (refused : response.status.kind = .failure) :
      ReadFault .pull reply (.chunkRejected, some response.status)
  | hollow {reply : Reply} {response : Response} (answer : reply.response? = some response)
      (promising : response.status.kind = .moreData) (empty : response.data = []) :
      ReadFault .pull reply (.malformedResponse, some response.status)
  | garbled {step : ReadStep} {answer : Answer} (short : answer.raw.length < 2) :
      ReadFault step (.ok answer) (.malformedResponse, none)
  | lost {step : ReadStep} {wording : Text} :
      ReadFault step (.error (.link wording)) (.connectionUnavailable, none)

def Reply.Announces (reply : Reply) (total : Nat) : Prop :=
  ∃ high low rest, reply.response? = some ⟨high :: low :: rest, 0x9000⟩ ∧
    total = 256 * high.toNat + low.toNat

def brought (replies : List Reply) : Bytes :=
  (replies.filterMap fun reply => reply.response?.map (·.data)).flatten

/-- A read goes on after all these replies to CONTINUE. -/
inductive GoesOn (total : Nat) : List Reply → Prop where
  | start : GoesOn total []
  | more {pulls : List Reply} {reply : Reply} {response : Response} (before : GoesOn total pulls)
      (missing : (brought pulls).length < total) (answer : reply.response? = some response)
      (promising : response.status.kind = .moreData) (filled : response.data ≠ []) :
      GoesOn total (pulls ++ [reply])

/-- After these replies a read asks for no more data: the total has been reached, or the last of them
said that there is no more. -/
inductive Drained (total : Nat) : List Reply → Prop where
  | reached {pulls : List Reply} (before : GoesOn total pulls)
      (enough : total ≤ (brought pulls).length) : Drained total pulls
  | ended {pulls : List Reply} {reply : Reply} {response : Response} (before : GoesOn total pulls)
      (missing : (brought pulls).length < total) (answer : reply.response? = some response)
      (last : response.status = 0x9000) : Drained total (pulls ++ [reply])

/-- The steps of a read and the replies to them, and what comes of them. -/
inductive ReadCourse :
    List ReadStep → List Reply → Except (ErrorKind × Option StatusWord) Bytes → Prop where
  | unopened {opening : Reply} {blamed : ErrorKind × Option StatusWord}
      (fault : ReadFault .init opening blamed) :
      ReadCourse [.init] [opening] (.error blamed)
  | broken {opening last : Reply} {pulls : List Reply} {total : Nat}
      {blamed : ErrorKind × Option StatusWord} (announced : opening.Announces total)
      (before : GoesOn total pulls) (missing : (brought pulls).length < total)
      (fault : ReadFault .pull last blamed) :
      ReadCourse (.init :: List.replicate (pulls ++ [last]).length .pull)
        (opening :: (pulls ++ [last])) (.error blamed)
  | unclosed {opening closing : Reply} {pulls : List Reply} {total : Nat}
      {blamed : ErrorKind × Option StatusWord} (announced : opening.Announces total)
      (drained : Drained total pulls) (fault : ReadFault .close closing blamed) :
      ReadCourse (.init :: (List.replicate pulls.length .pull ++ [.close]))
        (opening :: (pulls ++ [closing])) (.error blamed)
  | closed {opening closing : Reply} {pulls : List Reply} {total : Nat} {response : Response}
      (announced : opening.Announces total) (drained : Drained total pulls)
      (answer : closing.response? = some response) :
      ReadCourse (.init :: (List.replicate pulls.length .pull ++ [.close]))
        (opening :: (pulls ++ [closing])) (.ok (brought pulls))

def Failure.blamed (failure : Failure) : ErrorKind × Option StatusWord :=
  (failure.kind, failure.status)

theorem ReadFault.inTurn {step : ReadStep} {reply : Reply}
    {blamed : ErrorKind × Option StatusWord} (faulty : ReadFault step reply blamed) :
    blamed.1.isOutOfTurn = false := by
  cases faulty <;> rfl

theorem readFault_received {reply : Reply} {fault : Fault} (ordinary : reply.Ordinary)
    (failed : received reply = .error fault) (step : ReadStep) :
    ReadFault step reply fault.failure.blamed := by
  cases reply with
  | error raised =>
      obtain ⟨wording, rfl⟩ := ordinary raised rfl
      cases failed
      exact .lost
  | ok answer =>
      cases decoded : Response.decode answer.raw with
      | ok response =>
          rw [received_decoded decoded] at failed
          cases failed
      | error error =>
          rw [received_undecoded decoded] at failed
          cases failed
          obtain ⟨short, rfl⟩ := (Response.decode_eq_error_iff _ _).mp decoded
          exact .garbled short

theorem brought_append (first second : List Reply) :
    brought (first ++ second) = brought first ++ brought second := by
  simp [brought]

theorem brought_answer {reply : Reply} {response : Response}
    (answer : reply.response? = some response) : brought [reply] = response.data := by
  simp [brought, answer]

end

/-!
The steps of a read against any card. INIT opens the read or says why not; from then on the loop that
asks for data gathers what the answers bring, and comes to a halt where the course of a read says it
does.
-/

section

open Dialogue

variable {σ : Type}

namespace Transfer

variable (settings : Settings) (peer : Peer σ) (state : σ)

theorem beginRead_course (ordinary : ∀ frame state, (peer.answer frame state).1.Ordinary)
    (envelope : Envelope) (data : Bytes) (wire : envelope.wire = .ok data)
    (fits : data.length ≤ 255) :
    let transcript := (beginRead settings envelope).run peer state
    ∃ opening, transcript.sent = [(ReadStep.init.command settings data).frame] ∧
      transcript.replies = [opening] ∧
      match transcript.value with
      | .ok transfer => ∃ total, opening.Announces total ∧ total ≤ 65535 ∧
          transfer = ⟨.read, .init, 0, some (UInt64.ofNat total), 0⟩
      | .error fault => ReadFault .init opening fault.failure.blamed := by
  intro transcript
  have ran : transcript = (beginRead settings envelope).run peer state := rfl
  simp only [beginRead, wire, exchangeFor_fits _ (initCommand settings .read data) fits,
    Dialogue.map, Dialogue.bind, run_send, run] at ran
  refine ⟨(peer.answer (initCommand settings .read data).frame state).1, ?_, ?_, ?_⟩
  · rw [ran]
    rfl
  · rw [ran]
    rfl
  · rw [ran]
    dsimp only
    cases given : received (peer.answer (initCommand settings .read data).frame state).1 with
    | error fault => exact readFault_received (ordinary _ _) given .init
    | ok response =>
        have answer := (Reply.received_eq_ok_iff _ _).mp given
        dsimp only
        by_cases success : response.status.isSuccess = true
        · have accepted := (StatusWord.isSuccess_iff_eq _).mp success
          obtain ⟨data, status⟩ := response
          cases accepted
          simp only [success, ↓reduceIte]
          cases data with
          | nil => exact .lengthless answer rfl (by decide)
          | cons high rest =>
              cases rest with
              | nil => exact .lengthless answer rfl (by simp)
              | cons low rest =>
                  have highBound := high.toNat_lt
                  have lowBound := low.toNat_lt
                  refine ⟨_, ⟨high, low, rest, answer, rfl⟩, by omega, ?_⟩
                  rw [← Word.toUInt64_ofBytes]
                  rfl
        · simp only [success, Bool.false_eq_true, ↓reduceIte]
          exact .rejected answer fun accepted =>
            success ((StatusWord.isSuccess_iff_eq _).mpr accepted)

def pulled (reply : Reply) : Event :=
  .sent (.later .read .advance) (pullCommand settings).frame reply

theorem pulled_frames (request : Bytes) (replies : List Reply) :
    (replies.map (pulled settings)).filterMap Event.frame? =
      (List.replicate replies.length ReadStep.pull).map fun step =>
        (step.command settings request).frame := by
  induction replies with
  | nil => rfl
  | cons reply replies ih =>
      simp only [List.map_cons, List.length_cons, List.replicate_succ, ← ih]
      rfl

structure Gathers (chunks : List Bytes) (transcript : Transcript σ (Except Fault Bytes × Transfer)) :
    Prop where
  events : transcript.events = transcript.replies.map (pulled settings)
  whole : ∀ bytes, transcript.value.1 = .ok bytes →
    bytes = chunks.reverse.flatten ++ brought transcript.replies

theorem gathers_silent {chunks : List Bytes} {outcome : Except Fault Bytes} {after : Transfer}
    (whole : ∀ bytes, outcome = .ok bytes → bytes = chunks.reverse.flatten) :
    Gathers settings chunks ⟨(outcome, after), [], state⟩ where
  events := rfl
  whole := fun bytes given => by simpa [Transcript.replies, brought] using whole bytes given

theorem gathers_pulled {chunks more : List Bytes} {reply : Reply}
    {rest : Transcript σ (Except Fault Bytes × Transfer)} (gathers : Gathers settings more rest)
    (grows : ∀ bytes, rest.value.1 = .ok bytes →
      more.reverse.flatten = chunks.reverse.flatten ++ brought [reply]) :
    Gathers settings chunks ⟨rest.value, pulled settings reply :: rest.events, rest.peer⟩ where
  events := by
    have others := gathers.events
    simp only [Transcript.replies] at others ⊢
    simp [pulled, Event.reply?, ← others]
  whole := by
    intro bytes given
    rw [gathers.whole bytes given, grows bytes given, List.append_assoc, ← brought_append]
    rfl

theorem pullAll_gathers (rounds : Nat) (transfer : Transfer) (chunks : List Bytes) :
    Gathers settings chunks ((pullAll settings rounds transfer chunks).run peer state) := by
  induction rounds generalizing transfer chunks state with
  | zero => exact gathers_silent settings state fun _ given => by cases given; rfl
  | succ rounds ih =>
      unfold pullAll
      by_cases short : transfer.moved < transfer.total.getD 0
      · have fits : (pullCommand settings).data.length ≤ 255 := Nat.zero_le _
        simp only [short, ↓reduceIte, exchangeIn_run _ _ _ fits]
        have failed {error : Fault} {after : Transfer} {later : σ} : Gathers settings chunks
            ⟨(.error error, after), [], later⟩ :=
          gathers_silent settings later fun _ given => by cases given
        cases given : received (peer.answer (pullCommand settings).frame state).1 with
        | error fault =>
            obtain ⟨after, relayed⟩ := transfer.exchanged_fault fault
            rw [relayed]
            exact gathers_pulled settings failed fun _ given => by cases given
        | ok response =>
            have answer := (Reply.received_eq_ok_iff _ _).mp given
            have grows : (response.data :: chunks).reverse.flatten = chunks.reverse.flatten ++
                brought [(peer.answer (pullCommand settings).frame state).1] := by
              simp [brought_answer answer]
            simp only [exchanged]
            split
            · exact gathers_pulled settings
                (gathers_silent settings _ fun _ given => by cases given; rfl) fun _ _ => grows
            · split
              · exact gathers_pulled settings failed fun _ given => by cases given
              · exact gathers_pulled settings (ih _ _ _) fun _ _ => grows
            · exact gathers_pulled settings failed fun _ given => by cases given
      · simp only [short, ↓reduceIte]
        exact gathers_silent settings state fun _ given => by cases given; rfl

/-- Where a read that went on comes to a halt: done with its questions, or at a reply that makes it
fail. -/
def Halts (total : Nat) (earlier : List Reply)
    (transcript : Transcript σ (Except Fault Bytes × Transfer)) : Prop :=
  match transcript.value.1 with
  | .ok _ => Drained total (earlier ++ transcript.replies)
  | .error fault => ∃ more last, transcript.replies = more ++ [last] ∧
      GoesOn total (earlier ++ more) ∧ (brought (earlier ++ more)).length < total ∧
      ReadFault .pull last fault.failure.blamed

theorem halts_drained {total : Nat} {earlier : List Reply} {bytes : Bytes} {after : Transfer}
    (drained : Drained total earlier) :
    Halts total earlier ⟨(.ok bytes, after), [], state⟩ := by
  simpa [Halts, Transcript.replies] using drained

theorem halts_failed {total : Nat} {earlier : List Reply} {reply : Reply} {fault : Fault}
    {after : Transfer} (reached : GoesOn total earlier)
    (missing : (brought earlier).length < total)
    (faulty : ReadFault .pull reply fault.failure.blamed) :
    Halts total earlier ⟨(.error fault, after), [pulled settings reply], state⟩ :=
  ⟨[], reply, rfl, by simpa using reached, by simpa using missing, faulty⟩

theorem halts_pulled {total : Nat} {earlier : List Reply} {reply : Reply}
    {rest : Transcript σ (Except Fault Bytes × Transfer)}
    (halts : Halts total (earlier ++ [reply]) rest) :
    Halts total earlier ⟨rest.value, pulled settings reply :: rest.events, rest.peer⟩ := by
  unfold Halts at halts ⊢
  dsimp only
  split
  · rename_i given
    rw [given] at halts
    simpa [Transcript.replies, pulled, Event.reply?] using halts
  · rename_i fault given
    rw [given] at halts
    obtain ⟨more, last, replies, going, missing, faulty⟩ := halts
    refine ⟨reply :: more, last, ?_, ?_, ?_, faulty⟩
    · simpa [Transcript.replies, pulled, Event.reply?] using replies
    · simpa using going
    · simpa using missing

theorem pullAll_halts (ordinary : ∀ frame state, (peer.answer frame state).1.Ordinary)
    (rounds : Nat) (transfer : Transfer) (total : Nat) (small : total ≤ 65535)
    (announced : transfer.total = some (UInt64.ofNat total)) (earlier : List Reply)
    (going : GoesOn total earlier) (counted : transfer.moved.toNat = (brought earlier).length)
    (enough : total ≤ (brought earlier).length + rounds) (chunks : List Bytes) :
    Halts total earlier ((pullAll settings rounds transfer chunks).run peer state) := by
  induction rounds generalizing transfer earlier chunks state with
  | zero => exact halts_drained state (.reached going enough)
  | succ rounds ih =>
      have test : transfer.moved < transfer.total.getD 0 ↔ (brought earlier).length < total := by
        rw [announced, Option.getD_some, UInt64.lt_iff_toNat_lt, counted, UInt64.toNat_ofNat',
          Nat.mod_eq_of_lt (by omega)]
      unfold pullAll
      by_cases missing : (brought earlier).length < total
      · have fits : (pullCommand settings).data.length ≤ 255 := Nat.zero_le _
        simp only [test.mpr missing, ↓reduceIte, exchangeIn_run _ _ _ fits]
        cases given : received (peer.answer (pullCommand settings).frame state).1 with
        | error fault =>
            obtain ⟨after, relayed⟩ := transfer.exchanged_fault fault
            rw [relayed]
            exact halts_failed settings _ going missing
              (readFault_received (ordinary _ _) given .pull)
        | ok response =>
            have answer := (Reply.received_eq_ok_iff _ _).mp given
            have bound := Reply.data_addressable answer
            have longer := congrArg List.length
              (brought_append earlier [(peer.answer (pullCommand settings).frame state).1])
            rw [List.length_append, brought_answer answer] at longer
            simp only [exchanged]
            cases kind : response.status.kind with
            | success =>
                have last : response.status = 0x9000 :=
                  (StatusWord.isSuccess_iff_eq _).mp ((StatusWord.isSuccess_iff _).mpr kind)
                exact halts_pulled settings
                  (halts_drained _ (.ended going missing answer last))
            | moreData =>
                by_cases empty : response.data = []
                · simp only [empty, ↓reduceIte]
                  exact halts_failed settings _ going missing (.hollow answer kind empty)
                · simp only [empty, ↓reduceIte]
                  apply halts_pulled
                  apply ih
                  · simpa using announced
                  · exact .more going missing answer kind empty
                  · rw [longer, count_moved, enter_moved, UInt64.toNat_add, counted,
                      UInt64.toNat_ofNat']
                    omega
                  · have some := List.length_pos_iff.mpr empty
                    rw [longer]
                    omega
            | failure => exact halts_failed settings _ going missing (.withheld answer kind)
      · simp only [mt test.mp missing, ↓reduceIte]
        exact halts_drained state (.reached going (by omega))

theorem continueRead_course (ordinary : ∀ frame state, (peer.answer frame state).1.Ordinary)
    (total : Nat) (small : total ≤ 65535) :
    let transcript := (continueRead settings
      ⟨.read, .init, 0, some (UInt64.ofNat total), 0⟩).run peer state
    Gathers settings [] transcript ∧ Halts total [] transcript ∧
      ∀ bytes, transcript.value.1 = .ok bytes → transcript.value.2.accepts .read = true := by
  rw [continueRead_opened settings small]
  intro transcript
  refine ⟨pullAll_gathers settings peer state _ _ _, ?_, ?_⟩
  · exact pullAll_halts settings peer state ordinary _ _ total small rfl [] .start rfl
      (by simpa [brought] using le_mostRounds small) _
  · intro bytes given
    exact sound_run (pullAll_candid settings _ _ rfl) peer state given

theorem finalizeRead_course (ordinary : ∀ frame state, (peer.answer frame state).1.Ordinary)
    (transfer : Transfer) (open_ : transfer.accepts .read = true) :
    let transcript := (finalizeRead settings transfer).run peer state
    ∃ closing, transcript.events =
        [.sent (.later .read .finalize) (finalizeCommand settings .read).frame closing] ∧
      match transcript.value.1 with
      | .ok _ => ∃ response, closing.response? = some response
      | .error fault => ReadFault .close closing fault.failure.blamed := by
  intro transcript
  have fits : (finalizeCommand settings .read).data.length ≤ 255 := Nat.zero_le _
  have ran : transcript = (finalizeRead settings transfer).run peer state := rfl
  simp only [finalizeRead, open_, ↓reduceIte, Dialogue.map, exchangeIn_run _ _ _ fits] at ran
  rw [ran]
  refine ⟨_, rfl, ?_⟩
  cases given : received (peer.answer (finalizeCommand settings .read).frame state).1 with
  | error fault =>
      obtain ⟨after, relayed⟩ := transfer.exchanged_fault fault
      rw [relayed]
      exact readFault_received (ordinary _ _) given .close
  | ok response => exact ⟨response, (Reply.received_eq_ok_iff _ _).mp given⟩

end Transfer

end

end CardVault
