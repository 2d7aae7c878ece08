import CardVault.Proofs.OpenTransfer.Calls
import CardVault.Session.Call

/-!
Two conversations side by side. Paired dialogues ask the same of their peers, and go on to ask the same
as long as the card replies alike and the signer gives the same to both. Two runs of paired dialogues,
whoever answers in each, then ask the same from the first to the last and come to related outcomes, if
only what both have asked is answered alike.
-/

namespace CardVault

section

variable {α β γ δ σ τ : Type}

inductive Question where
  | frame (purpose : Purpose) (frame : Bytes)
  | signature (subject : Bytes)
deriving DecidableEq

namespace Event

def question : Event → Question
  | sent purpose frame _ => .frame purpose frame
  | signed subject _ => .signature subject

variable (alike : Purpose → Reply → Reply → Prop)

/-- The answers in two events that ask the same: replies have to be alike, signatures equal. -/
def Alike : Event → Event → Prop
  | sent purpose _ reply, sent _ _ answer => alike purpose reply answer
  | signed _ signature, signed _ other => signature = other
  | _, _ => False

-- Once the two sides have asked for different things there is nothing left to compare, so nothing is
-- said about the answers from then on.
/-- As long as both sides ask the same, they are answered alike. -/
def Matched : List Event → List Event → Prop
  | event :: rest, other :: more =>
      event.question = other.question → event.Alike alike other ∧ Matched rest more
  | _, _ => True

variable {alike}

theorem Matched.beginning {events others : List Event} (rest more : List Event)
    (matched : Matched alike (events ++ rest) (others ++ more)) : Matched alike events others := by
  induction events generalizing others with
  | nil => simp [Matched]
  | cons event events ih =>
      cases others with
      | nil => simp [Matched]
      | cons other others =>
          intro same
          obtain ⟨first, onward⟩ := matched same
          exact ⟨first, ih onward⟩

end Event

namespace Dialogue

inductive Paired (alike : Purpose → Reply → Reply → Prop) (related : α → β → Prop) :
    Dialogue α → Dialogue β → Prop where
  | done {value : α} {other : β} (holds : related value other) :
      Paired alike related (.done value) (.done other)
  | send {purpose : Purpose} {frame : Bytes} {next : Reply → Dialogue α} {rest : Reply → Dialogue β}
      (onward : ∀ reply answer, alike purpose reply answer →
        Paired alike related (next reply) (rest answer)) :
      Paired alike related (.send purpose frame next) (.send purpose frame rest)
  | sign {subject : Bytes} {next : Signature → Dialogue α} {rest : Signature → Dialogue β}
      (onward : ∀ signature, Paired alike related (next signature) (rest signature)) :
      Paired alike related (.sign subject next) (.sign subject rest)

variable {alike : Purpose → Reply → Reply → Prop} {related : α → β → Prop} {dialogue : Dialogue α}
  {twin : Dialogue β}

theorem paired_bind {wanted : γ → δ → Prop} {next : α → Dialogue γ} {rest : β → Dialogue δ}
    (first : Paired alike related dialogue twin)
    (second : ∀ value other, related value other → Paired alike wanted (next value) (rest other)) :
    Paired alike wanted (dialogue.bind next) (twin.bind rest) := by
  induction first with
  | done holds => exact second _ _ holds
  | send _ ih => exact .send ih
  | sign _ ih => exact .sign ih

theorem paired_map {wanted : γ → δ → Prop} {change : α → γ} {alter : β → δ}
    (first : Paired alike related dialogue twin)
    (enough : ∀ value other, related value other → wanted (change value) (alter other)) :
    Paired alike wanted (dialogue.map change) (twin.map alter) :=
  paired_bind first fun value other holds => .done (enough value other holds)

/-- Two runs of paired dialogues that are answered alike ask the same and come to related
outcomes. -/
theorem paired_run (paired : Paired alike related dialogue twin) (peer : Peer σ) (state : σ)
    (other : Peer τ) (start : τ)
    (matched : Event.Matched alike (dialogue.run peer state).events (twin.run other start).events) :
    related (dialogue.run peer state).value (twin.run other start).value ∧
      (dialogue.run peer state).events.map Event.question =
        (twin.run other start).events.map Event.question := by
  induction paired generalizing state start with
  | done holds => exact ⟨holds, rfl⟩
  | @send purpose frame next rest _ ih =>
      obtain ⟨same, further⟩ := matched rfl
      obtain ⟨outcome, questions⟩ := ih _ _ same _ _ further
      exact ⟨outcome, congrArg (Question.frame purpose frame :: ·) questions⟩
  | @sign subject next rest _ ih =>
      obtain ⟨same, further⟩ := matched rfl
      have equal : (peer.sign subject state).1 = (other.sign subject start).1 := same
      simp only [run, equal] at further ⊢
      obtain ⟨outcome, questions⟩ := ih _ _ _ further
      exact ⟨outcome, congrArg (Question.signature subject :: ·) questions⟩

end Dialogue

end

/-!
Bytes that a card adds for information only: how much more there is to come, data behind a success
that nobody asked for, and whatever it has to say at the end of a read. Two cards that differ in
nothing else cannot be told apart by what a session sends, signs, returns or becomes.
-/

section

open Dialogue

variable {α β σ τ : Type} {purpose : Purpose} {response answer : Response}

/-- Two answers that mean the same where they are given, though they may differ in advisory bytes. -/
inductive Response.Tantamount : Purpose → Response → Response → Prop where
  | same (purpose : Purpose) (response : Response) : Tantamount purpose response response
  | hint {data : Bytes} (filled : data ≠ []) {status other : StatusWord}
      (more : Word.high status = 0x61) (moreToo : Word.high other = 0x61) :
      Tantamount (.later .read .advance) ⟨data, status⟩ ⟨data, other⟩
  | opened (data other : Bytes) : Tantamount (.init .store) ⟨data, 0x9000⟩ ⟨other, 0x9000⟩
  | taken (step : LaterStep) (data other : Bytes) :
      Tantamount (.later .store step) ⟨data, 0x9000⟩ ⟨other, 0x9000⟩
  | announced (high low : UInt8) (rest other : Bytes) :
      Tantamount (.init .read) ⟨high :: low :: rest, 0x9000⟩ ⟨high :: low :: other, 0x9000⟩
  | closed (response answer : Response) : Tantamount (.later .read .finalize) response answer

def Reply.Tantamount (purpose : Purpose) (reply other : Reply) : Prop :=
  reply = other ∨ ∃ response answer, reply.response? = some response ∧
    other.response? = some answer ∧ response.Tantamount purpose answer

namespace Response.Tantamount

theorem status_eq (tantamount : response.Tantamount purpose answer)
    (other : ∀ step, purpose ≠ .later .read step) : response.status = answer.status := by
  cases tantamount with
  | same => rfl
  | hint => exact absurd rfl (other .advance)
  | opened => rfl
  | taken => rfl
  | announced => rfl
  | closed => exact absurd rfl (other .finalize)

theorem eq_of_fixed {operation : FixedOperation}
    (tantamount : response.Tantamount (.fixed operation) answer) : response = answer := by
  cases tantamount with
  | same => rfl

end Response.Tantamount

/-- A dialogue that advisory bytes do not sway: it comes to the same outcome with or without them. -/
def Dialogue.Unswayed (dialogue : Dialogue α) : Prop :=
  Paired Reply.Tantamount Eq dialogue dialogue

namespace Dialogue

variable {dialogue : Dialogue α}

theorem unswayed_done (value : α) : Unswayed (.done value) :=
  .done rfl

theorem unswayed_bind {next : α → Dialogue β} (first : Unswayed dialogue)
    (onward : ∀ value, Unswayed (next value)) : Unswayed (dialogue.bind next) := by
  apply paired_bind first
  rintro value _ rfl
  exact onward value

theorem unswayed_map {change : α → β} (first : Unswayed dialogue) :
    Unswayed (dialogue.map change) :=
  unswayed_bind first fun value => unswayed_done (change value)

theorem exchangeFor_paired {related : β → β → Prop} {command : Command}
    {next : Except Fault Response → Dialogue β}
    (answered : ∀ response answer, Response.Tantamount purpose response answer →
      Paired Reply.Tantamount related (next (.ok response)) (next (.ok answer)))
    (failed : ∀ fault, Paired Reply.Tantamount related (next (.error fault)) (next (.error fault))) :
    Paired Reply.Tantamount related ((exchangeFor purpose command).bind next)
      ((exchangeFor purpose command).bind next) := by
  unfold exchangeFor
  split
  · apply Paired.send
    rintro reply other (rfl | ⟨response, answer, given, givenToo, tantamount⟩)
    · simp only [Dialogue.bind]
      cases received reply with
      | ok response => exact answered response response (.same purpose response)
      | error fault => exact failed fault
    · simp only [Dialogue.bind, (Reply.received_eq_ok_iff _ _).mpr given,
        (Reply.received_eq_ok_iff _ _).mpr givenToo]
      exact answered response answer tantamount
  · exact failed _

theorem exchangeFor_unswayed {command : Command} {change : Except Fault Response → β}
    (same : ∀ response answer, Response.Tantamount purpose response answer →
      change (.ok response) = change (.ok answer)) :
    Unswayed ((exchangeFor purpose command).map change) :=
  exchangeFor_paired (fun response answer tantamount => .done (same response answer tantamount))
    fun _ => unswayed_done _

end Dialogue

namespace Transfer

variable (settings : Settings) (transfer : Transfer)

theorem beginStore_unswayed (key : RecordKey) : Unswayed (beginStore settings key) := by
  apply exchangeFor_unswayed
  intro response answer tantamount
  simp only [tantamount.status_eq (by simp)]

theorem beginRead_unswayed (envelope : Envelope) : Unswayed (beginRead settings envelope) := by
  unfold beginRead
  split
  · exact unswayed_done _
  · apply exchangeFor_unswayed
    intro response answer tantamount
    cases tantamount with
    | same => rfl
    | announced high low rest other => rfl

theorem exchangeIn_paired {related : β → β → Prop} {command : Command}
    {next : Except Fault Response × Transfer → Dialogue β}
    (answered : ∀ response answer, Response.Tantamount purpose response answer →
      Paired Reply.Tantamount related (next (.ok response, transfer)) (next (.ok answer, transfer)))
    (failed : ∀ fault after,
      Paired Reply.Tantamount related (next (.error fault, after)) (next (.error fault, after))) :
    Paired Reply.Tantamount related ((exchangeIn transfer purpose command).bind next)
      ((exchangeIn transfer purpose command).bind next) := by
  rw [exchangeIn, Dialogue.map, bind_assoc]
  apply exchangeFor_paired
  · exact answered
  · intro fault
    obtain ⟨after, ended⟩ := exchanged_fault transfer fault
    simp only [Dialogue.bind, ended]
    exact failed fault after

theorem pushAll_unswayed (chunks : List Bytes) : Unswayed (pushAll settings chunks transfer) := by
  induction chunks generalizing transfer with
  | nil => exact unswayed_done _
  | cons chunk rest ih =>
      apply exchangeIn_paired
      · intro response answer tantamount
        simp only [tantamount.status_eq (by simp)]
        split
        · exact ih _
        · exact unswayed_done _
      · exact fun _ _ => unswayed_done _

theorem continueStore_unswayed (payload : Bytes) :
    Unswayed (continueStore settings transfer payload) := by
  unfold continueStore
  split
  · exact pushAll_unswayed settings transfer _
  · exact unswayed_done _

theorem finalizeStore_unswayed : Unswayed (finalizeStore settings transfer) := by
  unfold finalizeStore
  split
  · apply exchangeIn_paired
    · intro response answer tantamount
      simp only [tantamount.status_eq (by simp)]
      exact unswayed_done _
    · exact fun _ _ => unswayed_done _
  · exact unswayed_done _

theorem pullAll_unswayed (rounds : Nat) (chunks : List Bytes) :
    Unswayed (pullAll settings rounds transfer chunks) := by
  induction rounds generalizing transfer chunks with
  | zero => exact unswayed_done _
  | succ rounds ih =>
      unfold pullAll
      split
      · apply exchangeIn_paired
        · intro response answer tantamount
          cases tantamount with
          | same =>
              dsimp only
              split
              · exact unswayed_done _
              · split
                · exact unswayed_done _
                · exact ih _ _
              · exact unswayed_done _
          | hint filled more moreToo =>
              simp only [StatusWord.kind_of_high more, StatusWord.kind_of_high moreToo, filled,
                ↓reduceIte]
              exact ih _ _
        · exact fun _ _ => unswayed_done _
      · exact unswayed_done _

theorem continueRead_unswayed : Unswayed (continueRead settings transfer) := by
  unfold continueRead
  split
  · split
    · exact pullAll_unswayed settings transfer _ _
    · exact unswayed_done _
  · exact unswayed_done _

def EndedAlike (result other : Except Fault Bool × Transfer) : Prop :=
  result = other ∨ ∃ welcome otherwise after,
    result = (.ok welcome, after) ∧ other = (.ok otherwise, after)

theorem finalizeRead_paired :
    Paired Reply.Tantamount EndedAlike (finalizeRead settings transfer)
      (finalizeRead settings transfer) := by
  unfold finalizeRead
  split
  · apply exchangeIn_paired
    · intro response answer _
      exact .done (Or.inr ⟨_, _, _, rfl, rfl⟩)
    · exact fun _ _ => .done (Or.inl rfl)
  · exact .done (Or.inl rfl)

end Transfer

namespace FixedRecord

variable (settings : Settings)

theorem request_unswayed (operation : FixedOperation) (data : Bytes) :
    Unswayed (request settings operation data) := by
  apply exchangeFor_unswayed
  intro response answer tantamount
  rw [tantamount.eq_of_fixed]

theorem store_unswayed (username address : Text) (message : Bytes) :
    Unswayed (store settings username address message) := by
  unfold store
  split
  · exact unswayed_done _
  · exact unswayed_map (request_unswayed settings _ _)

end FixedRecord

theorem Authorizer.sign_unswayed (authorizer : Authorizer) (canonical : Bytes) :
    Unswayed (authorizer.sign canonical) := by
  unfold sign
  split
  · exact .sign fun signature => unswayed_done _
  · exact unswayed_done _

theorem FixedRecord.signed_request_unswayed (settings : Settings) (authorizer : Authorizer)
    (username address : Text) {operation : FixedOperation}
    {change : Except Fault Response → Except Fault α} :
    Unswayed (signedRequest settings authorizer username address operation change) := by
  apply unswayed_bind
  · unfold signedName
    split
    · exact unswayed_done _
    · exact unswayed_map (authorizer.sign_unswayed _)
  · intro named
    cases named with
    | ok data => exact unswayed_map (request_unswayed settings _ _)
    | error fault => exact unswayed_done _

namespace Session

variable {session : Session}

theorem whenFree_unswayed {body : Dialogue (Except Fault α × Session)} (unswayed : Unswayed body) :
    Unswayed (session.whenFree body) := by
  unfold whenFree
  split
  · split
    · exact unswayed_done _
    · exact unswayed_map unswayed
  · exact unswayed_done _

theorem whenActive_unswayed {body : Transfer → Dialogue (Except Fault α × Session)}
    (unswayed : ∀ transfer, Unswayed (body transfer)) : Unswayed (session.whenActive body) := by
  unfold whenActive
  split
  · split
    · exact unswayed_map (unswayed _)
    · exact unswayed_done _
  · exact unswayed_done _

theorem andThen_unswayed {first : Dialogue (Outcome α × Session)}
    {next : α → Session → Dialogue (Outcome β × Session)} (begun : Unswayed first)
    (onward : ∀ value after, Unswayed (next value after)) : Unswayed (andThen first next) := by
  apply unswayed_bind begun
  rintro ⟨outcome, after⟩
  cases outcome with
  | ok value => exact onward value after
  | error failure => exact unswayed_done _

variable (session)

theorem beginStore_unswayed (key : RecordKey) : Unswayed (session.beginStore key) :=
  whenFree_unswayed (unswayed_map (Transfer.beginStore_unswayed session.settings key))

theorem continueStore_unswayed (payload : Bytes) : Unswayed (session.continueStore payload) :=
  whenActive_unswayed fun transfer =>
    unswayed_map (transfer.continueStore_unswayed session.settings payload)

theorem finalizeStore_unswayed : Unswayed session.finalizeStore :=
  whenActive_unswayed fun transfer =>
    unswayed_map (transfer.finalizeStore_unswayed session.settings)

theorem beginRead_unswayed (key : RecordKey) : Unswayed (session.beginRead key) := by
  apply whenFree_unswayed
  apply unswayed_bind (unswayed_map (session.authorizer.sign_unswayed key.canonical))
  intro authorized
  cases authorized with
  | ok envelope => exact unswayed_map (Transfer.beginRead_unswayed session.settings envelope)
  | error fault => exact unswayed_done _

theorem continueRead_unswayed : Unswayed session.continueRead :=
  whenActive_unswayed fun transfer =>
    unswayed_map (transfer.continueRead_unswayed session.settings)

theorem finalizeRead_unswayed : Unswayed session.finalizeRead := by
  apply whenActive_unswayed
  intro transfer
  apply paired_map (transfer.finalizeRead_paired session.settings)
  rintro result other (rfl | ⟨welcome, otherwise, after, rfl, rfl⟩)
  · rfl
  · rfl

theorem store_unswayed (key : RecordKey) (payload : Bytes) : Unswayed (session.store key payload) :=
  andThen_unswayed (session.beginStore_unswayed key) fun _ begun =>
    andThen_unswayed (begun.continueStore_unswayed payload) fun _ moved =>
      moved.finalizeStore_unswayed

theorem read_unswayed (key : RecordKey) : Unswayed (session.read key) :=
  andThen_unswayed (session.beginRead_unswayed key) fun _ begun =>
    andThen_unswayed begun.continueRead_unswayed fun _ moved => moved.finalizeRead_unswayed

theorem perform_unswayed (call : Call) : Unswayed (session.perform call) := by
  cases call with
  | beginStore key => exact unswayed_map (session.beginStore_unswayed key)
  | continueStore payload => exact unswayed_map (session.continueStore_unswayed payload)
  | finalizeStore => exact unswayed_map session.finalizeStore_unswayed
  | beginRead key => exact unswayed_map (session.beginRead_unswayed key)
  | continueRead => exact unswayed_map session.continueRead_unswayed
  | finalizeRead => exact unswayed_map session.finalizeRead_unswayed
  | store key payload => exact unswayed_map (session.store_unswayed key payload)
  | read key => exact unswayed_map (session.read_unswayed key)
  | storeFixed username address message =>
      exact unswayed_map (whenFree_unswayed (unswayed_map (FixedRecord.store_unswayed ..)))
  | readFixed username address =>
      exact unswayed_map (whenFree_unswayed (unswayed_map
        (FixedRecord.signed_request_unswayed ..)))
  | deleteFixed username address =>
      exact unswayed_map (whenFree_unswayed (unswayed_map
        (FixedRecord.signed_request_unswayed ..)))
  | abort => exact unswayed_done _
  | reset => exact unswayed_done _

theorem performAll_unswayed (calls : List Call) : Unswayed (session.performAll calls) := by
  induction calls generalizing session with
  | nil => exact unswayed_done _
  | cons call calls ih =>
      apply unswayed_bind (session.perform_unswayed call)
      rintro ⟨result, after⟩
      exact unswayed_map (ih after)

theorem performAll_beginning (peer : Peer σ) (state : σ) (calls later : List Call) :
    ∃ rest, ((session.performAll (calls ++ later)).run peer state).events =
      ((session.performAll calls).run peer state).events ++ rest := by
  induction calls generalizing session state with
  | nil => exact ⟨_, rfl⟩
  | cons call calls ih =>
      let transcript := (session.perform call).run peer state
      obtain ⟨rest, split⟩ := ih transcript.value.2 transcript.peer
      refine ⟨rest, ?_⟩
      simp only [List.cons_append, performAll, run_bind, run_map, List.append_assoc]
      rw [split]

/-- Advisory bytes have no influence. If what is asked in both of two runs of the same calls is
answered the same but for advisory bytes, the runs ask the same in the same order, return the same
results and go through the same sessions, call after call. -/
theorem advisory_bytes_inert (session : Session) (calls : List Call) (first : Peer σ) (here : σ)
    (second : Peer τ) (there : τ)
    (matched : Event.Matched Reply.Tantamount ((session.performAll calls).run first here).events
      ((session.performAll calls).run second there).events) :
    ∀ done, done <+: calls →
      let run := (session.performAll done).run first here
      let twin := (session.performAll done).run second there
      run.value = twin.value ∧
        run.events.map Event.question = twin.events.map Event.question := by
  rintro done ⟨later, rfl⟩
  obtain ⟨rest, split⟩ := session.performAll_beginning first here done later
  obtain ⟨more, splitToo⟩ := session.performAll_beginning second there done later
  rw [split, splitToo] at matched
  exact paired_run (session.performAll_unswayed done) first here second there
    (matched.beginning rest more)

def talkative (hint : UInt8) (aside : Bytes) : Peer Nat where
  answer frame before :=
    (if frame.getD 1 0 = 0x20 then .ofBytes ([0, 3] ++ aside ++ [0x90, 0])
      else if frame.getD 1 0 = 0x21 then .ofBytes [7, UInt8.ofNat before, 0x61, hint]
      else .ofBytes (aside ++ [0x69, hint]), before + 1)
  sign _ before := (.ok [], before)

theorem talkative_cards_read_alike :
    let run := ((standard false).performAll [.read sampleKey]).run (talkative 5 []) 0
    let twin := ((standard false).performAll [.read sampleKey]).run (talkative 9 [1]) 0
    Event.Matched Reply.Tantamount run.events twin.events ∧ run.value = twin.value ∧
      run.events.map Event.question = twin.events.map Event.question := by
  intro run twin
  have matched : Event.Matched Reply.Tantamount run.events twin.events := by
    intro _
    refine ⟨Or.inr ⟨_, _, rfl, rfl, .announced 0 3 [] [1]⟩, fun _ => ?_⟩
    refine ⟨Or.inr ⟨_, _, rfl, rfl, .hint (by simp) rfl rfl⟩, fun _ => ?_⟩
    refine ⟨Or.inr ⟨_, _, rfl, rfl, .hint (by simp) rfl rfl⟩, fun _ => ?_⟩
    exact ⟨Or.inr ⟨_, _, rfl, rfl, .closed _ _⟩, trivial⟩
  exact ⟨matched, advisory_bytes_inert (standard false) [.read sampleKey] (talkative 5 []) 0
    (talkative 9 [1]) 0 matched _ (List.prefix_refl _)⟩

end Session

end

end CardVault
