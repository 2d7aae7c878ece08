import CardVault.Proofs.OpenTransfer.Calls
import CardVault.Proofs.Raised.Calls
import CardVault.Proofs.Unsigned
import CardVault.Session.Call

/-!
History independence. A usable session without an open transfer behaves as a new one does, whatever
has happened to it, for nothing of its past is left in it: no collected bytes, no setting changed. So
does any session that has been reset, and any usable one that has been aborted.
-/

namespace CardVault

namespace Session

open Dialogue

variable {σ : Type} {session : Session} {settings : Settings} {hasSigner : Bool}

/-- Nobody can tell the two sessions apart: they show the same now, and whatever is called on them
from now on, facing the same card and signer, shows the same. -/
def Indistinct (first second : Session) : Prop :=
  first.view = second.view ∧ ∀ {τ : Type} (peer : Peer τ) (state : τ) (calls : List Call),
    first.turns peer state calls = second.turns peer state calls

theorem afterCalls_settled (peer : Peer σ) (session : Session) (state : σ) (calls : List Call) :
    (session.afterCalls peer state calls).settings = session.settings ∧
      (session.afterCalls peer state calls).hasSigner = session.hasSigner := by
  induction calls generalizing session state with
  | nil => exact ⟨rfl, rfl⟩
  | cons call calls ih =>
      obtain ⟨sameSettings, sameSigner, _⟩ := perform_latches peer state session call
      rw [afterCalls_cons]
      obtain ⟨settled, signer⟩ := ih ((session.perform call).run peer state).value.2
        ((session.perform call).run peer state).peer
      exact ⟨settled.trans sameSettings, signer.trans sameSigner⟩

theorem eq_of_create (created : create settings hasSigner = .ok session) {other : Session}
    (sameSettings : other.settings = session.settings)
    (sameSigner : other.hasSigner = session.hasSigner) (free : other.active = none)
    (empty : other.collected = []) (usable : other.usable = true) : other = session := by
  unfold create at created
  split at created
  · cases created
    cases other
    simp_all
  · cases created

/-- History does not matter: a session that is usable and has no open transfer behaves as a new one,
and so does one after a reset, and a usable one after an abort. -/
theorem history_independent (created : create settings hasSigner = .ok session) (peer : Peer σ)
    (state : σ) (calls : List Call) :
    let reached := session.afterCalls peer state calls
    (reached.usable = true → reached.active = none → reached.Indistinct session) ∧
      reached.reset.Indistinct session ∧
      (reached.usable = true → reached.abort.Indistinct session) := by
  intro reached
  obtain ⟨sameSettings, sameSigner⟩ := session.afterCalls_settled peer state calls
  have renewed {other : Session} (same : other = session) : other.Indistinct session := by
    rw [same]
    exact ⟨rfl, fun _ _ _ => rfl⟩
  refine ⟨fun usable free => renewed ?_, renewed ?_, fun usable => renewed ?_⟩
  · -- Without an open transfer, nothing is collected.
    have accords := history_accords peer state calls (create_accords created)
    have empty : reached.collected = [] := by
      simpa only [Accords, reached, free] using accords
    exact eq_of_create created sameSettings sameSigner free empty usable
  · exact eq_of_create created sameSettings sameSigner rfl rfl rfl
  · exact eq_of_create created sameSettings sameSigner rfl rfl usable

def turnsAway : Peer Nat where
  answer _ before :=
    (if before = 0 then .ofBytes [0, 9, 0x90, 0] else .ofBytes [0x69, 0x85], before + 1)
  sign _ before := (.ok [], before)

theorem new_after_failed_read :
    let reached := (standard false).afterCalls turnsAway 0 [.beginRead sampleKey, .continueRead]
    reached.usable = true ∧ reached.active = none ∧ reached.Indistinct (standard false) := by
  intro reached
  have usable : reached.usable = true := rfl
  have free : reached.active = none := rfl
  exact ⟨usable, free, (history_independent (create_standard false) turnsAway 0
    [.beginRead sampleKey, .continueRead]).1 usable free⟩

end Session

/-!
Rejected reads. A card that rejects the INIT of a read gives away a status word and nothing else: what
it sends along, and which word it is, shows neither in what is sent and signed nor in the wording of
the failure nor in the session that is left. So a rejection does not tell whether a record exists.
-/

section

open Dialogue

variable {σ τ : Type}

/-- A card rejects the INIT of a read with a status word, whatever data it adds. -/
def RejectedWith (events : List Event) (status : StatusWord) : Prop :=
  status ≠ 0x9000 ∧ ∃ frame reply data,
    .sent (.init .read) frame reply ∈ events ∧ reply.response? = some ⟨data, status⟩

theorem Transfer.beginRead_rejected (settings : Settings) {envelope : Envelope} {data : Bytes}
    (wire : envelope.wire = .ok data) (peer : Peer σ) (state : σ) {status : StatusWord}
    (rejected : RejectedWith ((beginRead settings envelope).run peer state).events status) :
    let transcript := (beginRead settings envelope).run peer state
    transcript.value = .error (.protocol (.initRejected .read status)) ∧ ∃ reply,
      transcript.events = [.sent (.init .read) (initCommand settings .read data).frame reply] := by
  obtain ⟨refused, frame, reply, extra, sent, answer⟩ := rejected
  simp only [beginRead, wire, exchangeFor] at sent ⊢
  cases encoded : (initCommand settings .read data).encode with
  | error error =>
      rw [encoded] at sent
      cases sent
  | ok bytes =>
      obtain ⟨_, rfl⟩ := (Command.encode_eq_ok_iff _ _).mp encoded
      rw [encoded] at sent
      cases List.mem_singleton.mp sent
      have unsuccessful : ¬ status.isSuccess = true :=
        fun success => refused ((StatusWord.isSuccess_iff_eq status).mp success)
      have given := (Reply.received_eq_ok_iff _ _).mpr answer
      simp only [Dialogue.map, Dialogue.bind, run, given, unsuccessful, Bool.false_eq_true,
        ↓reduceIte, true_and]
      exact ⟨_, rfl⟩

namespace Session

variable {session : Session} {key : RecordKey} {status : StatusWord} (peer : Peer σ) (state : σ)

def subject (session : Session) (key : RecordKey) : Bytes :=
  Authorizer.subject session.settings.digestPolicy key.canonical

def signature (session : Session) (key : RecordKey) (peer : Peer σ) (state : σ) : Signature :=
  if session.hasSigner then (peer.sign (session.subject key) state).1 else .ok []

def consulted (session : Session) (key : RecordKey) (signature : Signature) : List Event :=
  if session.hasSigner then [.signed (session.subject key) signature] else []

theorem consulted_unsent (signature : Signature) {purpose : Purpose} {frame : Bytes}
    {reply : Reply} : .sent purpose frame reply ∉ session.consulted key signature := by
  unfold consulted
  split <;> simp

theorem sign_run (session : Session) (key : RecordKey) :
    let transcript := (session.authorizer.sign key.canonical).run peer state
    transcript.value = session.signature key peer state ∧
      transcript.events = session.consulted key (session.signature key peer state) := by
  unfold Authorizer.sign signature consulted
  by_cases signer : session.hasSigner = true
  · have asks : session.authorizer.hasSigner = true := signer
    simp only [asks, signer, ↓reduceIte]
    exact ⟨rfl, rfl⟩
  · have asks : ¬ session.authorizer.hasSigner = true := signer
    simp only [asks, signer]
    exact ⟨rfl, rfl⟩

theorem authorize_run (session : Session) (key : RecordKey) :
    let transcript := (session.authorizer.authorize key).run peer state
    transcript.events = session.consulted key (session.signature key peer state) ∧
      ((∃ fault, transcript.value = .error fault) ∨
        ∃ bytes, session.signature key peer state = .ok bytes ∧
          (Envelope.mk key bytes).wire = .ok (key.wire ++ Field.encode bytes) ∧
          transcript.value = .ok ⟨key, bytes⟩) := by
  obtain ⟨given, passed⟩ := session.sign_run peer state key
  simp only [Authorizer.authorize, run_map, given, passed, true_and]
  cases session.signature key peer state with
  | error fault => exact Or.inl ⟨fault, rfl⟩
  | ok bytes =>
      by_cases long : bytes.length > 255
      · simp only [long, ↓reduceIte]
        exact Or.inl ⟨_, rfl⟩
      · simp only [long, ↓reduceIte]
        exact Or.inr ⟨bytes, rfl, Envelope.wire_short (Nat.not_lt.mp long), rfl⟩

/-- What is left of a read whose INIT has been rejected: the request and its failure. All but the
status and the reply follows from the session, the key and the signature. -/
structure Rejection {α : Type} (session : Session) (key : RecordKey) (signature : Signature)
    (status : StatusWord) (transcript : Transcript σ (Outcome α × Session)) : Prop where
  value : transcript.value =
    (.error ⟨.initRejected, some status, text "Read INIT rejected"⟩, session.abort)
  events : ∃ bytes reply, signature = .ok bytes ∧
    transcript.events = session.consulted key signature ++
      [.sent (.init .read) (Transfer.initCommand session.settings .read
        (key.wire ++ Field.encode bytes)).frame reply]

theorem beginRead_rejection (free : session.Free)
    (rejected : RejectedWith ((session.beginRead key).run peer state).events status) :
    session.Rejection key (session.signature key peer state) status
      ((session.beginRead key).run peer state) := by
  obtain ⟨consulted, authorized⟩ := session.authorize_run peer state key
  obtain ⟨refused, frame, reply, data, sent, answer⟩ := rejected
  simp only [beginRead, whenFree_eq free.1 free.2, run_map, run_bind, consulted] at sent
  have opening := (List.mem_append.mp sent).resolve_left (consulted_unsent _)
  rcases authorized with ⟨fault, failed⟩ | ⟨bytes, given, wire, authorized⟩
  · simp only [failed, run] at opening
    cases opening
  · simp only [authorized, run_map] at opening
    obtain ⟨value, last, events⟩ := Transfer.beginRead_rejected session.settings wire peer _
      ⟨refused, frame, reply, data, opening, answer⟩
    constructor
    · simp only [beginRead, whenFree_eq free.1 free.2, run_map, run_bind, authorized, value]
      rfl
    · refine ⟨bytes, last, given, ?_⟩
      simp only [beginRead, whenFree_eq free.1 free.2, run_map, run_bind, consulted, authorized,
        events]

theorem read_rejection (free : session.Free)
    (rejected : RejectedWith ((session.read key).run peer state).events status) :
    session.Rejection key (session.signature key peer state) status
      ((session.read key).run peer state) := by
  cases result : ((session.beginRead key).run peer state).value with
  | mk outcome begun =>
      cases outcome with
      | error failure =>
          rw [read, andThen_run_error peer state result] at rejected ⊢
          obtain ⟨value, events⟩ := beginRead_rejection peer state free rejected
          cases result.symm.trans value
          exact ⟨rfl, events⟩
      | ok opened =>
          -- A read that was opened sends no other INIT, so none of it has been rejected.
          simp only [read, andThen_run_ok peer state result] at rejected
          obtain ⟨refused, frame, reply, data, sent, answer⟩ := rejected
          rcases List.mem_append.mp sent with opening | later
          · obtain ⟨value, _⟩ := beginRead_rejection peer state free
              ⟨refused, frame, reply, data, opening, answer⟩
            cases result.symm.trans value
          · have plain := (unsigned_run begun.drain_plain peer _).2 _ _ _ later
            cases plain

def Reads (key : RecordKey) (call : Call) : Prop :=
  call = .beginRead key ∨ call = .read key

theorem perform_rejection (free : session.Free) {call : Call} (reads : Reads key call)
    (rejected : RejectedWith ((session.perform call).run peer state).events status) :
    let transcript := (session.perform call).run peer state
    transcript.value =
        (some (.error ⟨.initRejected, some status, text "Read INIT rejected"⟩), session.abort) ∧
      ∃ bytes reply, session.signature key peer state = .ok bytes ∧
        transcript.events = session.consulted key (session.signature key peer state) ++
          [.sent (.init .read) (Transfer.initCommand session.settings .read
            (key.wire ++ Field.encode bytes)).frame reply] := by
  rcases reads with rfl | rfl
  · simp only [perform, shown, run_map] at rejected ⊢
    obtain ⟨value, events⟩ := beginRead_rejection peer state free rejected
    rw [value]
    exact ⟨rfl, events⟩
  · simp only [perform, shown, run_map] at rejected ⊢
    obtain ⟨value, events⟩ := read_rejection peer state free rejected
    rw [value]
    exact ⟨rfl, events⟩

/-- Rejected reads cannot be told apart but by the status word. If a read is rejected in two runs, by
cards that may give different words and send along whatever they like, and the signer gives the same
signatures, then the frames, the signed bytes, the wording and the session that is left are the same,
so that nothing that is called on it later can tell the runs apart. -/
theorem rejections_indistinct (session : Session) (free : session.Free) (key : RecordKey)
    (call : Call) (reads : Reads key call) (first : Peer σ) (here : σ) (second : Peer τ) (there : τ)
    (signers : ∀ subject, (first.sign subject here).1 = (second.sign subject there).1)
    (status other : StatusWord)
    (rejected : RejectedWith ((session.perform call).run first here).events status)
    (rejectedToo : RejectedWith ((session.perform call).run second there).events other) :
    let run := (session.perform call).run first here
    let twin := (session.perform call).run second there
    run.sent = twin.sent ∧ run.signed = twin.signed ∧
      (∃ message, run.value.1 = some (.error ⟨.initRejected, some status, message⟩) ∧
        twin.value.1 = some (.error ⟨.initRejected, some other, message⟩)) ∧
      run.value.2 = twin.value.2 ∧ run.value.2.Indistinct twin.value.2 := by
  intro run twin
  obtain ⟨value, bytes, reply, given, events⟩ := perform_rejection first here free reads rejected
  obtain ⟨valueToo, bytesToo, replyToo, givenToo, eventsToo⟩ :=
    perform_rejection second there free reads rejectedToo
  have sameSignature : session.signature key first here = session.signature key second there := by
    simp only [signature, signers]
  have sameLeft : run.value.2 = twin.value.2 :=
    (congrArg Prod.snd value).trans (congrArg Prod.snd valueToo).symm
  rw [← sameSignature] at givenToo eventsToo
  cases given.symm.trans givenToo
  refine ⟨?_, ?_, ⟨_, congrArg Prod.fst value, congrArg Prod.fst valueToo⟩, sameLeft, ?_⟩
  · simp only [run, twin, Transcript.sent, events, eventsToo, List.filterMap_append]
    rfl
  · simp only [run, twin, Transcript.signed, events, eventsToo, List.filterMap_append]
    rfl
  · rw [sameLeft]
    exact ⟨rfl, fun _ _ _ => rfl⟩

theorem unknown_or_withheld :
    let run := ((standard true).perform (.read sampleKey)).run
      (.steady (.ofBytes [0x6A, 0x83]) (.ok [5])) ()
    let twin := ((standard true).perform (.read sampleKey)).run
      (.steady (.ofBytes [1, 2, 3, 0x61, 0x10]) (.ok [5])) ()
    RejectedWith run.events 0x6A83 ∧ RejectedWith twin.events 0x6110 ∧
      run.sent = twin.sent ∧ run.signed = twin.signed ∧
      (∃ message, run.value.1 = some (.error ⟨.initRejected, some 0x6A83, message⟩) ∧
        twin.value.1 = some (.error ⟨.initRejected, some 0x6110, message⟩)) ∧
      run.value.2 = twin.value.2 ∧ run.value.2.Indistinct twin.value.2 := by
  intro run twin
  have request (reply : Reply) : .sent (.init .read) [0x80, 0x20, 0, 0, 6, 1, 117, 1, 97, 1, 5] reply ∈
      [Event.signed [117, 97] (.ok [5]),
        .sent (.init .read) [0x80, 0x20, 0, 0, 6, 1, 117, 1, 97, 1, 5] reply] := by simp
  have rejected : RejectedWith run.events 0x6A83 := ⟨by decide, _, _, [], request _, rfl⟩
  have rejectedToo : RejectedWith twin.events 0x6110 := ⟨by decide, _, _, [1, 2, 3], request _, rfl⟩
  exact ⟨rejected, rejectedToo, rejections_indistinct (standard true) ⟨rfl, rfl⟩ sampleKey
    (.read sampleKey) (Or.inr rfl) (.steady (.ofBytes [0x6A, 0x83]) (.ok [5])) ()
    (.steady (.ofBytes [1, 2, 3, 0x61, 0x10]) (.ok [5])) () (fun _ => rfl) 0x6A83 0x6110
    rejected rejectedToo⟩

end Session

end

end CardVault
