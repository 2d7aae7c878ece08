import CardVault.Proofs.Plan
import CardVault.Session.Call
import CardVault.Transfer.Steps

/-!
A store that is continued in two calls instead of one. Where the first call is given a whole number
of chunks, the card is sent the same chunks, and so the two cannot be told apart by anything that
comes of them, failures included.
-/

namespace CardVault

namespace Transfer

open Dialogue

variable {σ : Type} {settings : Settings} {transfer : Transfer}

def goOn (settings : Settings) (payload : Bytes) :
    Except Fault Unit × Transfer → Dialogue (Except Fault Unit × Transfer)
  | (.ok (), after) => continueStore settings after payload
  | (.error fault, after) => .done (.error fault, after)

theorem pushAll_append (open_ : transfer.accepts .store = true) (chunks : List Bytes)
    (payload : Bytes) :
    pushAll settings (chunks ++ slices settings.chunkSize.toNat payload) transfer =
      (pushAll settings chunks transfer).bind (goOn settings payload) := by
  induction chunks generalizing transfer with
  | nil => exact (if_pos open_).symm
  | cons chunk rest ih =>
      simp only [List.cons_append, pushAll, exchangeIn, Dialogue.map, bind_assoc]
      congr 1
      funext outcome
      cases outcome with
      | error fault => cases fault <;> rfl
      | ok response =>
          by_cases success : response.status.isSuccess = true
          · simp only [exchanged, Dialogue.bind, success, ↓reduceIte]
            exact ih (moving_accepts chunk.length open_)
          · simp only [exchanged, Dialogue.bind, success]
            rfl

theorem continueStore_append (accepted : settings.check = .ok ())
    (open_ : transfer.accepts .store = true) {first : Bytes}
    (whole : settings.chunkSize.toNat ∣ first.length) (second : Bytes) :
    continueStore settings transfer (first ++ second) =
      (continueStore settings transfer first).bind (goOn settings second) := by
  have positive := (Settings.check_chunkSize accepted).1
  have opened (payload : Bytes) : continueStore settings transfer payload =
      pushAll settings (slices settings.chunkSize.toNat payload) transfer := if_pos open_
  rw [opened, opened, slices_append _ positive first second whole, pushAll_append open_]

/-- Cutting the payload of a store after a whole number of chunks changes nothing: not what is sent,
not the state that is left, and not the failure, whatever peer there is. -/
theorem store_cut_unnoticed (accepted : settings.check = .ok ())
    (open_ : transfer.accepts .store = true) (first second : Bytes)
    (whole : settings.chunkSize.toNat ∣ first.length) (peer : Peer σ) (state : σ) :
    let once := (continueStore settings transfer (first ++ second)).run peer state
    let part := (continueStore settings transfer first).run peer state
    (∀ fault after, part.value = (.error fault, after) → once = part) ∧
      ∀ after, part.value = (.ok (), after) →
        let rest := (continueStore settings after second).run peer part.peer
        once = ⟨rest.value, part.events ++ rest.events, rest.peer⟩ := by
  intro once part
  have same : once =
      let rest := (goOn settings second part.value).run peer part.peer
      ⟨rest.value, part.events ++ rest.events, rest.peer⟩ := by
    simp only [once, continueStore_append accepted open_ whole second, run_bind, part]
  constructor
  · intro fault after failed
    rw [same, failed]
    simp only [goOn, run, List.append_nil, ← failed]
  · intro after passed
    rw [same, passed]
    rfl

def takesOne : Peer Nat where
  answer _ before := (if before = 0 then .ofBytes [0x90, 0] else .ofBytes [0x6A, 0x84], before + 1)
  sign _ before := (.ok [], before)

theorem refusal_behind_cut_names_offset :
    let settings : Settings := { chunkSize := 2 }
    let begun : Transfer := ⟨.store, .init, 0, none, 0⟩
    let grown : Transfer := ⟨.store, .continuing, 2, none, 0⟩
    let once := (continueStore settings begun ([1, 2] ++ [3])).run takesOne 0
    let part := (continueStore settings begun [1, 2]).run takesOne 0
    once.value.1 = .error (.protocol (.chunkRejected .store 2 0x6A84)) ∧
      part.value = (.ok (), grown) ∧
      let rest := (continueStore settings grown [3]).run takesOne part.peer
      once = ⟨rest.value, part.events ++ rest.events, rest.peer⟩ := by
  intro settings begun grown once part
  have passed : part.value = (.ok (), grown) := by
    have cut : slices 2 [1, 2] = [[1, 2]] := by simp [slices]
    have sends : part = (pushAll settings [[1, 2]] begun).run takesOne 0 := by
      rw [← cut]
      rfl
    rw [sends]
    rfl
  have same := (store_cut_unnoticed (show settings.check = .ok () from rfl)
    (show begun.accepts .store = true from rfl) [1, 2] [3] ⟨1, rfl⟩ takesOne 0).2 _ passed
  refine ⟨?_, passed, same⟩
  have cut : slices 2 ([1, 2] ++ [3]) = [[1, 2], [3]] := by simp [slices]
  have sends : once = (pushAll settings [[1, 2], [3]] begun).run takesOne 0 := by
    rw [← cut]
    rfl
  rw [sends]
  rfl

end Transfer

/-!
A store against any card. The plan of a store is INIT, one CONTINUE for each slice of the payload,
and FINALIZE; what the card answers decides only how far the plan is followed, and what is reported.
-/

section

open Dialogue

variable {α σ : Type}

/-- The payload cut into pieces of one size, of which only the last may be shorter. -/
structure Cut (size : Nat) (payload : Bytes) (chunks : List Bytes) : Prop where
  whole : chunks.flatten = payload
  number : chunks.length = (payload.length + size - 1) / size
  full : ∀ chunk ∈ chunks.dropLast, chunk.length = size
  bounded : ∀ chunk ∈ chunks, 1 ≤ chunk.length ∧ chunk.length ≤ size

theorem slices_cut (size : Nat) (positive : 0 < size) (payload : Bytes) :
    Cut size payload (slices size payload) where
  whole := slices_flatten size payload
  number := slices_length size positive payload
  full := slices_full size positive payload
  bounded := slices_bounded size positive payload

def chunkPlan (settings : Settings) (chunk : Bytes) : Planned where
  purpose := .later .store .advance
  command := ⟨settings.cla, settings.storeCodes.advance, 0, 0, chunk, none⟩
  refusal := .chunkRejected

def storePlan (settings : Settings) (key : RecordKey) (chunks : List Bytes) : List Planned :=
  [⟨.init .store, ⟨settings.cla, settings.storeCodes.init, 0, 0, key.spelled, none⟩,
      .initRejected⟩] ++
    (chunks.map (chunkPlan settings) ++
      [⟨.later .store .finalize, ⟨settings.cla, settings.storeCodes.finalize, 0, 0, [], none⟩,
        .finalizeFailed⟩])

namespace Transfer

def complaint : Except Fault α → Option Failure
  | .ok _ => none
  | .error fault => some fault.failure

variable (settings : Settings) (peer : Peer σ) (state : σ)

theorem beginStore_walk (key : RecordKey) (fits : key.wire.length ≤ 255) :
    let transcript := (beginStore settings key).run peer state
    Walk [⟨.init .store, initCommand settings .store key.wire, .initRejected⟩]
        transcript.events (complaint transcript.value) ∧
      ∀ transfer, transcript.value = .ok transfer → transfer.accepts .store = true := by
  intro transcript
  have ran : transcript = (beginStore settings key).run peer state := rfl
  simp only [beginStore, exchangeFor_fits _ (initCommand settings .store key.wire) fits,
    Dialogue.map, Dialogue.bind, run] at ran
  rw [ran]
  cases given : received (peer.answer (initCommand settings .store key.wire).frame state).1 with
  | error fault => exact ⟨Walk.lost given, fun _ opened => by cases opened⟩
  | ok response =>
      by_cases success : response.status.isSuccess = true
      · simp only [success, ↓reduceIte]
        refine ⟨Walk.accepted given success Walk.finished, ?_⟩
        intro transfer opened
        cases opened
        rfl
      · simp only [success, Bool.false_eq_true, ↓reduceIte]
        exact ⟨Walk.refused given success rfl rfl, fun _ opened => by cases opened⟩

theorem pushAll_walk (chunks : List Bytes) (fit : ∀ chunk ∈ chunks, chunk.length ≤ 255)
    (transfer : Transfer) (open_ : transfer.accepts .store = true) :
    let transcript := (pushAll settings chunks transfer).run peer state
    Walk (chunks.map (chunkPlan settings)) transcript.events (complaint transcript.value.1) ∧
      (transcript.value.1 = .ok () → transcript.value.2.accepts .store = true) := by
  induction chunks generalizing transfer state with
  | nil => exact ⟨Walk.finished, fun _ => open_⟩
  | cons chunk rest ih =>
      intro transcript
      have fits : (chunkCommand settings chunk).data.length ≤ 255 := fit chunk List.mem_cons_self
      have ran : transcript = (pushAll settings (chunk :: rest) transfer).run peer state := rfl
      rw [pushAll, exchangeIn_run _ _ _ fits] at ran
      rw [ran]
      dsimp only
      cases given : received (peer.answer (chunkCommand settings chunk).frame state).1 with
      | error fault =>
          obtain ⟨after, failed⟩ := transfer.exchanged_fault fault
          rw [failed]
          exact ⟨Walk.lost given, fun finished => by cases finished⟩
      | ok response =>
          simp only [exchanged]
          by_cases success : response.status.isSuccess = true
          · simp only [success, ↓reduceIte]
            obtain ⟨walk, still⟩ := ih (peer.answer (chunkCommand settings chunk).frame state).2
              (fun other member => fit other (List.mem_cons_of_mem _ member)) _
              (moving_accepts chunk.length open_)
            exact ⟨Walk.accepted given success walk, still⟩
          · simp only [success, Bool.false_eq_true, ↓reduceIte]
            exact ⟨Walk.refused given success rfl rfl, fun finished => by cases finished⟩

theorem finalizeStore_walk (transfer : Transfer) (open_ : transfer.accepts .store = true) :
    let transcript := (finalizeStore settings transfer).run peer state
    Walk [⟨.later .store .finalize, finalizeCommand settings .store, .finalizeFailed⟩]
      transcript.events (complaint transcript.value.1) := by
  intro transcript
  have fits : (finalizeCommand settings .store).data.length ≤ 255 := Nat.zero_le _
  have ran : transcript = (finalizeStore settings transfer).run peer state := rfl
  simp only [finalizeStore, open_, ↓reduceIte, Dialogue.map] at ran
  rw [exchangeIn_run _ _ _ fits] at ran
  rw [ran]
  dsimp only
  cases given : received (peer.answer (finalizeCommand settings .store).frame state).1 with
  | error fault =>
      obtain ⟨after, failed⟩ := transfer.exchanged_fault fault
      rw [failed]
      exact Walk.lost given
  | ok response =>
      simp only [exchanged]
      by_cases success : response.status.isSuccess = true
      · simp only [success, ↓reduceIte]
        exact Walk.accepted given success Walk.finished
      · simp only [success, Bool.false_eq_true, ↓reduceIte]
        exact Walk.refused given success rfl rfl

end Transfer

namespace Session

variable {β : Type} {session : Session} {transfer : Transfer} {plan more : List Planned}
  {good : α → Session → Prop}

def complaint : Outcome α → Option Failure
  | .ok _ => none
  | .error failure => some failure

/-- A call goes through a plan. Where it succeeds the session is as wanted, and where it fails it is
what a failure leaves of a usable session. -/
structure Follows (plan : List Planned) (good : α → Session → Prop)
    (transcript : Transcript σ (Outcome α × Session)) : Prop where
  walk : Walk plan transcript.events (complaint transcript.value.1)
  success : ∀ value, transcript.value.1 = .ok value → good value transcript.value.2
  failure : ∀ failure, transcript.value.1 = .error failure →
    ∃ left : Session, left.usable = true ∧ transcript.value.2 = left.after failure.kind

theorem settle_follows {result : Except Fault α × Session} {events : List Event} {last : σ}
    (walk : Walk plan events (Transfer.complaint result.1)) (usable : result.2.usable = true)
    (success : ∀ value, result.1 = .ok value → good value result.2) :
    Follows plan good ⟨settle result, events, last⟩ := by
  obtain ⟨outcome, after⟩ := result
  cases outcome with
  | ok value =>
      refine ⟨walk, ?_, fun _ failed => by cases failed⟩
      intro other passed
      cases passed
      exact success value rfl
  | error fault =>
      refine ⟨walk, fun _ passed => (by cases passed), ?_⟩
      intro failure failed
      cases failed
      exact ⟨after, usable, rfl⟩

variable (peer : Peer σ) (state : σ)

theorem andThen_follows {first : Dialogue (Outcome α × Session)}
    {next : α → Session → Dialogue (Outcome β × Session)} {wanted : β → Session → Prop}
    (begun : Follows plan good (first.run peer state))
    (onward : ∀ value after later, good value after →
      Follows more wanted ((next value after).run peer later)) :
    Follows (plan ++ more) wanted ((andThen first next).run peer state) := by
  obtain ⟨walk, success, failure⟩ := begun
  cases result : (first.run peer state).value with
  | mk outcome after =>
      rw [result] at walk success failure
      cases outcome with
      | ok value =>
          have rest := onward value after (first.run peer state).peer (success value rfl)
          simp only [andThen_run_ok peer state result]
          exact ⟨walk.append rest.walk, rest.success, rest.failure⟩
      | error blamed =>
          simp only [andThen_run_error peer state result]
          refine ⟨walk.extend more, fun _ passed => (by cases passed), ?_⟩
          intro other failed
          cases failed
          exact failure blamed rfl

def Storing (session : Session) (after : Session) : Prop :=
  ∃ transfer : Transfer, transfer.accepts .store = true ∧
    after = { session with active := some transfer }

theorem beginStore_follows (usable : session.usable = true) (free : session.active = none)
    (key : RecordKey) (fits : key.wire.length ≤ 255) :
    Follows [⟨.init .store, Transfer.initCommand session.settings .store key.wire, .initRejected⟩]
      (fun _ => session.Storing) ((session.beginStore key).run peer state) := by
  obtain ⟨walk, opened⟩ := Transfer.beginStore_walk session.settings peer state key fits
  simp only [beginStore, whenFree_eq usable free, run_map]
  cases result : ((Transfer.beginStore session.settings key).run peer state).value with
  | ok transfer =>
      rw [result] at walk
      exact settle_follows walk usable fun _ _ => ⟨transfer, opened transfer result, rfl⟩
  | error fault =>
      rw [result] at walk
      exact settle_follows walk usable fun _ passed => by cases passed

theorem slices_fit (session : Session) (payload : Bytes) :
    ∀ chunk ∈ slices session.settings.chunkSize.toNat payload, chunk.length ≤ 255 := by
  obtain ⟨positive, small⟩ := Settings.check_chunkSize session.accepted
  intro chunk member
  exact Nat.le_trans (slices_bounded _ positive payload chunk member).2 small

theorem continueStore_follows (usable : session.usable = true)
    (active : session.active = some transfer) (open_ : transfer.accepts .store = true)
    (payload : Bytes) :
    Follows ((slices session.settings.chunkSize.toNat payload).map (chunkPlan session.settings))
      (fun _ => session.Storing) ((session.continueStore payload).run peer state) := by
  obtain ⟨walk, still⟩ := Transfer.pushAll_walk session.settings peer state _
    (session.slices_fit payload) transfer open_
  simp only [continueStore, whenActive_eq usable active, run_map,
    Transfer.continueStore, open_, ↓reduceIte]
  refine settle_follows walk usable ?_
  intro value passed
  exact ⟨_, still passed, rfl⟩

theorem finalizeStore_follows (usable : session.usable = true)
    (active : session.active = some transfer) (open_ : transfer.accepts .store = true) :
    Follows [⟨.later .store .finalize, Transfer.finalizeCommand session.settings .store,
        .finalizeFailed⟩] (fun _ after => after = { session with active := none })
      (session.finalizeStore.run peer state) := by
  have walk := Transfer.finalizeStore_walk session.settings peer state transfer open_
  simp only [finalizeStore, whenActive_eq usable active, run_map] at walk ⊢
  cases result : ((Transfer.finalizeStore session.settings transfer).run peer state).value with
  | mk outcome after =>
      rw [result] at walk
      cases outcome with
      | ok value => exact settle_follows walk usable fun _ _ => rfl
      | error fault => exact settle_follows walk usable fun _ passed => by cases passed

theorem store_follows (usable : session.usable = true) (free : session.active = none)
    (key : RecordKey) (fits : key.wire.length ≤ 255) (payload : Bytes) :
    Follows (storePlan session.settings key (slices session.settings.chunkSize.toNat payload))
      (fun _ after => after = session) ((session.store key payload).run peer state) := by
  apply andThen_follows peer state (beginStore_follows peer state usable free key fits)
  rintro _ begun later ⟨opened, open_, rfl⟩
  have begunUsable : Session.usable { session with active := some opened } = true := usable
  have moving := continueStore_follows peer later begunUsable rfl open_ payload
  apply andThen_follows peer later moving
  rintro _ moved last ⟨grown, open_, rfl⟩
  have movedUsable : Session.usable { session with active := some grown } = true := usable
  have finished := finalizeStore_follows peer last movedUsable rfl open_
  have same : { session with active := none } = session := by rw [← free]
  rw [← same]
  exact finished

theorem storePlan_inTurn {settings : Settings} {key : RecordKey} {chunks : List Bytes}
    {planned : Planned} (member : planned ∈ storePlan settings key chunks) :
    planned.refusal.isOutOfTurn = false := by
  simp only [storePlan, List.mem_append, List.mem_map, List.mem_singleton] at member
  rcases member with rfl | ⟨chunk, _, rfl⟩ | rfl <;> rfl

theorem storePlan_fits (settings : Settings) {key : RecordKey} {chunks : List Bytes}
    (wire : key.wire.length ≤ 255) (fit : ∀ chunk ∈ chunks, chunk.length ≤ 255) :
    ∀ planned ∈ storePlan settings key chunks, planned.command.data.length ≤ 255 := by
  intro planned member
  simp only [storePlan, List.mem_append, List.mem_map, List.mem_singleton] at member
  rcases member with rfl | ⟨chunk, listed, rfl⟩ | rfl
  · exact wire
  · exact fit chunk listed
  · exact Nat.zero_le _

/-- How the failure of a plan tells of the reply that stopped it. -/
structure Tells (refusal : ErrorKind) (reply : Reply) (failure : Failure) : Prop where
  answered : ∀ answer data high low, reply = .ok answer → answer.raw = data ++ [high, low] →
    failure.kind = refusal ∧ ∃ status, failure.status = some status ∧
      status.toNat = 256 * high.toNat + low.toNat
  short : ∀ answer, reply = .ok answer → answer.raw.length < 2 →
    failure.kind = .malformedResponse ∧ failure.status = none
  lost : ∀ wording, reply = .error (.link wording) →
    failure.kind = .connectionUnavailable ∧ failure.status = none

theorem tells_of_blame {refusal : ErrorKind} {reply : Reply} {failure : Failure}
    (blamed : (failure.kind, failure.status) = blame refusal reply) :
    Tells refusal reply failure where
  answered answer data high low given raw := by
    have response : reply.response? = some ⟨data, Word.ofBytes high low⟩ := by
      refine (Reply.response?_eq_some_iff _ _).mpr ⟨answer, given, ?_⟩
      rw [raw, Response.encode, Word.bytes, Word.high_ofBytes, Word.low_ofBytes]
    rw [blame_response response] at blamed
    obtain ⟨kind, status⟩ := Prod.mk.inj blamed
    exact ⟨kind, _, status, Word.toNat_ofBytes high low⟩
  short answer given short := by
    rw [given, blame_short short] at blamed
    exact Prod.mk.inj blamed
  lost wording given := by
    rw [given, blame_link] at blamed
    exact Prod.mk.inj blamed

/-- How a planned call came out: either the whole plan was sent and every frame was taken, or it was
sent up to the first frame that was not, and the reply to that frame and the part of the plan that it
belongs to decide the failure. -/
def CameOut (session : Session) (plan : List Planned)
    (transcript : Transcript σ (Option Result × Session)) : Prop :=
  (LaidOut plan transcript.sent ∧ (∀ reply ∈ transcript.replies, reply.Taken) ∧
    transcript.value = (some (.ok none), session)) ∨
  ∃ done planned undone earlier last failure,
    plan = done ++ planned :: undone ∧ LaidOut (done ++ [planned]) transcript.sent ∧
      transcript.replies = earlier ++ [last] ∧ (∀ reply ∈ earlier, reply.Taken) ∧ ¬ last.Taken ∧
      transcript.value.1 = some (.error failure) ∧ Tells planned.refusal last failure ∧
      transcript.value.2.active = none ∧
      (transcript.value.2.usable = true ↔ failure.kind ≠ .connectionUnavailable)

theorem Follows.cameOut {session : Session} {plan : List Planned} {peer : Peer σ} {state : σ}
    {dialogue : Dialogue (Outcome Unit × Session)}
    (follows : Follows plan (fun _ after => after = session) (dialogue.run peer state))
    (fit : ∀ planned ∈ plan, planned.command.data.length ≤ 255)
    (inTurn : ∀ planned ∈ plan, planned.refusal.isOutOfTurn = false)
    (ordinary : ∀ frame state, (peer.answer frame state).1.Ordinary) :
    session.CameOut plan ((shown (fun _ => none) dialogue).run peer state) := by
  obtain ⟨walk, success, failed⟩ := follows
  simp only [shown, run_map]
  cases result : (dialogue.run peer state).value with
  | mk outcome after =>
      rw [result] at walk success failed
      cases outcome with
      | ok value =>
          obtain ⟨frames, replies⟩ := walk.through
          have same : after = session := success value rfl
          rw [same]
          refine Or.inl ⟨?_, fun reply member => (reply.taken_iff).mpr (replies reply member), rfl⟩
          rw [Transcript.sent, frames]
          exact laidOut_frames fit
      | error failure =>
          obtain ⟨done, planned, undone, earlier, last, split, frames, replies, fine, bad,
            blamed⟩ := walk.halted
          obtain ⟨left, leftUsable, rfl⟩ := failed failure rfl
          have lastOrdinary : last.Ordinary := by
            have member : last ∈ (dialogue.run peer state).replies := by
              simp [Transcript.replies, replies]
            obtain ⟨frame, before, rfl⟩ := run_replies peer _ state last member
            exact ordinary frame before
          have listed : ∀ other ∈ done ++ [planned], other ∈ plan := by
            intro other member
            rw [split, List.append_cons]
            exact List.mem_append_left _ member
          have kind : failure.kind.isOutOfTurn = false := by
            have blamedInTurn := blame_inTurn lastOrdinary (inTurn planned (listed planned (by simp)))
            rwa [← blamed] at blamedInTurn
          obtain ⟨closed, stillUsable⟩ := after_closed leftUsable kind
          refine Or.inr ⟨done, planned, undone, earlier, last, failure, split, ?_, replies,
            fun reply member => (reply.taken_iff).mpr (fine reply member),
            fun taken => bad ((last.taken_iff).mp taken), rfl, tells_of_blame blamed, closed,
            stillUsable⟩
          rw [Transcript.sent, frames]
          exact laidOut_frames fun other member => fit other (listed other member)

/-- A store against any card: it goes by the plan, frame by frame, until one is not taken. -/
theorem store_goes_by_plan (session : Session) (usable : session.usable = true)
    (free : session.active = none) (key : RecordKey)
    (fits : 2 + key.username.length + key.address.length ≤ 255) (payload : Bytes) (peer : Peer σ)
    (ordinary : ∀ frame state, (peer.answer frame state).1.Ordinary) (state : σ) :
    ∃ chunks, Cut session.settings.chunkSize.toNat payload chunks ∧
      session.CameOut (storePlan session.settings key chunks)
        ((session.perform (.store key payload)).run peer state) := by
  have wire : key.wire.length ≤ 255 := by
    rw [key.wire_length]
    exact fits
  have fit := storePlan_fits session.settings wire (session.slices_fit payload)
  obtain ⟨positive, _⟩ := Settings.check_chunkSize session.accepted
  have follows := store_follows peer state usable free key wire payload
  exact ⟨_, slices_cut _ positive payload,
    follows.cameOut fit (fun _ member => storePlan_inTurn member) ordinary⟩

def roomFor (frames : Nat) : Peer Nat where
  answer _ before :=
    (if before < frames then .ofBytes [0x90, 0] else .ofBytes [0x6A, 0x84], before + 1)
  sign _ before := (.ok [], before)

theorem store_in_full_card :
    ∃ chunks, Cut 200 [1, 2, 3] chunks ∧
      (standard false).CameOut
        (storePlan {} ⟨text "u", text "a", by decide, by decide⟩ chunks)
        (((standard false).perform
          (.store ⟨text "u", text "a", by decide, by decide⟩ [1, 2, 3])).run (roomFor 1) 0) := by
  refine store_goes_by_plan (standard false) rfl rfl _ (by decide) [1, 2, 3] (roomFor 1) ?_ 0
  intro frame before fault failed
  simp only [roomFor] at failed
  split at failed <;> cases failed

end Session

end

end CardVault
