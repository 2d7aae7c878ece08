import CardVault.Proofs.FixedRecord
import CardVault.Proofs.FixedRecord.Exchange
import CardVault.Proofs.Refusal
import Mathlib.Tactic.SplitIfs

/-!
The sizes that a check accepts. The sums of a check are those of the machine, so a width near the end
of the range can pass although the record fits no frame, and then storing comes to nothing. Where no
sum wraps, what is accepted fits, and no request of a session fails for its size.
-/

namespace CardVault

section

variable {α σ : Type}

namespace Settings

variable {settings : Settings}

/-- What a check asks of the sizes. Of a sum it sees only what is left of it. -/
structure Checked (settings : Settings) : Prop where
  chunk : 0 < settings.chunkSize.toNat ∧ settings.chunkSize.toNat ≤ 255
  record : settings.recordWidth % UInt64.size ≤ 255
  request : settings.requestWidth % UInt64.size ≤ 255
  digest : settings.identityEncoding = .sha256 → 32 ≤ settings.usernameWidth.toNat

theorem sum_le_iff (first second third : UInt64) :
    first + second + third ≤ 255 ↔ (first.toNat + second.toNat + third.toNat) % UInt64.size ≤ 255 := by
  rw [UInt64.le_iff_toNat_le]
  simp only [UInt64.toNat_add, UInt64.reduceToNat, Nat.mod_add_mod]

theorem checked (accepted : settings.check = .ok ()) : settings.Checked := by
  have chunk := check_chunkSize accepted
  unfold check at accepted
  split_ifs at accepted with _ _ record _ request digest
  simp only [not_and, gt_iff_lt, UInt64.not_lt] at record request digest
  constructor
  case chunk => exact chunk
  case record => exact (sum_le_iff ..).mp record
  case request => exact (sum_le_iff ..).mp request
  case digest => exact fun hashed => UInt64.le_iff_toNat_le.mp (digest hashed)

theorem le_iff_unwrapped {width : Nat} (small : width % UInt64.size ≤ 255) :
    width ≤ 255 ↔ width < UInt64.size := by
  unfold UInt64.size at small ⊢
  omega

theorem Checked.record_le_iff (checked : settings.Checked) :
    settings.recordWidth ≤ 255 ↔ settings.recordWidth < UInt64.size :=
  le_iff_unwrapped checked.record

theorem Checked.request_le_iff (checked : settings.Checked) :
    settings.requestWidth ≤ 255 ↔ settings.requestWidth < UInt64.size :=
  le_iff_unwrapped checked.request

end Settings

namespace FixedRecord

variable {settings : Settings} {username address : Text} {field message : Bytes} {width : UInt64}

theorem pad_of_fits (fits : field.length ≤ width.toNat) (label : Text) :
    (pad field width label = .ok (padded field width) ∧ width.toNat < Memory.tooMuch.toNat) ∨
      ∃ wording, pad field width label = .error (.other wording) := by
  have narrow : ¬ field.length > width.toNat := Nat.not_lt.mpr fits
  rw [pad, if_neg narrow]
  by_cases small : width < Memory.tooMuch
  · left
    rw [Memory.request_ok small]
    exact ⟨rfl, UInt64.lt_iff_toNat_lt.mp small⟩
  · right
    have large : Memory.tooMuch ≤ width := UInt64.not_lt.mp small
    obtain ⟨wording, refused⟩ := @Memory.request_refused .padding width large
    rw [refused]
    exact ⟨wording, rfl⟩

/-- The content of a record whose width wraps is never packed: one of the three fields alone is too
wide for any memory. -/
theorem content_of_wrapped (fits : Fits settings username address)
    (short : message.length ≤ settings.messageWidth.toNat) (wraps : UInt64.size ≤ settings.recordWidth) :
    ∃ wording, content settings username address message = .error (.other wording) := by
  have enough : 3 * Memory.tooMuch.toNat ≤ UInt64.size := by decide
  unfold Settings.recordWidth Settings.nameWidth at wraps
  unfold content name packUsername packAddress packMessage
  rcases pad_of_fits fits.username (text "username") with ⟨user, narrowUser⟩ | ⟨wording, user⟩
  · rcases pad_of_fits fits.address (text "address") with ⟨place, narrowPlace⟩ | ⟨wording, place⟩
    · rcases pad_of_fits short (text "message") with ⟨body, narrowBody⟩ | ⟨wording, body⟩
      · omega
      · rw [user, place, body]
        exact ⟨wording, rfl⟩
    · rw [user, place]
      exact ⟨wording, rfl⟩
  · rw [user]
    exact ⟨wording, rfl⟩

section Runs

variable (card : Peer σ) (state : σ)

theorem sign_unsent (authorizer : Authorizer) (canonical : Bytes) (purpose : Purpose) :
    purpose ∉ ((authorizer.sign canonical).run card state).purposes := by
  unfold Authorizer.sign
  split <;> simp [Dialogue.run, Transcript.purposes, Event.purpose?]

variable (settings) in
theorem request_sent_iff (operation : FixedOperation) (data : Bytes) :
    .fixed operation ∈ ((request settings operation data).run card state).purposes ↔
      data.length ≤ 255 := by
  by_cases small : data.length ≤ 255
  · obtain ⟨reply, sent, _⟩ := request_run settings card state operation small
    simp [Transcript.purposes, sent, Event.purpose?, small]
  · have unsent := request_unsent settings card state operation (Nat.lt_of_not_le small)
    simp [Transcript.purposes, unsent, small]

theorem signed_request_sent_iff {authorizer : Authorizer} {signature : Bytes}
    {change : Except Fault Response → Except Fault α} (operation : FixedOperation)
    (fits : Fits settings username address)
    (given : ((authorizer.sign (packedName settings username address)).run card state).value =
      .ok signature)
    (atLeast : settings.leastSignature.toNat ≤ signature.length)
    (atMost : signature.length ≤ settings.mostSignature.toNat) :
    .fixed operation ∈ ((signedRequest settings authorizer username address operation change).run
      card state).purposes ↔ settings.nameWidth + signature.length ≤ 255 := by
  cases named : name settings username address with
  | error fault =>
      rw [Transcript.purposes, signed_request_unsent card state operation named]
      simp only [List.filterMap_nil, List.not_mem_nil, false_iff]
      intro small
      have packs := name_eq_packedName fits (by omega)
      cases named.symm.trans packs
  | ok packed =>
      obtain ⟨_, rfl⟩ := packed_of_name named
      have size : (packedName settings username address ++ signature).length =
          settings.nameWidth + signature.length := by
        rw [List.length_append, packedName_length fits]
      have unsent := sign_unsent card state authorizer (packedName settings username address)
        (.fixed operation)
      rw [signed_request_run card state operation named given atLeast atMost, ← size,
        ← request_sent_iff settings card _ operation]
      simp only [Transcript.purposes, List.filterMap_append, List.mem_append] at unsent ⊢
      exact or_iff_right unsent

end Runs

end FixedRecord

namespace Session

open FixedRecord

variable {session : Session} {username address : Text} {message : Bytes}

section Runs

variable (card : Peer σ) (state : σ)

theorem whenFree_run (free : session.Free) (dialogue : Dialogue (Except Fault α)) :
    (session.whenFree (dialogue.map (·, session))).run card state =
      let transcript := dialogue.run card state
      ⟨settle (transcript.value, session), transcript.events, transcript.peer⟩ := by
  simp [whenFree_eq free.1 free.2, Dialogue.run_map]

theorem storeFixed_sent (free : session.Free) (fits : Fits session.settings username address)
    (short : message.length ≤ session.settings.messageWidth.toNat)
    (record : session.settings.recordWidth ≤ 255) :
    .fixed .store ∈ ((session.storeFixed username address message).run card state).purposes := by
  obtain ⟨reply, sent⟩ := store_sends card state fits short record
  rw [storeFixed, whenFree_run card state free]
  simp [Transcript.purposes, sent, Event.purpose?]

theorem storeFixed_unsent (free : session.Free) (fits : Fits session.settings username address)
    (short : message.length ≤ session.settings.messageWidth.toNat)
    (wraps : UInt64.size ≤ session.settings.recordWidth) :
    let storing := (session.storeFixed username address message).run card state
    storing.events = [] ∧ storing.value.2.usable = false := by
  intro storing
  obtain ⟨wording, unpacked⟩ := content_of_wrapped fits short wraps
  have run : storing = _ := whenFree_run card state free _
  rw [run]
  simp only [FixedRecord.store, unpacked]
  exact ⟨rfl, rfl⟩

end Runs

/-- Sizes that a check accepts are enough unless a sum of them wraps. A chunk always fits in a frame;
a record and a request with the longest signature fit if and only if their widths can be added up. In
a session built on such settings a free call on a record whose fields fit reaches the card if the
record does, with a signature if the request does. Where the width of the record wraps, storing sends
nothing and loses the session. -/
theorem checked_sizes_suffice_unless_wrapped (session : Session) :
    let settings := session.settings
    (1 ≤ settings.chunkSize.toNat ∧ settings.chunkSize.toNat ≤ 255) ∧
    (settings.recordWidth ≤ 255 ↔ settings.recordWidth < UInt64.size) ∧
    (settings.requestWidth ≤ 255 ↔ settings.requestWidth < UInt64.size) ∧
    ∀ {σ : Type} (card : Peer σ) (state : σ) (username address : Text), session.Free →
      (settings.identityEncoding = .pad → username.length ≤ settings.usernameWidth.toNat) →
      address.length ≤ settings.addressWidth.toNat →
      (∀ message, message.length ≤ settings.messageWidth.toNat →
        let storing := (session.storeFixed username address message).run card state
        (settings.recordWidth < UInt64.size → .fixed .store ∈ storing.purposes) ∧
        (UInt64.size ≤ settings.recordWidth → storing.events = [] ∧ storing.value.2.usable = false)) ∧
      ∀ signature, ((session.authorizer.sign (packedName settings username address)).run
          card state).value = .ok signature →
        settings.leastSignature.toNat ≤ signature.length →
        signature.length ≤ settings.mostSignature.toNat →
        let reading := (session.readFixed username address).run card state
        let deleting := (session.deleteFixed username address).run card state
        (settings.requestWidth < UInt64.size →
          .fixed .read ∈ reading.purposes ∧ .fixed .delete ∈ deleting.purposes) ∧
        (.fixed .read ∈ reading.purposes ↔ settings.nameWidth + signature.length ≤ 255) ∧
        (.fixed .delete ∈ deleting.purposes ↔ settings.nameWidth + signature.length ≤ 255) := by
  intro settings
  have checked := Settings.checked session.accepted
  refine ⟨checked.chunk, checked.record_le_iff, checked.request_le_iff, ?_⟩
  intro σ card state username address free shortUsername shortAddress
  have fits : Fits settings username address :=
    ⟨identity_fits checked.digest shortUsername, shortAddress⟩
  constructor
  · intro message short storing
    constructor
    · intro unwrapped
      exact storeFixed_sent card state free fits short (checked.record_le_iff.mpr unwrapped)
    · exact storeFixed_unsent card state free fits short
  · intro signature given atLeast atMost reading deleting
    have reads : .fixed .read ∈ reading.purposes ↔
        settings.nameWidth + signature.length ≤ 255 := by
      have run : reading = _ := whenFree_run card state free _
      rw [run]
      exact signed_request_sent_iff card state .read fits given atLeast atMost
    have deletes : .fixed .delete ∈ deleting.purposes ↔
        settings.nameWidth + signature.length ≤ 255 := by
      have run : deleting = _ := whenFree_run card state free _
      rw [run]
      exact signed_request_sent_iff card state .delete fits given atLeast atMost
    refine ⟨?_, reads, deletes⟩
    intro unwrapped
    have request := checked.request_le_iff.mpr unwrapped
    have small : settings.nameWidth + signature.length ≤ 255 :=
      (Nat.add_le_add_left atMost _).trans request
    exact ⟨reads.mpr small, deletes.mpr small⟩

theorem full_width_record_is_sent :
    let session := standard true
    let username : Text := List.replicate 32 117
    let address : Text := List.replicate 64 97
    let card := Peer.steady (.ofBytes [0, 1, 0x90, 0]) (.ok (List.replicate 72 1))
    .fixed .store ∈ ((session.storeFixed username address (List.replicate 32 5)).run card ()).purposes ∧
      .fixed .read ∈ ((session.readFixed username address).run card ()).purposes ∧
      .fixed .delete ∈ ((session.deleteFixed username address).run card ()).purposes := by
  intro session username address card
  obtain ⟨_, _, _, calls⟩ := checked_sizes_suffice_unless_wrapped session
  obtain ⟨stores, requests⟩ := calls card () username address ⟨rfl, rfl⟩ (fun _ => by decide) (by decide)
  obtain ⟨sends, _⟩ := stores (List.replicate 32 5) (by decide)
  obtain ⟨asks, _⟩ := requests (List.replicate 72 1) rfl (by decide) (by decide)
  exact ⟨sends (by decide), asks (by decide)⟩

/-- A check accepts a user name of 64 bytes less than the machine can count: with an address of 64
bytes and a message of 32 the sum is 32. Storing then fails for want of memory. -/
theorem wrapping_width_accepted :
    let settings : Settings := { usernameWidth := 0xFFFFFFFFFFFFFFC0 }
    ∃ accepted : settings.check = .ok (),
      let session : Session := ⟨settings, accepted, false, none, [], true⟩
      let card := Peer.steady (.ofBytes [0, 1, 0x90, 0]) (.ok [])
      let storing := (session.storeFixed (text "user") (text "addr") [1]).run card ()
      255 < settings.recordWidth ∧ storing.events = [] ∧
        storing.value.1 =
          .error ⟨.connectionUnavailable, none, text "vector::_M_fill_insert"⟩ :=
  ⟨rfl, by decide, rfl, rfl⟩

end Session

end

/-!
Receipts. A receipt that storing or deleting a fixed record comes back with is the first two bytes of
the data that the card answered the one frame with, whatever the settings are.
-/

section

variable {α σ : Type}

namespace FixedRecord

def Receipted (replies : List Reply) (receipt : Receipt) : Prop :=
  ∃ reply response, replies = [reply] ∧ reply.response? = some response ∧
    response.status = 0x9000 ∧ response.data.take 2 = receipt.bytes

variable (settings : Settings) (peer : Peer σ) (state : σ) {username address : Text}
  {message data : Bytes} {granted : Receipt} {operation : FixedOperation}

theorem take_of_receipt {response : Response} (taken : receipt operation response = .ok granted) :
    response.data.take 2 = granted.bytes := by
  unfold receipt at taken
  split at taken
  · rename_i index count rest filled
    cases taken
    rw [filled]
    rfl
  · cases taken

theorem request_granted {response : Response}
    (granted : ((request settings operation data).run peer state).value = .ok response) :
    ∃ reply, ((request settings operation data).run peer state).replies = [reply] ∧
      reply.response? = some response ∧ response.status = 0x9000 := by
  by_cases fits : data.length ≤ 255
  · obtain ⟨reply, sent, decides⟩ := request_decided settings peer state operation fits
    refine ⟨reply, by simp [Transcript.replies, sent, Event.reply?], ?_⟩
    cases given : Dialogue.received reply with
    | error fault =>
        rw [decides.unanswered fault given] at granted
        cases granted
    | ok answered =>
        have answer := (Reply.received_eq_ok_iff _ _).mp given
        by_cases success : answered.status = 0x9000
        · rw [decides.success answered answer success] at granted
          cases granted
          exact ⟨answer, success⟩
        · obtain ⟨error, refused, _⟩ := decides.rejected answered answer success
          rw [refused] at granted
          cases granted
  · obtain ⟨_, error, refused, _⟩ :=
      request_invalid settings peer state operation (Nat.not_le.mp fits)
    rw [refused] at granted
    cases granted

theorem request_receipted
    (taken : (((request settings operation data).run peer state).value.bind
      (receipt operation)) = .ok granted) :
    Receipted ((request settings operation data).run peer state).replies granted := by
  cases outcome : ((request settings operation data).run peer state).value with
  | error fault =>
      rw [outcome] at taken
      cases taken
  | ok response =>
      obtain ⟨reply, once, answer, success⟩ := request_granted settings peer state outcome
      rw [outcome] at taken
      exact ⟨reply, response, once, answer, success, take_of_receipt taken⟩

theorem store_receipted
    (stored : ((store settings username address message).run peer state).value = .ok granted) :
    Receipted ((store settings username address message).run peer state).replies granted := by
  cases filled : content settings username address message with
  | error fault =>
      simp only [store, filled, Dialogue.run] at stored
      cases stored
  | ok data =>
      simp only [store, filled, Dialogue.run_map] at stored ⊢
      refine request_receipted settings peer state (Eq.trans ?_ stored)
      cases ((request settings .store data).run peer state).value <;> rfl

theorem signedName_replies (authorizer : Authorizer) (username address : Text) :
    ((signedName settings authorizer username address).run peer state).replies = [] := by
  cases named : name settings username address with
  | error fault =>
      simp only [signedName, named]
      rfl
  | ok packed =>
      simp only [signedName, named, Dialogue.run_map, Transcript.replies,
        (authorizer.sign_run packed peer state).2, Authorizer.consulted]
      split <;> rfl

theorem delete_receipted {authorizer : Authorizer}
    (deleted : ((delete settings authorizer username address).run peer state).value = .ok granted) :
    Receipted ((delete settings authorizer username address).run peer state).replies granted := by
  have silent := signedName_replies settings peer state authorizer username address
  cases named : ((signedName settings authorizer username address).run peer state).value with
  | error fault =>
      simp only [delete, Dialogue.run_bind, named, Dialogue.run] at deleted
      cases deleted
  | ok data =>
      simp only [delete, Dialogue.run_bind, Dialogue.run_map, named, Transcript.replies,
        List.filterMap_append] at deleted silent ⊢
      rw [silent, List.nil_append]
      refine request_receipted settings peer _ (Eq.trans ?_ deleted)
      cases ((request settings .delete data).run peer _).value <;> rfl

end FixedRecord

namespace Session

variable {session : Session} (peer : Peer σ) (state : σ)

theorem whenFree_granted {dialogue : Dialogue (Except Fault α)} {value : α}
    (granted : ((session.whenFree (dialogue.map (·, session))).run peer state).value.1 = .ok value) :
    (dialogue.run peer state).value = .ok value ∧
      ((session.whenFree (dialogue.map (·, session))).run peer state).events =
        (dialogue.run peer state).events := by
  by_cases free : session.Free
  · rw [whenFree_run peer state free] at granted ⊢
    cases outcome : (dialogue.run peer state).value with
    | error fault =>
        simp only [outcome, settle] at granted
        cases granted
    | ok found =>
        simp only [outcome, settle] at granted
        exact ⟨congrArg Except.ok (Except.ok.inj granted), rfl⟩
  · obtain ⟨message, refused⟩ := whenFree_refused (dialogue.map (·, session)) free
    rw [refused] at granted
    cases granted

theorem storeFixed_receipted {username address : Text} {message : Bytes} {granted : Receipt}
    (stored : ((session.storeFixed username address message).run peer state).value.1 = .ok granted) :
    FixedRecord.Receipted ((session.storeFixed username address message).run peer state).replies
      granted := by
  obtain ⟨value, events⟩ := whenFree_granted peer state stored
  rw [storeFixed, Transcript.replies, events]
  exact FixedRecord.store_receipted session.settings peer state value

theorem deleteFixed_receipted {username address : Text} {granted : Receipt}
    (deleted : ((session.deleteFixed username address).run peer state).value.1 = .ok granted) :
    FixedRecord.Receipted ((session.deleteFixed username address).run peer state).replies granted := by
  obtain ⟨value, events⟩ := whenFree_granted peer state deleted
  rw [deleteFixed, Transcript.replies, events]
  exact FixedRecord.delete_receipted session.settings peer state value

end Session

end

end CardVault
