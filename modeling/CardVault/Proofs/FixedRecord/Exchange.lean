import CardVault.Proofs.FixedRecord

/-!
Operations on fixed records as exchanges. Whether an operation signs anything and whether it sends its
one frame is decided by sizes alone, before the card is asked: what does not fit is declined for its
argument. What comes of the frame is up to the reply.
-/

namespace CardVault

section

variable {α β σ : Type}

namespace Settings

end Settings

namespace Authorizer

variable (authorizer : Authorizer) (canonical : Bytes)

/-- What there is to show for some bytes: the signer's word, or an empty signature for want of a
signer. -/
def obtained (peer : Peer σ) (state : σ) : Signature :=
  if authorizer.hasSigner then (peer.sign (subject authorizer.policy canonical) state).1 else .ok []

def consulted (signature : Signature) : List Event :=
  if authorizer.hasSigner then [.signed (subject authorizer.policy canonical) signature] else []

theorem sign_run (peer : Peer σ) (state : σ) :
    let transcript := (authorizer.sign canonical).run peer state
    transcript.value = authorizer.obtained canonical peer state ∧
      transcript.events = authorizer.consulted canonical transcript.value := by
  unfold sign obtained consulted
  by_cases signer : authorizer.hasSigner = true
  · simp only [signer, ↓reduceIte]
    exact ⟨rfl, rfl⟩
  · simp only [signer]
    exact ⟨rfl, rfl⟩

theorem consulted_sent (signature : Signature) :
    (authorizer.consulted canonical signature).filterMap Event.frame? = [] := by
  unfold consulted
  split <;> rfl

theorem consulted_signed (signature : Signature) :
    (authorizer.consulted canonical signature).filterMap Event.subject? =
      if authorizer.hasSigner then [subject authorizer.policy canonical] else [] := by
  unfold consulted
  split <;> rfl

end Authorizer

namespace FixedRecord

/-- The outcome blames the argument, and the card has no part in it. -/
def Invalid (outcome : Except Fault α) : Prop :=
  ∃ error : ProtocolError, outcome = .error (.protocol error) ∧ error.kind = .invalidArgument ∧
    error.status = none

section Packing

variable {settings : Settings} {username address : Text} {field message : Bytes} {width : UInt64}

theorem pad_roomy (roomy : width < Memory.tooMuch) (field : Bytes) (label : Text) :
    pad field width label =
      if field.length ≤ width.toNat then .ok (padded field width)
      else .error (.protocol (.fieldTooWide label field.length width)) := by
  by_cases fits : field.length ≤ width.toNat
  · rw [if_pos fits, pad, if_neg (Nat.not_lt.mpr fits), Memory.request_ok roomy]
    rfl
  · rw [if_neg fits, pad, if_pos (Nat.not_le.mp fits)]

theorem name_of_fits (roomyUser : settings.usernameWidth < Memory.tooMuch)
    (roomyPlace : settings.addressWidth < Memory.tooMuch) (fits : Fits settings username address) :
    name settings username address = .ok (packedName settings username address) := by
  rw [name, packUsername, packAddress, pad_roomy roomyUser, pad_roomy roomyPlace,
    if_pos fits.username, if_pos fits.address]
  rfl

end Packing

/-- What becomes of the reply to the one frame of an operation. A success yields what can be made of
the response; any other status rejects the operation. -/
structure Decides (yields : Response → Except Fault α → Prop) (reply : Reply)
    (outcome : Except Fault α) : Prop where
  success : ∀ response, reply.response? = some response → response.status = 0x9000 →
    yields response outcome
  rejected : ∀ response, reply.response? = some response → response.status ≠ 0x9000 →
    ∃ error : ProtocolError, outcome = .error (.protocol error) ∧ error.kind = .initRejected ∧
      error.status = some response.status
  unanswered : ∀ fault, Dialogue.received reply = .error fault → outcome = .error fault

theorem Decides.through {reply : Reply} {outcome : Except Fault Response}
    {yields : Response → Except Fault α → Prop} {change : Except Fault Response → Except Fault α}
    (decided : Decides (fun response outcome => outcome = .ok response) reply outcome)
    (passes : ∀ fault, change (.error fault) = .error fault)
    (makes : ∀ response, yields response (change (.ok response))) :
    Decides yields reply (change outcome) where
  success response given success := by
    rw [decided.success response given success]
    exact makes response
  rejected response given unsuccessful := by
    obtain ⟨error, refused, kind, status⟩ := decided.rejected response given unsuccessful
    rw [refused]
    exact ⟨error, passes _, kind, status⟩
  unanswered fault lost := by
    rw [decided.unanswered fault lost]
    exact passes fault

section Runs

variable (settings : Settings) (peer : Peer σ) (state : σ) {data : Bytes}

theorem request_decided (operation : FixedOperation) (fits : data.length ≤ 255) :
    let transcript := (request settings operation data).run peer state
    ∃ reply, transcript.events =
        [.sent (.fixed operation) (command settings operation data).frame reply] ∧
      Decides (fun response outcome => outcome = .ok response) reply transcript.value := by
  have fitsCommand : (command settings operation data).data.length ≤ 255 := fits
  simp only [request, Dialogue.exchangeFor_fits _ _ fitsCommand, Dialogue.map, Dialogue.bind,
    Dialogue.run]
  refine ⟨_, rfl, ?_, ?_, ?_⟩
  · intro response given success
    rw [(Reply.received_eq_ok_iff _ _).mpr given]
    simp only [(StatusWord.isSuccess_iff_eq _).mpr success, ↓reduceIte]
  · intro response given unsuccessful
    have fails : ¬ response.status.isSuccess = true := fun success =>
      unsuccessful ((StatusWord.isSuccess_iff_eq _).mp success)
    rw [(Reply.received_eq_ok_iff _ _).mpr given]
    simp only [if_neg fails]
    exact ⟨_, rfl, rfl, rfl⟩
  · intro fault lost
    rw [lost]

theorem request_invalid (operation : FixedOperation) (long : 255 < data.length) :
    let transcript := (request settings operation data).run peer state
    transcript.events = [] ∧ ∃ error : ProtocolError,
      transcript.value = .error (.protocol error) ∧ error.kind = .invalidArgument ∧
        error.status = none := by
  have refused : (command settings operation data).encode =
      .error (.commandTooLong data.length) := if_pos long
  simp only [request, Dialogue.exchangeFor, refused]
  exact ⟨rfl, _, rfl, rfl, rfl⟩

end Runs

/-- A signature that an operation may show: of a length that the settings admit, and such that a frame
has room for it behind the name. -/
structure Admits (settings : Settings) (signature : Bytes) : Prop where
  atLeast : settings.leastSignature.toNat ≤ signature.length
  atMost : signature.length ≤ settings.mostSignature.toNat
  room : settings.nameWidth + signature.length ≤ 255

/-- The ways in which an operation can go that names a record and signs the name. The signer is asked
exactly if the name fits, and the card exactly if the signature does so too. -/
inductive Goes (settings : Settings) (authorizer : Authorizer) (username address : Text)
    (operation : FixedOperation) (yields : Response → Except Fault α → Prop) (peer : Peer σ)
    (state : σ) (transcript : Transcript σ (Except Fault α)) : Prop where
  | unfit (unfit : ¬ Fits settings username address) (silent : transcript.events = [])
      (invalid : Invalid transcript.value)
  | failed (fits : Fits settings username address) (fault : Fault)
      (given : authorizer.obtained (packedName settings username address) peer state = .error fault)
      (unsent : transcript.events =
        authorizer.consulted (packedName settings username address) (.error fault))
      (fails : transcript.value = .error fault)
  | declined (fits : Fits settings username address) (signature : Bytes)
      (given : authorizer.obtained (packedName settings username address) peer state = .ok signature)
      (refused : ¬ Admits settings signature)
      (unsent : transcript.events =
        authorizer.consulted (packedName settings username address) (.ok signature))
      (invalid : Invalid transcript.value)
  | asked (fits : Fits settings username address) (signature : Bytes)
      (given : authorizer.obtained (packedName settings username address) peer state = .ok signature)
      (admits : Admits settings signature) (reply : Reply)
      (sent : transcript.events =
        authorizer.consulted (packedName settings username address) (.ok signature) ++
          [.sent (.fixed operation) (command settings operation
            (packedName settings username address ++ signature)).frame reply])
      (decides : Decides yields reply transcript.value)

section Signed

variable {settings : Settings} {username address : Text} {authorizer : Authorizer} {signature : Bytes}
  {change : Except Fault Response → Except Fault α} (peer : Peer σ) (state : σ)
  (operation : FixedOperation)

end Signed

section Store

variable {settings : Settings} {username address : Text} {message data : Bytes} (peer : Peer σ)
  (state : σ)

end Store

end FixedRecord

end

/-!
Names of fixed records that coincide. Filling up a field loses nothing but the zeros that end it, so
two names are the same exactly if their fields are the same without those zeros; a user name that goes
by its digest counts as the digest. The border between the fields stays where it is.
-/

theorem Digest.sha256_inj_of_padded {first second : Bytes} {width : UInt64}
    (same : FixedRecord.padded (sha256 first) width = FixedRecord.padded (sha256 second) width) :
    sha256 first = sha256 second := by
  refine (List.append_inj same ?_).1
  rw [sha256_length, sha256_length]

namespace FixedRecord

variable {settings : Settings} {field other moved : Bytes} {width : UInt64}
  {username address otherUsername otherAddress : Text}

theorem padded_eq_strip (fits : field.length ≤ width.toNat) :
    padded field width =
      strip field ++ List.replicate (width.toNat - (strip field).length) 0 := by
  obtain ⟨⟨count, whole⟩, _⟩ := strip_spec field
  have size : field.length = (strip field).length + count := by
    have counted := congrArg List.length whole
    rwa [List.length_append, List.length_replicate] at counted
  have zeros : count + (width.toNat - field.length) = width.toNat - (strip field).length := by
    omega
  calc padded field width
      = field ++ List.replicate (width.toNat - field.length) 0 := rfl
    _ = strip field ++ List.replicate count 0 ++
          List.replicate (width.toNat - field.length) 0 := by rw [← whole]
    _ = strip field ++ List.replicate (width.toNat - (strip field).length) 0 := by
        rw [List.append_assoc, List.replicate_append_replicate, zeros]

theorem padded_inj (fits : field.length ≤ width.toNat) (fitsToo : other.length ≤ width.toNat) :
    padded field width = padded other width ↔ strip field = strip other := by
  constructor
  · intro same
    have stripped := congrArg strip same
    simpa only [padded, strip_append_zeros] using stripped
  · intro same
    rw [padded_eq_strip fits, padded_eq_strip fitsToo, same]

theorem packedName_inj (fits : Fits settings username address)
    (fitsToo : Fits settings otherUsername otherAddress) :
    packedName settings username address = packedName settings otherUsername otherAddress ↔
      padded (identity settings username) settings.usernameWidth =
        padded (identity settings otherUsername) settings.usernameWidth ∧
      strip address = strip otherAddress := by
  rw [← padded_inj fits.address fitsToo.address]
  constructor
  · intro same
    apply List.append_inj same
    rw [padded_length fits.username, padded_length fitsToo.username]
  · rintro ⟨user, place⟩
    rw [packedName, packedName, user, place]

theorem strip_eq_nil_iff (field : Bytes) : strip field = [] ↔ ∀ byte ∈ field, byte = 0 := by
  change List.rdropWhile _ _ = [] ↔ _
  simp [List.rdropWhile_eq_nil_iff]

theorem strip_append (first : Bytes) (filled : strip field ≠ []) :
    strip (first ++ field) = first ++ strip field := by
  obtain ⟨⟨count, whole⟩, ends⟩ := strip_spec field
  have kept : (first ++ strip field).getLast? ≠ some 0 := by
    rw [List.getLast?_append_of_ne_nil _ filled]
    exact ends
  calc strip (first ++ field)
      = strip (first ++ strip field ++ List.replicate count 0) := by
        rw [List.append_assoc, ← whole]
    _ = strip (first ++ strip field) := strip_append_zeros _ count
    _ = first ++ strip field := (strip_eq_self_iff _).mpr kept

theorem strip_append_eq_iff (moved field : Bytes) :
    strip field = strip (moved ++ field) ↔ moved = [] ∨ ∀ byte ∈ moved ++ field, byte = 0 := by
  constructor
  · intro same
    by_cases zeros : strip (moved ++ field) = []
    · exact Or.inr ((strip_eq_nil_iff _).mp zeros)
    · have filled : strip field ≠ [] := fun empty => zeros (same.symm.trans empty)
      rw [strip_append moved filled] at same
      exact Or.inl (List.append_left_eq_self.mp same.symm)
  · rintro (rfl | zeros)
    · rfl
    · rw [(strip_eq_nil_iff _).mpr zeros, strip_eq_nil_iff]
      exact fun byte member => zeros byte (List.mem_append_right _ member)

/-- Names that coincide. Two names whose fields fit are the same bytes exactly if the user names, or
the digests that stand for them, are the same and the addresses are, but for the zeros that end them.
So nothing can be moved across the border between the fields but zeros, and these only from an address
that holds nothing else. -/
theorem names_coincide_iff (settings : Settings) (username address otherUsername otherAddress : Text)
    (fits : Fits settings username address) (fitsToo : Fits settings otherUsername otherAddress) :
    let named := packedName settings username address
    let namedToo := packedName settings otherUsername otherAddress
    (settings.usernameWidth < Memory.tooMuch → settings.addressWidth < Memory.tooMuch →
      name settings username address = .ok named ∧
        name settings otherUsername otherAddress = .ok namedToo) ∧
    (settings.identityEncoding = .pad → (named = namedToo ↔
      strip username = strip otherUsername ∧ strip address = strip otherAddress)) ∧
    (settings.identityEncoding = .sha256 → (named = namedToo ↔
      Digest.sha256 username = Digest.sha256 otherUsername ∧ strip address = strip otherAddress)) ∧
    ∀ kept moved place, Fits settings (kept ++ moved) place → Fits settings kept (moved ++ place) →
      packedName settings (kept ++ moved) place = packedName settings kept (moved ++ place) →
      moved = [] ∨ ∀ byte ∈ moved ++ place, byte = 0 := by
  intro named namedToo
  have userFits := fits.username
  have userFitsToo := fitsToo.username
  refine ⟨?_, ?_, ?_, ?_⟩
  · intro roomyUser roomyPlace
    exact ⟨name_of_fits roomyUser roomyPlace fits, name_of_fits roomyUser roomyPlace fitsToo⟩
  · intro pads
    simp only [identity, pads] at userFits userFitsToo
    rw [packedName_inj fits fitsToo, ← padded_inj userFits userFitsToo]
    simp only [identity, pads]
  · intro hashes
    rw [packedName_inj fits fitsToo]
    simp only [identity, hashes]
    constructor
    · rintro ⟨user, place⟩
      exact ⟨Digest.sha256_inj_of_padded user, place⟩
    · rintro ⟨user, place⟩
      rw [user]
      exact ⟨rfl, place⟩
  · intro kept moved place moves stays same
    exact (strip_append_eq_iff moved place).mp ((packedName_inj moves stays).mp same).2

theorem split_shows_and_zeros_do_not :
    let settings : Settings := {}
    Fits settings (text "ab") (text "c") ∧ Fits settings (text "a") (text "bc") ∧
      packedName settings (text "ab") (text "c") ≠ packedName settings (text "a") (text "bc") ∧
      Fits settings [97, 0] [99] ∧ Fits settings [97] [99, 0, 0] ∧
      packedName settings [97, 0] [99] = packedName settings [97] [99, 0, 0] := by
  intro settings
  have split : Fits settings (text "ab") (text "c") := ⟨by decide, by decide⟩
  have splitToo : Fits settings (text "a") (text "bc") := ⟨by decide, by decide⟩
  have zero : Fits settings [97, 0] [99] := ⟨by decide, by decide⟩
  have zeroToo : Fits settings [97] [99, 0, 0] := ⟨by decide, by decide⟩
  obtain ⟨_, _, _, border⟩ := names_coincide_iff settings _ _ _ _ split splitToo
  obtain ⟨_, coincide, _⟩ := names_coincide_iff settings _ _ _ _ zero zeroToo
  refine ⟨split, splitToo, ?_, zero, zeroToo, (coincide rfl).mpr ⟨rfl, rfl⟩⟩
  intro same
  rcases border (text "a") (text "b") (text "c") split splitToo same with empty | zeros
  · cases empty
  · cases zeros 98 List.mem_cons_self

end FixedRecord

end CardVault
