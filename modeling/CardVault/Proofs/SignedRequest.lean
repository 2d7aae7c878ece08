import CardVault.Proofs.FixedRecord
import CardVault.Proofs.FrameLayout
import CardVault.Proofs.OpenTransfer.Calls
import CardVault.Proofs.Raised.Calls
import CardVault.Proofs.Unsigned

/-!
What is signed is what is sent. A call that asks for a record by name has that name signed, once and
before anything is sent, and the frame that asks carries the name together with the signature that
was given for it. No other call has anything signed. Frames are spelled out here byte for byte, and
the name in a fixed record with the zeros that fill its widths.
-/

namespace CardVault

open Dialogue

variable {α β σ : Type}

/-- What a signer has to be asked for some bytes to be signed. -/
def DigestPolicy.Covers (policy : DigestPolicy) (named asked : Bytes) : Prop :=
  match policy with
  | .message => asked = named
  | .sha256 => asked = Digest.sha256 named

/-- What stands for a user name in a fixed record. -/
def IdentityEncoding.StandsFor (encoding : IdentityEncoding) (username : Text) (user : Bytes) :
    Prop :=
  match encoding with
  | .pad => user = username
  | .sha256 => user = Digest.sha256 username

/-- The calls that ask for a record by name: the bytes that name it, what the frame is sent for that
asks, and the command that it holds once there is a signature. -/
inductive Requests (settings : Settings) :
    Call → Bytes → Purpose → (Bytes → Command) → Prop where
  | beginRead (key : RecordKey) :
      Requests settings (.beginRead key) (key.username ++ key.address) (.init .read)
        fun signature => ⟨settings.cla, settings.readCodes.init, 0, 0,
          key.spelled ++ UInt8.ofNat signature.length :: signature, none⟩
  | read (key : RecordKey) :
      Requests settings (.read key) (key.username ++ key.address) (.init .read)
        fun signature => ⟨settings.cla, settings.readCodes.init, 0, 0,
          key.spelled ++ UInt8.ofNat signature.length :: signature, none⟩
  | readFixed {username address : Text} {user named : Bytes}
      (stands : settings.identityEncoding.StandsFor username user)
      (userFits : user.length ≤ settings.usernameWidth.toNat)
      (placeFits : address.length ≤ settings.addressWidth.toNat)
      (filled : named = FixedRecord.padded user settings.usernameWidth ++
        FixedRecord.padded address settings.addressWidth) :
      Requests settings (.readFixed username address) named (.fixed .read)
        fun signature => ⟨settings.cla, settings.fixedReadCode, 0, 0, named ++ signature, none⟩
  | deleteFixed {username address : Text} {user named : Bytes}
      (stands : settings.identityEncoding.StandsFor username user)
      (userFits : user.length ≤ settings.usernameWidth.toNat)
      (placeFits : address.length ≤ settings.addressWidth.toNat)
      (filled : named = FixedRecord.padded user settings.usernameWidth ++
        FixedRecord.padded address settings.addressWidth) :
      Requests settings (.deleteFixed username address) named (.fixed .delete)
        fun signature => ⟨settings.cla, settings.fixedDeleteCode, 0, 0, named ++ signature, none⟩

theorem DigestPolicy.covers_subject (policy : DigestPolicy) (named : Bytes) :
    policy.Covers named (Authorizer.subject policy named) := by
  cases policy <;> rfl

theorem FixedRecord.stands_identity (settings : Settings) (username : Text) :
    settings.identityEncoding.StandsFor username (identity settings username) := by
  unfold IdentityEncoding.StandsFor identity
  cases settings.identityEncoding <;> rfl

theorem IdentityEncoding.StandsFor.unique {encoding : IdentityEncoding} {username : Text}
    {user other : Bytes} (stands : encoding.StandsFor username user)
    (standsToo : encoding.StandsFor username other) : user = other := by
  cases encoding <;> exact stands.trans standsToo.symm

/-- A frame that asks for a record: it is sent for the purpose it should be, and spells out the
command with the signature. -/
structure Presents (purpose : Purpose) (command : Bytes → Command) (signature : Bytes)
    (other : Purpose) (frame : Bytes) : Prop where
  same : other = purpose
  short : signature.length ≤ 255
  laid : (command signature).Laid frame

namespace Dialogue

def Sendable (vouched : Bytes → Purpose → Bytes → Prop) (signature : Bytes) (purpose : Purpose)
    (frame : Bytes) : Prop :=
  purpose.isSigned = true → vouched signature purpose frame

/-- A dialogue that asks at most once for a signature, and that for one subject and before it sends
anything. Without a signer the signature is empty. -/
inductive SignsFirst (hasSigner : Bool) (subject : Bytes)
    (vouched : Bytes → Purpose → Bytes → Prop) : Dialogue α → Prop where
  | plain {dialogue : Dialogue α} (plain : Plain dialogue) :
      SignsFirst hasSigner subject vouched dialogue
  | unsigned {dialogue : Dialogue α} (signer : hasSigner = false)
      (sends : Unsigned (Sendable vouched []) dialogue) :
      SignsFirst hasSigner subject vouched dialogue
  | signed {next : Signature → Dialogue α} (signer : hasSigner = true)
      (given : ∀ signature, Unsigned (Sendable vouched signature) (next (.ok signature)))
      (failed : ∀ fault, Plain (next (.error fault))) :
      SignsFirst hasSigner subject vouched (.sign subject next)

variable {hasSigner : Bool} {subject : Bytes} {vouched : Bytes → Purpose → Bytes → Prop}
  {dialogue : Dialogue α}

theorem Plain.sendable (plain : Plain dialogue) (signature : Bytes) :
    Unsigned (Sendable vouched signature) dialogue := by
  apply unsigned_weaken plain
  intro purpose frame unsigned signed
  cases unsigned.symm.trans signed

theorem signsFirst_bind {next : α → Dialogue β}
    (first : SignsFirst hasSigner subject vouched dialogue)
    (onward : ∀ value, Plain (next value)) :
    SignsFirst hasSigner subject vouched (dialogue.bind next) := by
  cases first with
  | plain plain => exact .plain (unsigned_bind plain onward)
  | unsigned signer sends =>
      exact .unsigned signer (unsigned_bind sends fun value => (onward value).sendable [])
  | signed signer given failed =>
      apply SignsFirst.signed signer
      · intro signature
        exact unsigned_bind (given signature) fun value => (onward value).sendable signature
      · intro fault
        exact unsigned_bind (failed fault) onward

theorem signsFirst_map {change : α → β} (first : SignsFirst hasSigner subject vouched dialogue) :
    SignsFirst hasSigner subject vouched (dialogue.map change) :=
  signsFirst_bind first fun _ => trivial

/-- The signature that a conversation has to show: the one it was given first of all, or the empty
one for want of a signer. -/
def InHand (hasSigner : Bool) (events : List Event) (signature : Bytes) : Prop :=
  (hasSigner = false ∧ signature = []) ∨
    hasSigner = true ∧ ∃ subject rest, events = .signed subject (.ok signature) :: rest

theorem signsFirst_run (first : SignsFirst hasSigner subject vouched dialogue) (peer : Peer σ)
    (state : σ) :
    let events := (dialogue.run peer state).events
    (∀ asked signature, .signed asked signature ∈ events →
      hasSigner = true ∧ asked = subject ∧ ∃ rest, events = .signed asked signature :: rest ∧
        ∀ event ∈ rest, event.subject? = none) ∧
    ∀ purpose frame reply, .sent purpose frame reply ∈ events → purpose.isSigned = true →
      ∃ signature, InHand hasSigner events signature ∧ vouched signature purpose frame := by
  cases first with
  | plain plain =>
      obtain ⟨silent, frames⟩ := unsigned_run plain peer state
      constructor
      · intro asked signature member
        cases silent _ member
      · intro purpose frame reply member signed
        cases (frames _ _ _ member).symm.trans signed
  | unsigned signer sends =>
      obtain ⟨silent, frames⟩ := unsigned_run sends peer state
      constructor
      · intro asked signature member
        cases silent _ member
      · intro purpose frame reply member signed
        exact ⟨[], Or.inl ⟨signer, rfl⟩, frames _ _ _ member signed⟩
  | @signed next signer given failed =>
      simp only [run]
      have silent : ∀ event ∈ ((next (peer.sign subject state).1).run peer
          (peer.sign subject state).2).events, event.subject? = none := by
        cases (peer.sign subject state).1 with
        | ok signature => exact (unsigned_run (given signature) peer _).1
        | error fault => exact (unsigned_run (failed fault) peer _).1
      constructor
      · intro asked signature member
        rcases List.mem_cons.mp member with same | later
        · cases same
          exact ⟨signer, rfl, _, rfl, silent⟩
        · cases silent _ later
      · intro purpose frame reply member signed
        rcases List.mem_cons.mp member with same | later
        · cases same
        cases gave : (peer.sign subject state).1 with
        | ok signature =>
            rw [gave] at later
            have vouches := (unsigned_run (given signature) peer _).2 _ _ _ later signed
            exact ⟨signature, Or.inr ⟨signer, subject, _, rfl⟩, vouches⟩
        | error fault =>
            rw [gave] at later
            have unsigned := (unsigned_run (failed fault) peer _).2 _ _ _ later
            cases unsigned.symm.trans signed

end Dialogue

section Requests

variable {settings : Settings} {purpose : Purpose} {command : Bytes → Command} {signature : Bytes}

theorem request_sendable
    (short : (command signature).data.length ≤ 255 → signature.length ≤ 255) :
    Unsigned (Sendable (Presents purpose command) signature)
      (exchangeFor purpose (command signature)) := by
  apply unsigned_exchange
  intro frame encoded _
  obtain ⟨fits, rfl⟩ := (Command.encode_eq_ok_iff _ _).mp encoded
  exact ⟨rfl, short fits, Command.frame_laid fits⟩

variable (authorizer : Authorizer) (canonical : Bytes) {subject : Bytes}
  {vouched : Bytes → Purpose → Bytes → Prop}

theorem Authorizer.sign_signsFirst {next : Signature → Dialogue α}
    (given : ∀ signature, Unsigned (Sendable vouched signature) (next (.ok signature)))
    (failed : ∀ fault, Plain (next (.error fault))) :
    SignsFirst authorizer.hasSigner (Authorizer.subject authorizer.policy canonical) vouched
      ((authorizer.sign canonical).bind next) := by
  unfold sign
  split
  · rename_i signer
    exact .signed signer given failed
  · rename_i signer
    exact .unsigned (by simpa using signer) (given [])

theorem Session.whenFree_signsFirst {session : Session} {hasSigner : Bool}
    {body : Dialogue (Except Fault α × Session)}
    (first : SignsFirst hasSigner subject vouched body) :
    SignsFirst hasSigner subject vouched (session.whenFree body) := by
  unfold whenFree
  split
  · split
    · exact .plain trivial
    · exact signsFirst_map first
  · exact .plain trivial

theorem Session.beginRead_signsFirst (session : Session) (key : RecordKey) :
    SignsFirst session.hasSigner
      (Authorizer.subject session.settings.digestPolicy (key.username ++ key.address))
      (Presents (.init .read) fun signature => ⟨session.settings.cla,
        session.settings.readCodes.init, 0, 0,
        key.spelled ++ UInt8.ofNat signature.length :: signature, none⟩)
      (session.beginRead key) := by
  apply whenFree_signsFirst
  rw [Authorizer.authorize, Dialogue.map, Dialogue.bind_assoc]
  apply Authorizer.sign_signsFirst session.authorizer
  · intro signature
    dsimp only [Dialogue.bind]
    by_cases long : signature.length > 255
    · simp only [long, ↓reduceIte]
      trivial
    · simp only [long, ↓reduceIte]
      have short : signature.length ≤ 255 := Nat.not_lt.mp long
      simp only [Transfer.beginRead, Envelope.wire_short short]
      exact unsigned_map (unsigned_map (request_sendable fun _ => short))
  · intro fault
    trivial

theorem FixedRecord.signed_request_signsFirst {operation : FixedOperation}
    {change : Except Fault Response → Except Fault α} {username address : Text} {user named : Bytes}
    (stands : settings.identityEncoding.StandsFor username user)
    (filled : named = padded user settings.usernameWidth ++ padded address settings.addressWidth) :
    SignsFirst authorizer.hasSigner (Authorizer.subject authorizer.policy named)
      (Presents (.fixed operation) fun signature =>
        ⟨settings.cla, code settings operation, 0, 0, named ++ signature, none⟩)
      (signedRequest settings authorizer username address operation change) := by
  cases outcome : name settings username address with
  | error fault =>
      simp only [signedRequest, signedName, outcome]
      exact .plain trivial
  | ok packed =>
      obtain rfl : packed = named := by
        rw [(packed_of_name outcome).2, filled, packedName,
          (stands_identity settings username).unique stands]
      simp only [signedRequest, signedName, outcome]
      rw [Dialogue.map, Dialogue.bind_assoc]
      apply Authorizer.sign_signsFirst
      · intro signature
        dsimp only [Dialogue.bind]
        by_cases outside : signature.length < settings.leastSignature.toNat ∨
            signature.length > settings.mostSignature.toNat
        · simp only [outside, ↓reduceIte]
          trivial
        · simp only [outside, ↓reduceIte]
          let asking (signature : Bytes) : Command :=
            ⟨settings.cla, code settings operation, 0, 0, packed ++ signature, none⟩
          have short : (asking signature).data.length ≤ 255 → signature.length ≤ 255 := by
            intro fits
            simp only [asking, List.length_append] at fits
            omega
          exact unsigned_map (unsigned_map (request_sendable short))
      · intro fault
        trivial

end Requests

/-! No signature speaks for a frame that goes out ahead of the one that asks, so the one that asks has
to be the first. -/
section Leads

namespace Dialogue

/-- The first frame of a dialogue is sent for a purpose. Where none is sent, something is known of the
value instead. -/
def Leads (purpose : Purpose) (silent : α → Prop) : Dialogue α → Prop
  | done value => silent value
  | send other _ _ => other = purpose
  | sign _ next => ∀ signature, Leads purpose silent (next signature)

variable {purpose : Purpose} {silent : α → Prop} {quiet : β → Prop} {dialogue : Dialogue α}

theorem leads_bind {next : α → Dialogue β} (first : Leads purpose silent dialogue)
    (onward : ∀ value, silent value → Leads purpose quiet (next value)) :
    Leads purpose quiet (dialogue.bind next) := by
  induction dialogue with
  | done value => exact onward value first
  | send other frame rest _ => exact first
  | sign subject rest ih => exact fun signature => ih signature (first signature)

theorem leads_map {change : α → β} (first : Leads purpose silent dialogue)
    (passes : ∀ value, silent value → quiet (change value)) :
    Leads purpose quiet (dialogue.map change) :=
  leads_bind first passes

theorem leads_run (leads : Leads purpose silent dialogue) (peer : Peer σ) (state : σ)
    {first : Purpose} (sent : (dialogue.run peer state).purposes.head? = some first) :
    first = purpose := by
  induction dialogue generalizing state with
  | done value => cases sent
  | send other frame rest _ =>
      cases sent
      exact leads
  | sign subject rest ih => exact ih _ (leads _) _ sent

def Fails {ε : Type} (outcome : Except ε α) : Prop :=
  ∃ error, outcome = .error error

theorem exchangeFor_leads (purpose : Purpose) (command : Command) :
    Leads purpose Fails (exchangeFor purpose command) := by
  unfold exchangeFor
  split
  · rfl
  · exact ⟨_, rfl⟩

theorem sign_leads (purpose : Purpose) (authorizer : Authorizer) (canonical : Bytes) :
    Leads purpose (fun _ => True) (authorizer.sign canonical) := by
  unfold Authorizer.sign
  split
  · exact fun _ => trivial
  · trivial

end Dialogue

variable {settings : Settings} {session : Session}

theorem FixedRecord.signed_request_leads (authorizer : Authorizer) (username address : Text)
    (operation : FixedOperation) {change : Except Fault Response → Except Fault α}
    (relays : ∀ fault, change (.error fault) = .error fault) :
    Leads (.fixed operation) Fails
      (signedRequest settings authorizer username address operation change) := by
  have named : Leads (.fixed operation) (fun _ => True)
      (signedName settings authorizer username address) := by
    unfold signedName
    split
    · trivial
    · exact leads_map (sign_leads _ authorizer _) fun _ _ => trivial
  apply leads_bind named
  intro outcome _
  cases outcome with
  | error fault => exact ⟨fault, rfl⟩
  | ok data =>
      have asked : Leads (.fixed operation) Fails (request settings operation data) := by
        apply leads_map (exchangeFor_leads _ _)
        rintro _ ⟨fault, rfl⟩
        exact ⟨fault, rfl⟩
      apply leads_map asked
      rintro _ ⟨fault, rfl⟩
      exact ⟨fault, relays fault⟩

namespace Session

theorem whenFree_leads {purpose : Purpose} {body : Dialogue (Except Fault α × Session)}
    (first : Leads purpose (fun result => Fails result.1) body) :
    Leads purpose (fun result => Fails result.1) (session.whenFree body) := by
  unfold whenFree
  split
  · split
    · exact ⟨_, rfl⟩
    · apply leads_map first
      rintro ⟨_, after⟩ ⟨fault, rfl⟩
      exact ⟨_, rfl⟩
  · exact ⟨_, rfl⟩

theorem beginRead_leads (session : Session) (key : RecordKey) :
    Leads (.init .read) (fun result => Fails result.1) (session.beginRead key) := by
  have authorized : Leads (.init .read) (fun _ => True) (session.authorizer.authorize key) :=
    leads_map (sign_leads _ _ _) fun _ _ => trivial
  apply whenFree_leads
  apply leads_bind authorized
  intro outcome _
  cases outcome with
  | error fault => exact ⟨fault, rfl⟩
  | ok envelope =>
      have asked : Leads (.init .read) Fails (Transfer.beginRead session.settings envelope) := by
        unfold Transfer.beginRead
        split
        · exact ⟨_, rfl⟩
        · apply leads_map (exchangeFor_leads _ _)
          rintro _ ⟨fault, rfl⟩
          exact ⟨fault, rfl⟩
      apply leads_map asked
      rintro _ ⟨fault, rfl⟩
      exact ⟨fault, rfl⟩

theorem fixed_leads {operation : FixedOperation} {dialogue : Dialogue (Except Fault α)}
    {payload : α → Option Bytes} (first : Leads (.fixed operation) Fails dialogue) :
    Leads (.fixed operation) (fun _ => True)
      (shown payload (session.whenFree (dialogue.map (·, session)))) := by
  have asked : Leads (.fixed operation) (fun result => Fails result.1)
      (dialogue.map fun outcome => (outcome, session)) := leads_map first fun _ fails => fails
  exact leads_map (whenFree_leads asked) fun _ _ => trivial

theorem perform_leads {call : Call} {named : Bytes} {purpose : Purpose} {command : Bytes → Command}
    (requests : Requests settings call named purpose command) :
    Leads purpose (fun _ => True) (session.perform call) := by
  cases requests with
  | beginRead key => exact leads_map (session.beginRead_leads key) fun _ _ => trivial
  | read key =>
      have asked : Leads (.init .read) (fun _ => True) (session.read key) := by
        apply leads_bind (session.beginRead_leads key)
        rintro ⟨_, after⟩ ⟨failure, rfl⟩
        trivial
      exact leads_map asked fun _ _ => trivial
  | readFixed => exact fixed_leads (FixedRecord.signed_request_leads _ _ _ .read fun _ => rfl)
  | deleteFixed => exact fixed_leads (FixedRecord.signed_request_leads _ _ _ .delete fun _ => rfl)

end Session

end Leads

namespace Session

variable {session : Session} {call : Call} {named : Bytes} {purpose : Purpose}
  {command : Bytes → Command}

theorem shown_signsFirst {payload : α → Option Bytes} {dialogue : Dialogue (Outcome α × Session)}
    {hasSigner : Bool} {subject : Bytes} {vouched : Bytes → Purpose → Bytes → Prop}
    (first : SignsFirst hasSigner subject vouched dialogue) :
    SignsFirst hasSigner subject vouched (shown payload dialogue) :=
  signsFirst_map first

theorem perform_signsFirst (requests : Requests session.settings call named purpose command) :
    SignsFirst session.hasSigner (Authorizer.subject session.settings.digestPolicy named)
      (Presents purpose command) (session.perform call) := by
  cases requests with
  | beginRead key => exact shown_signsFirst (session.beginRead_signsFirst key)
  | read key =>
      apply shown_signsFirst
      apply signsFirst_bind (session.beginRead_signsFirst key)
      rintro ⟨outcome, begun⟩
      cases outcome with
      | ok value => exact begun.drain_plain
      | error failure => trivial
  | readFixed stands _ _ filled =>
      exact shown_signsFirst (whenFree_signsFirst (signsFirst_map
        (FixedRecord.signed_request_signsFirst session.authorizer stands filled)))
  | deleteFixed stands _ _ filled =>
      exact shown_signsFirst (whenFree_signsFirst (signsFirst_map
        (FixedRecord.signed_request_signsFirst session.authorizer stands filled)))

theorem unnamed_plain {operation : FixedOperation} {username address : Text}
    {change : Except Fault Response → Except Fault α}
    (unnamed : ∀ named, FixedRecord.name session.settings username address ≠ .ok named) :
    Plain (session.whenFree
      ((FixedRecord.signedRequest session.settings session.authorizer username address operation
        change).map (·, session))) := by
  apply whenFree_unsigned
  cases outcome : FixedRecord.name session.settings username address with
  | ok named => exact absurd outcome (unnamed named)
  | error fault =>
      simp only [FixedRecord.signedRequest, FixedRecord.signedName, outcome]
      trivial

theorem perform_plain (requestless : ∀ named purpose command,
    ¬ Requests session.settings call named purpose command) : Plain (session.perform call) := by
  cases call with
  | beginStore key => exact unsigned_map (session.beginStore_plain key)
  | continueStore payload => exact unsigned_map (session.continueStore_plain payload)
  | finalizeStore => exact unsigned_map session.finalizeStore_plain
  | beginRead key => exact absurd (.beginRead key) (requestless _ _ _)
  | continueRead => exact unsigned_map session.continueRead_plain
  | finalizeRead => exact unsigned_map session.finalizeRead_plain
  | store key payload => exact unsigned_map (session.store_plain key payload)
  | read key => exact absurd (.read key) (requestless _ _ _)
  | storeFixed username address message =>
      exact unsigned_map (session.storeFixed_plain username address message)
  | readFixed username address =>
      refine unsigned_map (unnamed_plain fun named packed => ?_)
      obtain ⟨fits, _⟩ := FixedRecord.packed_of_name packed
      have stands := FixedRecord.stands_identity session.settings username
      exact requestless _ _ _ (.readFixed stands fits.username fits.address rfl)
  | deleteFixed username address =>
      refine unsigned_map (unnamed_plain fun named packed => ?_)
      obtain ⟨fits, _⟩ := FixedRecord.packed_of_name packed
      have stands := FixedRecord.stands_identity session.settings username
      exact requestless _ _ _ (.deleteFixed stands fits.username fits.address rfl)
  | abort => trivial
  | reset => trivial

/-- What is signed is what is sent. The signer is asked at most once in a call, before anything goes
out, for the name of the record that the call asks for or for its digest; the frame that asks goes
first and carries that name with the signature given for it, and a signer that fails keeps the card
out of it. A call that asks for no record by name neither signs anything nor sends such a frame. -/
theorem signed_is_sent (session : Session) (call : Call) (peer : Peer σ) (state : σ) :
    let transcript := (session.perform call).run peer state
    ((∀ named purpose command, ¬ Requests session.settings call named purpose command) →
      transcript.signed = [] ∧ ∀ purpose ∈ transcript.purposes, purpose.isSigned = false) ∧
    ∀ named purpose command, Requests session.settings call named purpose command →
      (∀ first, transcript.purposes.head? = some first → first = purpose) ∧
      (∀ asked signature, .signed asked signature ∈ transcript.events →
        session.hasSigner = true ∧ session.settings.digestPolicy.Covers named asked ∧
        ∃ rest, transcript.events = .signed asked signature :: rest ∧
          (∀ event ∈ rest, event.subject? = none) ∧
          ∀ fault, signature = .error fault → rest = []) ∧
      ∀ other frame reply, .sent other frame reply ∈ transcript.events → other.isSigned = true →
        ∃ signature, InHand session.hasSigner transcript.events signature ∧
          Presents purpose command signature other frame := by
  intro transcript
  constructor
  · intro requestless
    obtain ⟨silent, frames⟩ := unsigned_run (perform_plain requestless) peer state
    constructor
    · exact List.filterMap_eq_nil_iff.mpr silent
    · intro purpose member
      obtain ⟨event, passed, sends⟩ := List.mem_filterMap.mp member
      cases event with
      | sent other frame reply =>
          cases sends
          exact frames _ _ _ passed
      | signed subject signature => cases sends
  · intro named purpose command requests
    obtain ⟨signs, vouches⟩ := signsFirst_run (perform_signsFirst requests) peer state
    refine ⟨fun first => leads_run (perform_leads requests) peer state, ?_, vouches⟩
    intro asked signature member
    obtain ⟨signer, rfl, rest, split, silent⟩ := signs asked signature member
    refine ⟨signer, session.settings.digestPolicy.covers_subject named, rest, split, silent, ?_⟩
    -- A fault ends the call, so what comes first is also the last.
    rintro fault rfl
    obtain ⟨⟨earlier, final, _⟩, _⟩ := perform_raised peer state member rfl
    have whole := split.symm.trans final
    cases earlier with
    | nil => exact (List.cons.inj whole).2
    | cons event earlier =>
        rw [(List.cons.inj whole).2] at silent
        cases silent _ (List.mem_append_right _ (List.mem_singleton_self _))

def digesting : Session :=
  ⟨{ digestPolicy := .sha256 }, rfl, true, none, [], true⟩

theorem sample_digests_are_signed :
    let peer := Peer.steady twoBytes (.ok [5, 6, 7, 8, 9, 10, 11, 12])
    let settings : Settings := digesting.settings
    let read := (digesting.perform (.read sampleKey)).run peer ()
    let delete := (digesting.perform (.deleteFixed (text "u") (text "a"))).run peer ()
    let packed := 117 :: List.replicate 31 0 ++ 97 :: List.replicate 63 0
    let asking := [0x80, 0x20, 0, 0, 13, 1, 117, 1, 97, 8, 5, 6, 7, 8, 9, 10, 11, 12]
    let deleting := [0x80, 0x30, 0, 0, 104] ++ packed ++ [5, 6, 7, 8, 9, 10, 11, 12]
    ((∀ named purpose command, ¬ Requests settings .finalizeRead named purpose command) ∧
      ((digesting.perform .finalizeRead).run peer ()).signed = []) ∧
    (∃ command, Requests settings (.read sampleKey) [117, 97] (.init .read) command ∧
      read.signed = [Digest.sha256 [117, 97]] ∧
      settings.digestPolicy.Covers [117, 97] (Digest.sha256 [117, 97]) ∧
      ∃ signature, InHand true read.events signature ∧
        Presents (.init .read) command signature (.init .read) asking) ∧
    ∃ command, Requests settings (.deleteFixed (text "u") (text "a")) packed (.fixed .delete)
        command ∧
      delete.signed = [Digest.sha256 packed] ∧
      settings.digestPolicy.Covers packed (Digest.sha256 packed) ∧
      ∃ signature, InHand true delete.events signature ∧
        Presents (.fixed .delete) command signature (.fixed .delete) deleting := by
  intro peer settings read delete packed asking deleting
  have requestless : ∀ named purpose command,
      ¬ Requests settings .finalizeRead named purpose command :=
    fun _ _ _ requests => nomatch requests
  have reads : Requests settings (.read sampleKey) [117, 97] (.init .read) _ := .read sampleKey
  have deletes : Requests settings (.deleteFixed (text "u") (text "a")) packed (.fixed .delete) _ :=
    .deleteFixed rfl (by decide) (by decide) rfl
  have readPassed : read.events =
      [.signed (Digest.sha256 [117, 97]) (.ok [5, 6, 7, 8, 9, 10, 11, 12]),
        .sent (.init .read) asking twoBytes,
        .sent (.later .read .advance) [0x80, 0x21, 0, 0, 0, 0] twoBytes,
        .sent (.later .read .finalize) [0x80, 0x22, 0, 0] twoBytes] := rfl
  have deletePassed : delete.events =
      [.signed (Digest.sha256 packed) (.ok [5, 6, 7, 8, 9, 10, 11, 12]),
        .sent (.fixed .delete) deleting twoBytes] := rfl
  obtain ⟨_, readSigns, readPresents⟩ :=
    (signed_is_sent digesting (.read sampleKey) peer ()).2 _ _ _ reads
  obtain ⟨_, deleteSigns, deletePresents⟩ :=
    (signed_is_sent digesting (.deleteFixed (text "u") (text "a")) peer ()).2 _ _ _ deletes
  obtain ⟨_, readCovers, _⟩ := readSigns (Digest.sha256 [117, 97])
    (.ok [5, 6, 7, 8, 9, 10, 11, 12]) (by rw [readPassed]; exact List.mem_cons_self)
  obtain ⟨_, deleteCovers, _⟩ := deleteSigns (Digest.sha256 packed)
    (.ok [5, 6, 7, 8, 9, 10, 11, 12]) (by rw [deletePassed]; exact List.mem_cons_self)
  have readSent : .sent (.init .read) asking twoBytes ∈ read.events := by simp [readPassed]
  have deleteSent : .sent (.fixed .delete) deleting twoBytes ∈ delete.events := by
    simp [deletePassed]
  refine ⟨⟨requestless, ((signed_is_sent digesting .finalizeRead peer ()).1 requestless).1⟩,
    ⟨_, reads, ?_, readCovers, readPresents _ _ _ readSent rfl⟩,
    ⟨_, deletes, ?_, deleteCovers, deletePresents _ _ _ deleteSent rfl⟩⟩
  · rw [Transcript.signed, readPassed]
    rfl
  · rw [Transcript.signed, deletePassed]
    rfl

end Session

end CardVault
