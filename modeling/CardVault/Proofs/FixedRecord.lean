import CardVault.FixedRecord
import Mathlib.Data.List.DropRight

/-!
Fields of fixed width and the requests that carry them. A field that fits its width is followed by
zeros up to it, and stripping takes off just those zeros that end a field. Where the fields fit, a
request is a single exchange, after the signer has been asked where the record is only named.
-/

namespace CardVault

section

variable {α σ : Type}

namespace Settings

/-! Widths that are added up here do not wrap, as the sums of `Settings.check` do. -/

def nameWidth (settings : Settings) : Nat :=
  settings.usernameWidth.toNat + settings.addressWidth.toNat

def recordWidth (settings : Settings) : Nat :=
  settings.nameWidth + settings.messageWidth.toNat

def requestWidth (settings : Settings) : Nat :=
  settings.nameWidth + settings.mostSignature.toNat

end Settings

namespace FixedRecord

def padded (field : Bytes) (width : UInt64) : Bytes :=
  field ++ List.replicate (width.toNat - field.length) 0

section Fields

variable {field bytes : Bytes} {width : UInt64} {label : Text}

theorem padded_length (fits : field.length ≤ width.toNat) :
    (padded field width).length = width.toNat := by
  simp only [padded, List.length_append, List.length_replicate]
  omega

theorem pad_eq_padded (fits : field.length ≤ width.toNat) (small : width.toNat ≤ 255)
    (label : Text) : pad field width label = .ok (padded field width) := by
  have inMemory : width < Memory.tooMuch := by
    rw [UInt64.lt_iff_toNat_lt]
    change width.toNat < 4294967296
    omega
  have narrow : ¬ field.length > width.toNat := Nat.not_lt.mpr fits
  rw [pad, if_neg narrow, Memory.request_ok inMemory]
  rfl

theorem eq_padded_of_pad (packed : pad field width label = .ok bytes) :
    bytes = padded field width := by
  unfold pad at packed
  split at packed
  · cases packed
  · cases room : Memory.request .padding width with
    | ok _ =>
        rw [room] at packed
        cases packed
        rfl
    | error fault =>
        rw [room] at packed
        cases packed

theorem fits_of_pad (packed : pad field width label = .ok bytes) :
    field.length ≤ width.toNat := by
  unfold pad at packed
  split at packed
  · cases packed
  · rename_i narrow
    exact Nat.not_lt.mp narrow

theorem strip_append_zeros (field : Bytes) (count : Nat) :
    strip (field ++ List.replicate count 0) = strip field := by
  change List.rdropWhile _ _ = List.rdropWhile _ _
  induction count with
  | zero => simp
  | succ count ih =>
      rw [List.replicate_succ', ← List.append_assoc, List.rdropWhile_concat_pos _ _ _ (by rfl), ih]

theorem strip_spec (field : Bytes) :
    (∃ count, field = strip field ++ List.replicate count 0) ∧ (strip field).getLast? ≠ some 0 := by
  constructor
  · have zeros : ∀ byte ∈ field.rtakeWhile (· == 0), byte = 0 := by
      intro byte member
      simpa using List.mem_rtakeWhile_imp member
    refine ⟨(field.rtakeWhile (· == 0)).length, ?_⟩
    rw [← List.eq_replicate_of_mem zeros]
    exact List.rdropWhile_append_rtakeWhile.symm
  · intro ends
    have filled : List.rdropWhile (· == (0 : UInt8)) field ≠ [] := by
      intro empty
      change (List.rdropWhile (· == (0 : UInt8)) field).getLast? = some 0 at ends
      rw [empty] at ends
      cases ends
    have last := List.rdropWhile_last_not _ field filled
    apply last
    change (List.rdropWhile (· == (0 : UInt8)) field).getLast? = some 0 at ends
    rw [List.getLast?_eq_some_getLast filled] at ends
    simpa using ends

theorem strip_eq_self_iff (field : Bytes) : strip field = field ↔ field.getLast? ≠ some 0 := by
  constructor
  · intro same
    rw [← same]
    exact (strip_spec field).2
  · intro ends
    obtain ⟨⟨count, whole⟩, _⟩ := strip_spec field
    cases count with
    | zero => simpa using whole.symm
    | succ count =>
        rw [whole, List.replicate_succ', ← List.append_assoc, List.getLast?_concat] at ends
        exact absurd rfl ends

end Fields

/-- A user name, or what stands for it, and an address that fit their widths. -/
structure Fits (settings : Settings) (username address : Text) : Prop where
  username : (identity settings username).length ≤ settings.usernameWidth.toNat
  address : address.length ≤ settings.addressWidth.toNat

def packedName (settings : Settings) (username address : Text) : Bytes :=
  padded (identity settings username) settings.usernameWidth ++
    padded address settings.addressWidth

def packedContent (settings : Settings) (username address : Text) (message : Bytes) : Bytes :=
  packedName settings username address ++ padded message settings.messageWidth

variable {settings : Settings} {username address : Text} {message packed data : Bytes}

/-- A digest has a width of its own, so only a user name that stands for itself can be too long. -/
theorem identity_fits (digest : settings.identityEncoding = .sha256 → 32 ≤ settings.usernameWidth.toNat)
    (short : settings.identityEncoding = .pad → username.length ≤ settings.usernameWidth.toNat) :
    (identity settings username).length ≤ settings.usernameWidth.toNat := by
  unfold identity
  cases encoding : settings.identityEncoding with
  | pad => exact short encoding
  | sha256 => exact digest encoding

theorem packedName_length (fits : Fits settings username address) :
    (packedName settings username address).length = settings.nameWidth := by
  rw [packedName, List.length_append, padded_length fits.username, padded_length fits.address,
    Settings.nameWidth]

theorem packedContent_length (fits : Fits settings username address)
    (short : message.length ≤ settings.messageWidth.toNat) :
    (packedContent settings username address message).length = settings.recordWidth := by
  rw [packedContent, List.length_append, packedName_length fits, padded_length short,
    Settings.recordWidth]

theorem packUsername_eq_padded (fits : Fits settings username address)
    (small : settings.nameWidth ≤ 255) :
    packUsername settings username =
      .ok (padded (identity settings username) settings.usernameWidth) := by
  unfold Settings.nameWidth at small
  exact pad_eq_padded fits.username (by omega) (text "username")

theorem packAddress_eq_padded (fits : Fits settings username address)
    (small : settings.nameWidth ≤ 255) :
    packAddress settings address = .ok (padded address settings.addressWidth) := by
  unfold Settings.nameWidth at small
  exact pad_eq_padded fits.address (by omega) (text "address")

theorem name_eq_packedName (fits : Fits settings username address)
    (small : settings.nameWidth ≤ 255) :
    name settings username address = .ok (packedName settings username address) := by
  rw [name, packUsername_eq_padded fits small, packAddress_eq_padded fits small]
  rfl

theorem content_eq_packedContent (fits : Fits settings username address)
    (short : message.length ≤ settings.messageWidth.toNat)
    (small : settings.recordWidth ≤ 255) :
    content settings username address message =
      .ok (packedContent settings username address message) := by
  unfold Settings.recordWidth at small
  have named := name_eq_packedName fits (by omega)
  have body := pad_eq_padded short (by omega) (text "message")
  rw [content, packMessage, named, body]
  rfl

theorem packed_of_name (named : name settings username address = .ok packed) :
    Fits settings username address ∧ packed = packedName settings username address := by
  unfold name at named
  cases user : packUsername settings username with
  | error fault =>
      rw [user] at named
      cases named
  | ok first =>
      cases place : packAddress settings address with
      | error fault =>
          rw [user, place] at named
          cases named
      | ok second =>
          rw [user, place] at named
          cases named
          refine ⟨⟨fits_of_pad user, fits_of_pad place⟩, ?_⟩
          rw [eq_padded_of_pad user, eq_padded_of_pad place, packedName]

section Requests

variable (peer : Peer σ) (state : σ) (operation : FixedOperation)

variable (settings) in
theorem request_run (fits : data.length ≤ 255) :
    let transcript := (request settings operation data).run peer state
    ∃ reply, transcript.events =
        [.sent (.fixed operation) (command settings operation data).frame reply] ∧
      ∀ response, reply.response? = some response → response.status = 0x9000 →
        transcript.value = .ok response := by
  have fitsCommand : (command settings operation data).data.length ≤ 255 := fits
  simp only [request, Dialogue.exchangeFor_fits _ _ fitsCommand, Dialogue.map, Dialogue.bind,
    Dialogue.run]
  refine ⟨_, rfl, fun response given success => ?_⟩
  rw [(Reply.received_eq_ok_iff _ _).mpr given]
  simp only [(StatusWord.isSuccess_iff_eq _).mpr success, ↓reduceIte]

variable (settings) in
theorem request_unsent (long : 255 < data.length) :
    ((request settings operation data).run peer state).events = [] := by
  have refused : (command settings operation data).encode =
      .error (.commandTooLong data.length) := if_pos long
  simp only [request, Dialogue.exchangeFor, refused]
  rfl

theorem store_run (filled : content settings username address message = .ok data) :
    ((store settings username address message).run peer state).events =
      ((request settings .store data).run peer state).events := by
  simp only [store, filled, Dialogue.run_map]

theorem store_sends (fits : Fits settings username address)
    (short : message.length ≤ settings.messageWidth.toNat)
    (record : settings.recordWidth ≤ 255) :
    ∃ reply, ((store settings username address message).run peer state).events =
      [.sent (.fixed .store)
        (command settings .store (packedContent settings username address message)).frame
        reply] := by
  have small : (packedContent settings username address message).length ≤ 255 := by
    rw [packedContent_length fits short]
    exact record
  obtain ⟨reply, sent, _⟩ := request_run settings peer state .store small
  rw [store_run peer state (content_eq_packedContent fits short record)]
  exact ⟨reply, sent⟩

variable {authorizer : Authorizer} {signature : Bytes}
  {change : Except Fault Response → Except Fault α}

theorem signed_request_run (named : name settings username address = .ok packed)
    (given : ((authorizer.sign packed).run peer state).value = .ok signature)
    (atLeast : settings.leastSignature.toNat ≤ signature.length)
    (atMost : signature.length ≤ settings.mostSignature.toNat) :
    let signing := (authorizer.sign packed).run peer state
    let asking := (request settings operation (packed ++ signature)).run peer signing.peer
    (signedRequest settings authorizer username address operation change).run peer state =
      ⟨change asking.value, signing.events ++ asking.events, asking.peer⟩ := by
  have inside : ¬ (signature.length < settings.leastSignature.toNat ∨
      signature.length > settings.mostSignature.toNat) := by omega
  simp only [signedRequest, signedName, named, Dialogue.run_bind, Dialogue.run_map, given, inside,
    ↓reduceIte]

theorem signed_request_unsent {fault : Fault}
    (unpacked : name settings username address = .error fault) :
    ((signedRequest settings authorizer username address operation change).run
      peer state).events = [] := by
  simp only [signedRequest, signedName, unpacked]
  rfl

end Requests

end FixedRecord

end

/-!
Round trip of a fixed record. What is stored is the name of the record and its message, each filled
up with zeros; reading and deleting send the same name. A card that gives back the end of what was
stored gives back the message, short of the zeros that end it.
-/

namespace FixedRecord

variable {α σ : Type} {settings : Settings} {username address : Text} {message named : Bytes}

section Runs

variable (card : Peer σ) (state : σ)

end Runs

end FixedRecord

end CardVault
