import CardVault.Proofs.ReadCourse.Calls
import CardVault.Proofs.Refusal
import CardVault.Proofs.RoundTrip

/-!
How far INIT reaches. A key goes into one frame with two length bytes, and with three where its record
is asked for, since a signature comes along. So there are records that can be stored but that no read
can ask for; the limits of the single fields alone do not rule them out.
-/

namespace CardVault

open Dialogue

variable {α σ : Type}

namespace Transfer

variable (settings : Settings) (peer : Peer σ) (state : σ)

theorem beginStore_sent (key : RecordKey) :
    ((beginStore settings key).run peer state).sent =
      if key.wire.length ≤ 255 then [(initCommand settings .store key.wire).frame] else [] :=
  exchangeFor_sent _ (initCommand settings .store key.wire) _ peer state

theorem beginStore_unfit {key : RecordKey} (unfit : 255 < key.wire.length) :
    beginStore settings key = .done (.error (.protocol (.commandTooLong key.wire.length))) := by
  rw [beginStore, exchangeFor_unfit _ (initCommand settings .store key.wire) unfit]
  rfl

variable {envelope : Envelope} {data : Bytes} (wire : envelope.wire = .ok data)
include wire

theorem beginRead_sent :
    ((beginRead settings envelope).run peer state).sent =
      if data.length ≤ 255 then [(initCommand settings .read data).frame] else [] := by
  simp only [beginRead, wire]
  exact exchangeFor_sent _ (initCommand settings .read data) _ peer state

theorem beginRead_unfit (unfit : 255 < data.length) :
    beginRead settings envelope = .done (.error (.protocol (.commandTooLong data.length))) := by
  simp only [beginRead, wire]
  rw [exchangeFor_unfit _ (initCommand settings .read data) unfit]
  rfl

end Transfer

namespace Session

variable {session : Session} {key : RecordKey} {signature : Bytes}

/-- A call is declined for its argument: nothing is sent, the card has no part in the failure, and the
session is free for another call. -/
structure Declined (transcript : Transcript σ (Outcome α × Session)) : Prop where
  unsent : transcript.sent = []
  outcome : ∃ message, transcript.value.1 = .error ⟨.invalidArgument, none, message⟩
  free : transcript.value.2.Free

theorem settle_declined (free : session.Free) {error : ProtocolError}
    (blames : error.kind = .invalidArgument) (cardless : error.status = none) {events : List Event}
    (unsent : events.filterMap Event.frame? = []) (last : σ) :
    Declined (α := α) ⟨settle (.error (.protocol error), session), events, last⟩ where
  unsent := unsent
  outcome := ⟨error.message, by simp [settle, Fault.failure, blames, cardless]⟩
  free := by
    simp only [settle, Fault.failure, blames]
    exact ⟨free.1, rfl⟩

variable (peer : Peer σ) (state : σ)

theorem beginStore_reaches (free : session.Free) (fits : key.wire.length ≤ 255) :
    ((session.beginStore key).run peer state).sent =
      [(Transfer.initCommand session.settings .store key.wire).frame] := by
  simp only [beginStore, whenFree_eq free.1 free.2, run_map]
  exact (Transfer.beginStore_sent session.settings peer state key).trans (if_pos fits)

theorem beginStore_declined (free : session.Free) (unfit : 255 < key.wire.length) :
    Declined ((session.beginStore key).run peer state) := by
  rw [beginStore, whenFree_eq free.1 free.2, Transfer.beginStore_unfit session.settings unfit]
  exact settle_declined free rfl rfl rfl state

theorem authorize_long (obtained : session.Obtains peer state key signature)
    (long : 255 < signature.length) :
    let transcript := (session.authorizer.authorize key).run peer state
    transcript.value = .error (.protocol (.signatureTooLong signature.length)) ∧
      transcript.sent = [] := by
  cases signer : session.hasSigner with
  | false =>
      rw [obtained.unsigned signer] at long
      cases long
  | true =>
      have given := obtained.signed signer
      simp only [Authorizer.authorize, Authorizer.sign, authorizer, signer, ↓reduceIte,
        Dialogue.map, Dialogue.bind, run, given, long]
      exact ⟨trivial, rfl⟩

theorem beginRead_reaches (free : session.Free) (obtained : session.Obtains peer state key signature)
    (fits : (key.wire ++ Field.encode signature).length ≤ 255) :
    ((session.beginRead key).run peer state).sent =
      [(Transfer.initCommand session.settings .read (key.wire ++ Field.encode signature)).frame] := by
  have short := Envelope.signature_short fits
  have wire : (Envelope.mk key signature).wire = .ok (key.wire ++ Field.encode signature) :=
    Envelope.wire_short short
  rcases authorize_course peer state obtained short with ⟨authorized, unsent, _⟩
  have request := Transfer.beginRead_sent session.settings peer
    ((session.authorizer.authorize key).run peer state).peer wire
  rw [if_pos fits] at request
  simp only [Transcript.sent] at unsent request ⊢
  simp only [beginRead, whenFree_eq free.1 free.2, run_map, run_bind, authorized,
    List.filterMap_append, unsent, request, List.nil_append]

-- Either the signature alone is too long, or what it makes of the request.
theorem beginRead_declined (free : session.Free)
    (obtained : session.Obtains peer state key signature)
    (unfit : 255 < (key.wire ++ Field.encode signature).length) :
    Declined ((session.beginRead key).run peer state) := by
  simp only [beginRead, whenFree_eq free.1 free.2, run_map, run_bind]
  by_cases long : 255 < signature.length
  · rcases authorize_long peer state obtained long with ⟨refused, unsent⟩
    simp only [refused, run, List.append_nil]
    exact settle_declined free rfl rfl unsent _
  · have short := Nat.not_lt.mp long
    rcases authorize_course peer state obtained short with ⟨authorized, unsent, _⟩
    simp only [authorized, Transfer.beginRead_unfit session.settings (Envelope.wire_short short) unfit,
      Dialogue.map, Dialogue.bind, run, List.append_nil]
    exact settle_declined free rfl rfl unsent _

/-- There is a card in which the payload can be stored under the key. -/
def Storable (session : Session) (key : RecordKey) (payload : Bytes) : Prop :=
  ∃ (σ : Type) (card : Peer σ) (state : σ),
    ((session.store key payload).run card state).value.1 = .ok ()

def Askable (session : Session) (key : RecordKey) (signature : Bytes) : Prop :=
  ∃ (σ : Type) (card : Peer σ) (state : σ), session.Obtains card state key signature ∧
    ((session.beginRead key).run card state).value.1 = .ok ()

theorem storable_iff (free : session.Free) (payload : Bytes) :
    session.Storable key payload ↔ key.wire.length ≤ 255 := by
  constructor
  · rintro ⟨σ, card, state, stored⟩
    apply Nat.not_lt.mp
    intro unfit
    rcases (beginStore_declined card state free unfit).outcome with ⟨message, refused⟩
    have failed : ((session.beginStore key).run card state).value = (.error _, _) :=
      Prod.ext refused rfl
    rw [store, andThen_run_error card state failed] at stored
    cases stored
  · intro fits
    have taken : ∀ reply ∈ ((session.store key payload).run
        (.steady (.ofBytes [0x90, 0]) (.ok [])) ()).replies, reply.status? = some 0x9000 := by
      intro reply member
      rcases run_replies _ _ () reply member with ⟨frame, before, rfl⟩
      rfl
    have stored := (store_taken session free.1 free.2 key fits payload _ () taken).1
    exact ⟨Unit, _, (), congrArg Prod.fst stored⟩

theorem askable_iff (free : session.Free) (possible : session.hasSigner = false → signature = []) :
    session.Askable key signature ↔ (key.wire ++ Field.encode signature).length ≤ 255 := by
  constructor
  · rintro ⟨σ, card, state, obtained, begun⟩
    apply Nat.not_lt.mp
    intro unfit
    rcases (beginRead_declined card state free obtained unfit).outcome with ⟨message, refused⟩
    rw [refused] at begun
    cases begun
  · intro fits
    have short := Envelope.signature_short fits
    have obtained : session.Obtains (.steady (.ofBytes [0, 0, 0x90, 0]) (.ok signature)) () key
        signature := ⟨possible, fun _ => rfl⟩
    have authorized := (authorize_course _ () obtained short).1
    refine ⟨Unit, _, (), obtained, ?_⟩
    simp only [beginRead, whenFree_eq free.1 free.2, run_map, run_bind, authorized,
      Transfer.beginRead, Envelope.wire_short short]
    rw [exchangeFor_fits _ (Transfer.initCommand session.settings .read _) fits]
    rfl

/-- How far INIT reaches. The key of a store goes out in one frame if it has at most 253 bytes, and that
of a read if it has at most 252 with the signature that comes along. Anything longer is declined, and
so the records that can be stored but not asked for are those between the two limits. -/
theorem init_reach_exact (session : Session) (free : session.Free) (key : RecordKey) (peer : Peer σ)
    (state : σ) :
    let named := key.username.length + key.address.length
    let storing := (session.beginStore key).run peer state
    let reading := (session.beginRead key).run peer state
    (named ≤ 253 →
      storing.sent = [(Transfer.initCommand session.settings .store key.wire).frame]) ∧
    (253 < named → Declined storing) ∧
    (∀ signature, session.Obtains peer state key signature →
      (named + signature.length ≤ 252 → reading.sent =
        [(Transfer.initCommand session.settings .read (key.wire ++ Field.encode signature)).frame]) ∧
      (252 < named + signature.length → Declined reading)) ∧
    ∀ payload signature, (session.hasSigner = false → signature = []) →
      (session.Storable key payload ∧ ¬ session.Askable key signature ↔
        named ≤ 253 ∧ 252 < named + signature.length) := by
  intro named storing reading
  have stored : key.wire.length = 2 + named := by
    rw [key.wire_length]
    omega
  have asked (signature : Bytes) :
      (key.wire ++ Field.encode signature).length = 3 + (named + signature.length) := by
    rw [Envelope.text_length]
    omega
  refine ⟨?_, ?_, ?_, ?_⟩
  · intro fits
    exact beginStore_reaches peer state free (by omega)
  · intro unfit
    exact beginStore_declined peer state free (by omega)
  · intro signature obtained
    constructor
    · intro fits
      exact beginRead_reaches peer state free obtained (by rw [asked]; omega)
    · intro unfit
      exact beginRead_declined peer state free obtained (by rw [asked]; omega)
  · intro payload signature possible
    rw [storable_iff free payload, askable_iff free possible, stored, asked]
    omega

theorem longest_key_out_of_reach :
    let key : RecordKey := ⟨List.replicate 200 117, List.replicate 53 97,
      by rw [List.length_replicate]; decide, by rw [List.length_replicate]; decide⟩
    let card := Peer.steady (.ofBytes [0x90, 0]) (.ok [5])
    let reading := ((standard true).beginRead key).run card ()
    (standard true).Free ∧
      (((standard true).beginStore key).run card ()).sent =
        [(Transfer.initCommand {} .store key.wire).frame] ∧
      (standard true).Obtains card () key [5] ∧ Declined reading ∧
      (standard true).Storable key [1, 2, 3] ∧ ¬ (standard true).Askable key [5] := by
  intro key card reading
  have free : (standard true).Free := ⟨rfl, rfl⟩
  have obtained : (standard true).Obtains card () key [5] :=
    ⟨fun unsigned => (by cases unsigned), fun _ => rfl⟩
  have named : key.username.length + key.address.length = 253 := by
    simp only [key, List.length_replicate]
  rcases init_reach_exact (standard true) free key card () with ⟨storing, _, asking, between⟩
  rw [named] at storing asking between
  have outside := between [1, 2, 3] [5] fun unsigned => by cases unsigned
  rcases outside.mpr ⟨by decide, by decide⟩ with ⟨stores, unasked⟩
  exact ⟨free, storing (by decide), obtained, (asking [5] obtained).2 (by decide), stores, unasked⟩

end Session

end CardVault
