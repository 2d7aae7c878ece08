import CardVault.Dialogue
import CardVault.Digest
import CardVault.Field
import CardVault.Settings

/-!
The key of a record: a user name and an address of at most 255 bytes each. Signatures cover the two
one after the other; on the wire each stands behind its length, so that only there the split between
them shows. An envelope is a key with the signature that asks for its record.
-/

namespace CardVault

structure RecordKey where
  username : Bytes
  address : Bytes
  username_short : username.length ≤ 255
  address_short : address.length ≤ 255
deriving DecidableEq, Repr

namespace RecordKey

def make (username address : Bytes) : Except ProtocolError RecordKey :=
  if usernameShort : username.length ≤ 255 then
    if addressShort : address.length ≤ 255 then
      .ok ⟨username, address, usernameShort, addressShort⟩
    else .error .addressTooLong
  else .error .usernameTooLong

/-- The bytes that a signature covers. -/
def canonical (key : RecordKey) : Bytes :=
  key.username ++ key.address

def wire (key : RecordKey) : Bytes :=
  Field.encode key.username ++ Field.encode key.address

theorem wire_length (key : RecordKey) :
    key.wire.length = 2 + key.username.length + key.address.length := by
  simp only [wire, Field.encode, List.length_append, List.length_cons]
  omega

def print (key : RecordKey) : Text :=
  text "RecordKey(user " ++ Text.decimal key.username.length ++ text "B, addr " ++
    Text.decimal key.address.length ++ text "B)"

end RecordKey

structure Envelope where
  key : RecordKey
  signature : Bytes
deriving DecidableEq, Repr

def Envelope.wire (envelope : Envelope) : Except ProtocolError Bytes :=
  Field.append envelope.key.wire envelope.signature

theorem Envelope.wire_short {key : RecordKey} {signature : Bytes} (short : signature.length ≤ 255) :
    (Envelope.mk key signature).wire = .ok (key.wire ++ Field.encode signature) := by
  simp [wire, Field.append, Nat.not_lt.mpr short]

theorem Envelope.text_length (key : RecordKey) (signature : Bytes) :
    (key.wire ++ Field.encode signature).length =
      3 + key.username.length + key.address.length + signature.length := by
  simp only [List.length_append, key.wire_length, Field.encode, List.length_cons]
  omega

theorem Envelope.wire_fits {key : RecordKey} {signature : Bytes}
    (fits : 3 + key.username.length + key.address.length + signature.length ≤ 255) :
    (Envelope.mk key signature).wire = .ok (key.wire ++ Field.encode signature) ∧
      (key.wire ++ Field.encode signature).length ≤ 255 := by
  constructor
  · exact wire_short (by omega)
  · rw [text_length]
    exact fits

theorem Envelope.signature_short {key : RecordKey} {signature : Bytes}
    (fits : (key.wire ++ Field.encode signature).length ≤ 255) : signature.length ≤ 255 := by
  rw [text_length] at fits
  omega

/-!
Authorization of reads. The signer, where there is one, signs either the canonical bytes or their
digest. Without a signer the signature is empty.
-/

structure Authorizer where
  hasSigner : Bool
  policy : DigestPolicy
deriving DecidableEq, Repr

namespace Authorizer

def subject (policy : DigestPolicy) (canonical : Bytes) : Bytes :=
  match policy with
  | .message => canonical
  | .sha256 => Digest.sha256 canonical

def sign (authorizer : Authorizer) (canonical : Bytes) : Dialogue Signature :=
  if authorizer.hasSigner then .sign (subject authorizer.policy canonical) .done
  else .done (.ok [])

def authorize (authorizer : Authorizer) (key : RecordKey) : Dialogue (Except Fault Envelope) :=
  (authorizer.sign key.canonical).map fun
    | .ok signature =>
        if signature.length > 255 then .error (.protocol (.signatureTooLong signature.length))
        else .ok ⟨key, signature⟩
    | .error fault => .error fault

end Authorizer

end CardVault
