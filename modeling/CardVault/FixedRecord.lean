import CardVault.RecordKey
import CardVault.Failure

/-!
Records of fixed width. A user name, an address and a message are each padded with zero bytes to
the widths of the settings and travel in a single frame; reading and deleting send the padded user
name and address, which name the record, with a signature over them. The zeros at the end of a
message that comes back are taken for padding.
-/

namespace CardVault

/-- The card's account of a fixed record: where it is or was, and how many records there are. -/
structure Receipt where
  index : UInt8
  count : UInt8
deriving DecidableEq, Repr

def Receipt.bytes (receipt : Receipt) : Bytes :=
  [receipt.index, receipt.count]

namespace FixedRecord

/-- A field followed by zeros up to a width; `name` is what an error calls the field. -/
def pad (field : Bytes) (width : UInt64) (name : Text) : Except Fault Bytes :=
  if field.length > width.toNat then .error (.protocol (.fieldTooWide name field.length width))
  else (Memory.request .padding width).map fun _ => field ++ List.replicate (width.toNat - field.length) 0

def strip (data : Bytes) : Bytes :=
  (data.reverse.dropWhile (· == 0)).reverse

variable (settings : Settings)

def identity (username : Text) : Bytes :=
  match settings.identityEncoding with
  | .pad => username
  | .sha256 => Digest.sha256 username

def packUsername (username : Text) : Except Fault Bytes :=
  pad (identity settings username) settings.usernameWidth (text "username")

def packAddress (address : Text) : Except Fault Bytes :=
  pad address settings.addressWidth (text "address")

def packMessage (message : Bytes) : Except Fault Bytes :=
  pad message settings.messageWidth (text "message")

def name (username address : Text) : Except Fault Bytes := do
  let packedUsername ← packUsername settings username
  let packedAddress ← packAddress settings address
  return packedUsername ++ packedAddress

def content (username address : Text) (message : Bytes) : Except Fault Bytes := do
  let packedName ← name settings username address
  let packedMessage ← packMessage settings message
  return packedName ++ packedMessage

def code : FixedOperation → UInt8
  | .store => settings.fixedStoreCode
  | .read => settings.fixedReadCode
  | .delete => settings.fixedDeleteCode

def command (operation : FixedOperation) (data : Bytes) : Command :=
  { Command.bare settings.cla (code settings operation) with data := data }

def request (operation : FixedOperation) (data : Bytes) : Dialogue (Except Fault Response) :=
  (Dialogue.exchangeFor (.fixed operation) (command settings operation data)).map fun
    | .ok response =>
        if response.status.isSuccess then .ok response
        else .error (.protocol (.fixedRejected operation response.status))
    | .error fault => .error fault

def receipt (operation : FixedOperation) (response : Response) : Except Fault Receipt :=
  match response.data with
  | index :: count :: _ => .ok ⟨index, count⟩
  | _ => .error (.protocol (.receiptTooShort operation))

def signedName (authorizer : Authorizer) (username address : Text) :
    Dialogue (Except Fault Bytes) :=
  match name settings username address with
  | .error fault => .done (.error fault)
  | .ok packed => (authorizer.sign packed).map fun
    | .error fault => .error fault
    | .ok signature =>
        if signature.length < settings.leastSignature.toNat ∨
            signature.length > settings.mostSignature.toNat then
          .error (.protocol (.signatureOutside signature.length settings.leastSignature
            settings.mostSignature))
        else .ok (packed ++ signature)

def store (username address : Text) (message : Bytes) : Dialogue (Except Fault Receipt) :=
  match content settings username address message with
  | .error fault => .done (.error fault)
  | .ok data => (request settings .store data).map fun
    | .error fault => .error fault
    | .ok response => receipt .store response

def read (authorizer : Authorizer) (username address : Text) : Dialogue (Except Fault Bytes) :=
  (signedName settings authorizer username address).bind fun
    | .error fault => .done (.error fault)
    | .ok data => (request settings .read data).map fun
      | .error fault => .error fault
      | .ok response => .ok (strip response.data)

def delete (authorizer : Authorizer) (username address : Text) :
    Dialogue (Except Fault Receipt) :=
  (signedName settings authorizer username address).bind fun
    | .error fault => .done (.error fault)
    | .ok data => (request settings .delete data).map fun
      | .error fault => .error fault
      | .ok response => receipt .delete response

/-- A request in the name of a record, and what is made of the answer. Reading and deleting are two of
them. -/
def signedRequest {α : Type} (authorizer : Authorizer) (username address : Text)
    (operation : FixedOperation) (change : Except Fault Response → Except Fault α) :
    Dialogue (Except Fault α) :=
  (signedName settings authorizer username address).bind fun
    | .error fault => .done (.error fault)
    | .ok data => (request settings operation data).map change

end FixedRecord

end CardVault
