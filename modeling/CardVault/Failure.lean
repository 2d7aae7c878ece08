import CardVault.Word

/-!
What can go wrong. A `ProtocolError` names the cause of a refusal by this client or by the card; its
kind, the status word it carries and its wording are functions of the cause. A `Fault` is anything
that can interrupt a conversation, and a `Failure` is what a session reports in the end.
-/

namespace CardVault

inductive Direction where
  | store
  | read
deriving DecidableEq, Repr

def Direction.name : Direction → Text
  | store => text "STORE"
  | read => text "READ"

inductive FixedOperation where
  | store
  | read
  | delete
deriving DecidableEq, Repr

inductive LaterStep where
  | advance
  | finalize
deriving DecidableEq, Repr

inductive ErrorKind where
  | connectionUnavailable
  | initRejected
  | chunkRejected
  | finalizeFailed
  | malformedResponse
  | noActiveOperation
  | operationInProgress
  | invalidArgument
deriving DecidableEq, Repr

namespace ErrorKind

def name : ErrorKind → Text
  | connectionUnavailable => text "ConnectionUnavailable"
  | initRejected => text "InitRejected"
  | chunkRejected => text "ChunkRejected"
  | finalizeFailed => text "FinalizeFailed"
  | malformedResponse => text "MalformedResponse"
  | noActiveOperation => text "NoActiveOperation"
  | operationInProgress => text "OperationInProgress"
  | invalidArgument => text "InvalidArgument"

def all : List ErrorKind :=
  [connectionUnavailable, initRejected, chunkRejected, finalizeFailed, malformedResponse,
    noActiveOperation, operationInProgress, invalidArgument]

def ofIndex? (index : Nat) : Option ErrorKind :=
  all[index]?

def nameAt (index : Nat) : Text :=
  match ofIndex? index with
  | some kind => kind.name
  | none => text "UnknownError"

/-- A call out of turn; it is refused and changes nothing. -/
def isOutOfTurn (kind : ErrorKind) : Bool :=
  kind == noActiveOperation || kind == operationInProgress

end ErrorKind

inductive ProtocolError where
  | commandTooLong (size : Nat)
  | fieldTooLong (size : Nat)
  | responseTooShort
  | wordMissing
  | usernameTooLong
  | addressTooLong
  | signatureTooLong (size : Nat)
  | initRejected (direction : Direction) (status : StatusWord)
  | lengthMissing (size : Nat)
  | chunkRejected (direction : Direction) (offset : UInt64) (status : StatusWord)
  | emptyChunk (status : StatusWord)
  | finalizeFailed (status : StatusWord)
  | outOfSequence (step : LaterStep)
  | fieldTooWide (field : Text) (size : Nat) (width : UInt64)
  | signatureOutside (size : Nat) (least most : UInt64)
  | fixedRejected (operation : FixedOperation) (status : StatusWord)
  | receiptTooShort (operation : FixedOperation)
  | linkLost (wording : Text)
  | raised (kind : ErrorKind) (status : Option StatusWord) (wording : Text)
deriving DecidableEq, Repr

namespace ProtocolError

def kind : ProtocolError → ErrorKind
  | commandTooLong _ | fieldTooLong _ | usernameTooLong | addressTooLong | signatureTooLong _
  | fieldTooWide _ _ _ | signatureOutside _ _ _ => .invalidArgument
  | responseTooShort | wordMissing | lengthMissing _ | emptyChunk _ | receiptTooShort _ =>
      .malformedResponse
  | initRejected _ _ | fixedRejected _ _ => .initRejected
  | chunkRejected _ _ _ => .chunkRejected
  | finalizeFailed _ => .finalizeFailed
  | outOfSequence _ => .noActiveOperation
  | linkLost _ => .connectionUnavailable
  | raised kind _ _ => kind

def status : ProtocolError → Option StatusWord
  | initRejected _ status | chunkRejected _ _ status | emptyChunk status | finalizeFailed status
  | fixedRejected _ status => some status
  | raised _ status _ => status
  | _ => none

def message : ProtocolError → Text
  | commandTooLong size =>
      text "Codec: Command data too long for one frame: " ++ Text.decimal size
  | fieldTooLong size =>
      text "Codec: Field too long for one-byte length prefix: " ++ Text.decimal size
  | responseTooShort => text "Codec: Response shorter than status word"
  | wordMissing => text "Codec: Not enough bytes for 16-bit field"
  | usernameTooLong => text "Username exceeds 255 bytes"
  | addressTooLong => text "Address exceeds 255 bytes"
  | signatureTooLong size =>
      text "Signature of " ++ Text.decimal size ++ text " bytes does not fit a length prefix"
  | initRejected .store _ => text "Store INIT rejected"
  | initRejected .read _ => text "Read INIT rejected"
  | lengthMissing size =>
      text "Read INIT response carries " ++ Text.decimal size ++
        text " bytes, expected a 2-byte length"
  | chunkRejected direction offset _ =>
      (match direction with
        | .store => text "Store chunk at offset "
        | .read => text "Read chunk at offset ") ++
        Text.decimal offset.toNat ++ text " rejected"
  | emptyChunk _ => text "More-data response without data"
  | finalizeFailed _ => text "Store FINALIZE failed"
  | outOfSequence step =>
      (match step with
        | .advance => text "CONTINUE"
        | .finalize => text "FINALIZE") ++
        text " without an active operation in that direction"
  | fieldTooWide field size width =>
      Text.untilNul field ++ text " is " ++ Text.decimal size ++ text " bytes, limit is " ++
        Text.decimal width.toNat
  | signatureOutside size least most =>
      text "Signature length " ++ Text.decimal size ++ text " outside [" ++
        Text.decimal least.toNat ++ text ", " ++ Text.decimal most.toNat ++ text "]"
  | fixedRejected operation status =>
      (match operation with
        | .store => text "store"
        | .read => text "read"
        | .delete => text "delete") ++
        text " rejected: " ++ status.describe
  | receiptTooShort operation =>
      (match operation with
        | .store => text "Store"
        | .read => text "Read"
        | .delete => text "Delete") ++
        text " receipt shorter than 2 bytes"
  | linkLost wording => Text.untilNul wording
  | raised _ _ wording => Text.untilNul wording

end ProtocolError

inductive CryptoOrigin where
  | general
  | keyLoad
  | signing
  | digest
deriving DecidableEq, Repr

def CryptoOrigin.heading : CryptoOrigin → Text
  | general => []
  | keyLoad => text "Key load error: "
  | signing => text "Signing error: "
  | digest => text "Digest error: "

inductive Fault where
  | protocol (error : ProtocolError)
  | link (wording : Text)
  | crypto (origin : CryptoOrigin) (wording : Text)
  | other (wording : Text)
deriving DecidableEq, Repr

def Fault.message : Fault → Text
  | protocol error => error.message
  | link wording => Text.untilNul wording
  | crypto origin wording => Text.untilNul (origin.heading ++ wording)
  | other wording => Text.untilNul wording

structure Failure where
  kind : ErrorKind
  status : Option StatusWord
  message : Text
deriving DecidableEq, Repr

-- A fault that is no protocol error says nothing about the card. One of keys or signatures counts as
-- a rejected beginning, whenever it arises; any other counts as a lost link.
def Fault.failure : Fault → Failure
  | protocol error => ⟨error.kind, error.status, error.message⟩
  | crypto origin wording => ⟨.initRejected, none, (Fault.crypto origin wording).message⟩
  | fault => ⟨.connectionUnavailable, none, fault.message⟩

/-!
Requests for memory. One that is out of all proportion is refused, and what the refusal says depends
on whether a size like that could be asked for at all.
-/

namespace Memory

inductive Use where
  | padding
  | collecting
deriving DecidableEq, Repr

def Use.impossible : Use → Text
  | padding => text "vector::_M_fill_insert"
  | collecting => text "vector::reserve"

/-- The size from which on no memory is large enough. -/
def tooMuch : UInt64 := 0x100000000

/-- The size from which on bytes could no longer be numbered. -/
def beyondNumbering : UInt64 := 0x8000000000000000

def request (use : Use) (size : UInt64) : Except Fault Unit :=
  if size ≥ beyondNumbering then .error (.other use.impossible)
  else if size ≥ tooMuch then .error (.other (text "std::bad_alloc"))
  else .ok ()

theorem request_ok {use : Use} {size : UInt64} (small : size < tooMuch) :
    request use size = .ok () := by
  have inside : ¬ size ≥ tooMuch := by
    simp only [UInt64.not_le, ge_iff_le]
    exact small
  have numbered : ¬ size ≥ beyondNumbering := by
    intro large
    rw [ge_iff_le, UInt64.le_iff_toNat_le] at large
    rw [UInt64.lt_iff_toNat_lt] at small
    simp [tooMuch, beyondNumbering] at small large
    omega
  simp [request, inside, numbered]

theorem request_refused {use : Use} {size : UInt64} (large : tooMuch ≤ size) :
    ∃ wording, request use size = .error (.other wording) := by
  unfold request
  by_cases unnumbered : size ≥ beyondNumbering
  · exact ⟨_, if_pos unnumbered⟩
  · exact ⟨_, (if_neg unnumbered).trans (if_pos large)⟩

end Memory

end CardVault
