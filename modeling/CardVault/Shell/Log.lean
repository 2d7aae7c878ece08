import CardVault.Session.Call
import CardVault.Shell

/-!
The log of a run of the shell. It has an entry for each line that is carried out, with the files, the
session and the peer as that line finds them; what the line asks of the session and what it comes to
follow from these.
-/

namespace CardVault

namespace Shell

variable {σ : Type}

/-- The call of the session that a request makes. A file without content and a key that cannot be
made keep the session out of it. -/
def Request.call? (opened : Text → Opened) : Request → Option Call
  | .store username address file =>
      match opened file, RecordKey.make username address with
      | .content payload, .ok key => some (.store key payload)
      | _, _ => none
  | .read username address | .readInto username address _ =>
      (RecordKey.make username address).toOption.map .read
  | .storeFixed username address message => some (.storeFixed username address message)
  | .readFixed username address => some (.readFixed username address)
  | .deleteFixed username address => some (.deleteFixed username address)
  | _ => none

def Request.ask (opened : Text → Opened) (session : Session) (request : Request) :
    Dialogue (Option Result × Session) :=
  match request.call? opened with
  | some call => session.perform call
  | none => .done (none, session)

def ended (input : Text) : Text :=
  if input.getLast?.all (· == 10) then input else input ++ Text.newline

/-- The lines up to and including the first that ends the run, or all of them. -/
def through (ends : Text → Bool) : List Text → List Text
  | [] => []
  | line :: others => line :: if ends line then [] else through ends others

def quits (line : Text) : Bool :=
  (word line).1 == text "quit"

def Request.storesDirectory (places : Places) : Request → Bool
  | .store _ _ file => Files.locate? places file == some .directory
  | _ => false

def storesDirectory (places : Places) (line : Text) : Bool :=
  (Request.parse line).storesDirectory places

structure Entry (σ : Type) where
  line : Text
  files : Files
  session : Session
  state : σ

namespace Entry

def transcript (peer : Peer σ) (entry : Entry σ) : Transcript σ Turn :=
  (turn entry.files entry.session entry.line).run peer entry.state

def left (peer : Peer σ) (entry : Entry σ) : Session :=
  (entry.transcript peer).value.session

def printed (peer : Peer σ) (entry : Entry σ) : Text :=
  let turn := (entry.transcript peer).value
  turn.output ++ if turn.outlook = .more then prompt else []

def asked (peer : Peer σ) (entry : Entry σ) : Transcript σ (Option Result × Session) :=
  ((Request.parse entry.line).ask entry.files.read entry.session).run peer entry.state

def Loses (peer : Peer σ) (entry : Entry σ) : Prop :=
  ∃ failure, (entry.asked peer).value.1 = some (.error failure) ∧
    failure.kind = .connectionUnavailable

end Entry

def log (peer : Peer σ) (files : Files) (session : Session) (state : σ) :
    List Text → List (Entry σ)
  | [] => []
  | line :: others =>
      let entry : Entry σ := ⟨line, files, session, state⟩
      let transcript := entry.transcript peer
      let turn := transcript.value
      entry ::
        if turn.outlook = .more then log peer turn.files turn.session transcript.peer others else []

end Shell

/-!
Results as the shell reads them. A result has a part for each thing it may tell, and the shell takes
from it the parts that its request calls for without asking whether they are there. Reading a part
that is missing makes for no answer at all.
-/

namespace Result

def payload? : Result → Option Bytes
  | .ok payload => payload
  | .error _ => none

def kind? : Result → Option ErrorKind
  | .ok _ => none
  | .error failure => some failure.kind

def status? : Result → Option StatusWord
  | .ok _ => none
  | .error failure => failure.status

def message : Result → Text
  | .ok _ => []
  | .error failure => failure.message

def receipt? (result : Result) : Option Receipt := do
  let payload ← result.payload?
  return ⟨← payload[0]?, ← payload[1]?⟩

end Result

namespace Shell

namespace Request

def action? : Request → Option Text
  | .store _ _ _ => some (text "Store")
  | .read _ _ | .readInto _ _ _ => some (text "Read")
  | .storeFixed _ _ _ => some (text "Fixed store")
  | .readFixed _ _ => some (text "Fixed read")
  | .deleteFixed _ _ => some (text "Fixed delete")
  | _ => none

def target? : Request → Option Text
  | .readInto _ _ file => some file
  | _ => none

def succeed? (opened : Text → Opened) (result : Result) : Request → Option Reaction
  | .store _ _ file =>
      match opened file with
      | .content payload => some (.print (stored payload))
      | _ => none
  | .read _ _ | .readFixed _ _ =>
      result.payload?.map fun payload => .print (payload ++ Text.newline)
  | .readInto _ _ file => result.payload?.map fun payload => .save file payload
  | .storeFixed _ _ _ => result.receipt?.map fun receipt => .print (storedAt receipt)
  | .deleteFixed _ _ => result.receipt?.map fun receipt => .print (deletedAt receipt)
  | _ => none

def complain? (result : Result) (request : Request) : Option Reaction := do
  let action ← request.action?
  let kind ← result.kind?
  return .print (failed action ⟨kind, result.status?, result.message⟩)

def answer? (opened : Text → Opened) (result : Result) (request : Request) : Option Reaction :=
  if result.isOk then request.succeed? opened result else request.complain? result

end Request

end Shell

end CardVault
